import Mathlib.Data.List.Forall2
import ResourceGuard.Proofs.SideBySide
import ResourceGuard.Proofs.Surroundings

/-! # What decisions depend on

Who asks, with which method, and by which path is all of a request that decides
anything. Its sender, body, token, message id, message type and query are kept for the
replies, and for the application; but no question to anybody mentions them, and neither
does any check. So two runs whose requests differ in nothing else go the same way, even
if one transport takes what the other does not. -/
namespace ResourceGuard

/-- Two calls that are the same, up to what decides nothing about a request. -/
inductive Call.Alike : Call → Call → Prop
  | request {peer peer' : Endpoint} {r s : Request} (h : r.Alike s) :
      Alike (.request peer r) (.request peer' s)
  | same (call : Call) : Alike call call

/-- The contact without what decides nothing about a request. -/
def Contact.blank : Contact → Contact
  | .send _ response => .send default { (default : Response) with code := response.code }
  | .handRequest app _ _ => .handRequest app default default
  | c => c

/-- The contact itself, when it does not concern requests. -/
def Contact.beside? (c : Contact) : Option Contact :=
  if c.concernsRequests then none else some c

namespace Guard

/-- Two guards that would decide alike: all that one may have parked in another's place
is a request. -/
structure Alike (g h : Guard) : Prop where
  setup : h = { g with context := h.context }
  phase : g.context.phase = h.context.phase
  resource : g.context.resource = h.context.resource
  subject : g.context.subject = h.context.subject
  permission : g.context.permission = h.context.permission
  parked : g.context.pending.isSome = h.context.pending.isSome

/-- The same is returned at both moments, and leaves the guards in states that look the
same; the same is asked; the same applications have a request each, and responses with
the same codes are sent; and what concerns responses and transport errors is the same
altogether. -/
structure SameDecision (m n : Moment) : Prop where
  result : m.reaction.result = n.reaction.result
  phase : m.reaction.next.context.phase = n.reaction.next.context.phase
  parked : m.reaction.next.context.pending.isSome = n.reaction.next.context.pending.isSome
  resource : m.reaction.next.context.resource = n.reaction.next.context.resource
  lookedUp : m.reaction.lookedUp = n.reaction.lookedUp
  resolved : m.reaction.resolved = n.reaction.resolved
  delegated : m.reaction.delegated = n.reaction.delegated
  handed : m.reaction.handed.map (fun delivery => delivery.1) =
    n.reaction.handed.map fun delivery => delivery.1
  codes : m.reaction.sent.map (fun sending => sending.2.code) =
    n.reaction.sent.map fun sending => sending.2.code
  beside : m.reaction.view Contact.beside? = n.reaction.view Contact.beside?

end Guard

/-- Two reactions of guards that would decide alike, to calls that are the same up to
what decides nothing. -/
structure Reaction.Alike {α : Type} (r s : Reaction Guard α) : Prop where
  result : r.result = s.result
  next : r.next.Alike s.next
  contacts : r.contacts.map Contact.blank = s.contacts.map Contact.blank

namespace Reaction.Alike

variable {α β γ : Type} {r s : Reaction Guard α}

theorem map (h : r.Alike s) (f : α → β) : (r.map f).Alike (s.map f) :=
  ⟨congrArg f h.result, h.next, h.contacts⟩

theorem after (h : r.Alike s) (contacts : List Contact) (entries entries' : List AuditEntry) :
    (r.after contacts entries).Alike (s.after contacts entries') := by
  refine ⟨h.result, h.next, ?_⟩
  rw [Reaction.contacts_after, Reaction.contacts_after, List.map_append, List.map_append,
    h.contacts]

/-- Views that leave out what decides nothing are the same. -/
theorem view_eq (h : r.Alike s) {f : Contact → Option γ} (hf : ∀ c, f c.blank = f c) :
    r.view f = s.view f := by
  have hview (t : Reaction Guard α) : t.view f = (t.contacts.map Contact.blank).filterMap f := by
    rw [List.filterMap_map, Reaction.view]
    exact List.filterMap_congr fun c _ => (hf c).symm
  rw [hview r, hview s, h.contacts]

theorem history_after (h : r.Alike s) (history : History) : history.after r = history.after s := by
  have hlookedUp : r.lookedUp = s.lookedUp := h.view_eq fun c => by cases c <;> rfl
  have hresolved : r.resolved = s.resolved := h.view_eq fun c => by cases c <;> rfl
  have hdelegated : r.delegated = s.delegated := h.view_eq fun c => by cases c <;> rfl
  have hoffered : r.offered = s.offered := h.view_eq fun c => by cases c <;> rfl
  rw [History.after, History.after, hlookedUp, hresolved, hdelegated, hoffered]

end Reaction.Alike

namespace Guard

variable {g h : Guard} {answers : Answers} {transport : Transport}

theorem Alike.refl (g : Guard) : g.Alike g := ⟨rfl, rfl, rfl, rfl, rfl, rfl⟩

theorem Alike.settled (hg : g.Alike h) (query : AccessQuery) :
    ({ g with context := .settled query } : Guard).Alike
      { h with context := .settled query } := by
  rw [hg.setup]
  exact ⟨rfl, rfl, rfl, rfl, rfl, rfl⟩

theorem Alike.parking (hg : g.Alike h) (query : AccessQuery) (d e : Delegation) :
    ({ g with context := .parking query d } : Guard).Alike
      { h with context := .parking query e } := by
  rw [hg.setup]
  exact ⟨rfl, rfl, rfl, rfl, rfl, rfl⟩

theorem Alike.cleared (hg : g.Alike h) :
    ({ g with context := g.context.cleared } : Guard).Alike
      { h with context := h.context.cleared } := by
  refine ⟨?_, rfl, hg.resource, hg.subject, hg.permission, rfl⟩
  rw [hg.setup]

theorem alike_refuse (hg : g.Alike h) {answers other : Answers} {peer peer' : Endpoint}
    {r s : Request} {code : ResponseCode} {delivery : Delivery} :
    (refuse g answers peer r code delivery).Alike (refuse h other peer' s code delivery) :=
  ⟨rfl, hg, rfl⟩

theorem alike_acknowledge (hg : g.Alike h) {answers other : Answers} {peer peer' : Endpoint}
    {r s : Request} : (acknowledge g answers peer r).Alike (acknowledge h other peer' s) :=
  ⟨rfl, hg, rfl⟩

theorem alike_deliver (hg : g.Alike h) {app : AppName} {peer peer' : Endpoint}
    {r s : Request} : (deliver g app peer r).Alike (deliver h app peer' s) :=
  ⟨rfl, hg, rfl⟩

/-! ## One call -/

theorem alike_request (hg : g.Alike h) (hc : g.Consistent) (hh : h.Consistent)
    (answers : Answers) (transport : Transport) {peer peer' : Endpoint} {r s : Request}
    (hr : r.Alike s) :
    (g.onRequest answers peer r).Alike (h.onRequest { answers with transport } peer' s) := by
  have hconfig : g.config = h.config := by rw [hg.setup]
  have hhandlers : g.handlers = h.handlers := by rw [hg.setup]
  have hmanager : g.hasManager = h.hasManager := by rw [hg.setup]
  have hscreen : g.screen answers r = h.screen { answers with transport } s :=
    screen_congr hconfig hhandlers hg.phase hr rfl
  have hscreening : g.screeningContacts r = h.screeningContacts s :=
    screeningContacts_congr hconfig hr
  have hcontacts : managerContacts g.hasManager s.query = managerContacts h.hasManager s.query := by
    rw [hmanager]
  have hquery : r.query = s.query := hr.query
  have hexit := onRequest_exit hc answers peer r
  generalize g.onRequest answers peer r = t at hexit
  cases hexit with
  | screened hs =>
    rw [hscreen, hconfig] at hs
    rw [onRequest_of_screened hs, hscreening]
    exact (alike_refuse hg).after _ _ _
  | granted hs hv =>
    rw [hscreen] at hs
    rw [hquery] at hv ⊢
    rw [← (RequestExit.granted hs hv).eq_onRequest hh, hscreening]
    exact (alike_deliver (hg.settled s.query)).after _ _ _
  | denied hs hv =>
    rw [hscreen] at hs
    rw [hquery] at hv ⊢
    rw [← (RequestExit.denied hs hv).eq_onRequest hh, hscreening]
    exact (alike_refuse (hg.settled s.query)).after _ _ _
  | parked hs hv hm =>
    -- two requests are parked, and nothing but that they are is the same
    rw [hscreen] at hs
    rw [hquery] at hv hm ⊢
    rw [hmanager] at hm
    rw [← (RequestExit.parked hs hv hm).eq_onRequest hh, hscreening, hcontacts]
    exact (alike_acknowledge (hg.parking s.query _ _)).after _ _ _
  | unparked hs hv hm =>
    rw [hscreen] at hs
    rw [hquery] at hv hm ⊢
    rw [hmanager] at hm
    rw [← (RequestExit.unparked hs hv hm).eq_onRequest hh, hscreening, hcontacts]
    exact (alike_refuse (hg.settled s.query)).after _ _ _

theorem Alike.pending_eq_none (hg : g.Alike h) (hn : g.context.pending = none) :
    h.context.pending = none := by
  have hparked := hg.parked
  rw [hn] at hparked
  exact Option.not_isSome_iff_eq_none.mp (by simp [← hparked])

theorem Alike.exists_pending (hg : g.Alike h) {d : Delegation}
    (hn : g.context.pending = some d) : ∃ e, h.context.pending = some e := by
  have hparked := hg.parked
  rw [hn] at hparked
  exact Option.isSome_iff_exists.mp hparked.symm

theorem alike_decision (hg : g.Alike h) (answers : Answers) (transport : Transport)
    (decision : ManagerDecision) :
    (g.onDecision answers decision).Alike (h.onDecision { answers with transport } decision) := by
  have hhandlers : g.handlers = h.handlers := by rw [hg.setup]
  have hexit := onDecision_exit g answers decision
  generalize g.onDecision answers decision = t at hexit
  cases hexit with
  | unexpected hn =>
    rw [onDecision_of_idle (hg.pending_eq_none hn)]
    exact ⟨rfl, hg, rfl⟩
  | replayed hn hd happ =>
    obtain ⟨e, he⟩ := hg.exists_pending hn
    rw [hhandlers] at happ
    rw [← (DecisionExit.replayed he hd happ).eq_onDecision]
    exact ((alike_deliver hg.cleared).map _).after _ _ _
  | unhandled hn hd happ =>
    obtain ⟨e, he⟩ := hg.exists_pending hn
    rw [hhandlers] at happ
    rw [← (DecisionExit.unhandled he hd happ).eq_onDecision]
    exact ((alike_refuse hg.cleared).map _).after _ _ _
  | rejected hn hd =>
    obtain ⟨e, he⟩ := hg.exists_pending hn
    rw [← (DecisionExit.rejected he hd).eq_onDecision]
    exact ((alike_refuse hg.cleared).map _).after _ _ _

/-- A guard that comes to have the one's context is like it with the other's. -/
theorem Alike.withContext (hg : g.Alike h) {k : Guard} (hk : k.context = g.context) :
    k.Alike { k with context := h.context } := by
  refine ⟨rfl, ?_, ?_, ?_, ?_, ?_⟩
  · rw [hk, hg.phase]
  · rw [hk, hg.resource]
  · rw [hk, hg.subject]
  · rw [hk, hg.permission]
  · rw [hk, hg.parked]

theorem alike_of_other (hg : g.Alike h) {call : Call} (hcall : call.concernsRequests = false)
    (answers : Answers) (transport : Transport) :
    (g.step answers call).Alike (h.step { answers with transport } call) := by
  have hstep : h.step { answers with transport } call =
      (g.step answers call).within fun k => { k with context := h.context } :=
    (step_withTransport hcall transport).trans (step_of_setup hg.setup hcall)
  rw [hstep]
  constructor
  · rw [Reaction.result_within]
  · exact hg.withContext (context_step hcall)
  · rw [Reaction.contacts_within]

theorem alike_step (hg : g.Alike h) (hc : g.Consistent) (hh : h.Consistent) (answers : Answers)
    (transport : Transport) {call call' : Call} (hcall : call.Alike call') :
    (g.step answers call).Alike (h.step { answers with transport } call') := by
  cases hcall with
  | request hr => exact (alike_request hg hc hh answers transport hr).map _
  | same =>
    cases hconcerns : call.concernsRequests with
    | false => exact alike_of_other hg hconcerns answers transport
    | true =>
      cases call with
      | request peer request =>
        exact (alike_request hg hc hh answers transport ⟨rfl, rfl, rfl⟩).map _
      | decision decision =>
        rw [step_decision, step_decision]
        exact (alike_decision hg answers transport decision).map _
      | shutdown => exact ⟨rfl, hg.cleared, rfl⟩
      | _ => cases hconcerns

/-! ## A whole run -/

theorem sameDecision_of_alike {m n : Moment} (h : m.reaction.Alike n.reaction) :
    SameDecision m n where
  result := h.result
  phase := h.next.phase
  parked := h.next.parked
  resource := h.next.resource
  lookedUp := h.view_eq fun c => by cases c <;> rfl
  resolved := h.view_eq fun c => by cases c <;> rfl
  delegated := h.view_eq fun c => by cases c <;> rfl
  handed := by
    rw [Reaction.handed, Reaction.handed, Reaction.view, Reaction.view, List.map_filterMap,
      List.map_filterMap]
    exact h.view_eq fun c => by cases c <;> rfl
  codes := by
    rw [Reaction.sent, Reaction.sent, Reaction.view, Reaction.view, List.map_filterMap,
      List.map_filterMap]
    exact h.view_eq fun c => by cases c <;> rfl
  beside := h.view_eq fun c => by cases c <;> rfl

theorem sameDecisions_of_alike (surroundings : Surroundings)
    {first second : List (Transport × Call)}
    (hcalls : List.Forall₂ (fun a b => a.2.Alike b.2) first second) (history : History)
    {g h : Guard} (hg : g.Alike h) (hc : g.Consistent) (hh : h.Consistent) :
    List.Forall₂ SameDecision (g.moments (surroundings.turns g history first))
      (h.moments (surroundings.turns h history second)) := by
  induction hcalls generalizing g h history with
  | nil => exact .nil
  | @cons a b first second hhead htail ih =>
    obtain ⟨transport, call⟩ := a
    obtain ⟨transport', call'⟩ := b
    have halike : (g.step (surroundings.answers history transport) call).Alike
        (h.step (surroundings.answers history transport') call') :=
      alike_step hg hc hh (surroundings.answers history transport) transport' hhead
    rw [Surroundings.moments_turns_cons, Surroundings.moments_turns_cons]
    refine .cons (sameDecision_of_alike halike) ?_
    -- everybody has been asked the same so far, and so goes on to answer the same
    rw [← halike.history_after]
    exact ih _ halike.next (consistent_step hc _ _) (consistent_step hh _ _)

/-- **Decisions depend on who asks, for what, and by which path.** Take two sequences of
calls to new guards with the same settings, the same but for what decides nothing about
a request, and let the directory, the list, the access manager and the matchers answer
both by what they have been asked, while the transports take what they like. At every
moment the two guards return the same, look the same, ask the same, hand something to
the same applications, and send responses with the same codes. -/
theorem decisions_depend_on_path (config : Config) (hasManager : Bool)
    (surroundings : Surroundings) {first second : List (Transport × Call)}
    (hcalls : List.Forall₂ (fun a b => a.2.Alike b.2) first second) :
    List.Forall₂ SameDecision
      ((fresh config hasManager).moments
        (surroundings.turns (fresh config hasManager) {} first))
      ((fresh config hasManager).moments
        (surroundings.turns (fresh config hasManager) {} second)) :=
  sameDecisions_of_alike surroundings hcalls {} (Alike.refl _)
    (consistent_fresh config hasManager) (consistent_fresh config hasManager)

namespace Lamp

/-- Surroundings that leave every question to the access manager, which takes it. -/
def surroundings : Surroundings where
  directory _ := none
  list _ := .requiresManager
  manager _ := .ok ()
  matcher _ := false

def taking : Transport := fun _ _ => .ok ()

def failing : Transport := fun _ _ => .error ⟨.transport, "out of reach"⟩

def askPlainly : Request :=
  { ask with
    uri := "/light", payload := [0], token := ⟨[]⟩, messageId := 9,
    messageType := .nonConfirmable }

def onPhone : List (Transport × Call) :=
  [(taking, .registerHandlers (some "lamp") (some "lamp") (some "lamp")),
    (taking, .request phone ask), (taking, .decision .granted)]

def onTablet : List (Transport × Call) :=
  [(taking, .registerHandlers (some "lamp") (some "lamp") (some "lamp")),
    (failing, .request tablet askPlainly), (failing, .decision .granted)]

end Lamp

/-- The tablet is heard as the phone is, with another query, token and body; that its reply
is lost does not help it, and does not harm it. -/
theorem decisions_depend_on_path_lamp :
    List.Forall₂ (fun a b => a.2.Alike b.2) Lamp.onPhone Lamp.onTablet ∧
      List.Forall₂ SameDecision
        ((fresh {} true).moments (Lamp.surroundings.turns (fresh {} true) {} Lamp.onPhone))
        ((fresh {} true).moments (Lamp.surroundings.turns (fresh {} true) {} Lamp.onTablet)) := by
  have hask : Lamp.ask.Alike Lamp.askPlainly := ⟨rfl, rfl, by decide +kernel⟩
  have hcalls : List.Forall₂ (fun a b => a.2.Alike b.2) Lamp.onPhone Lamp.onTablet :=
    .cons (.same _) (.cons (.request hask) (.cons (.same _) .nil))
  exact ⟨hcalls, decisions_depend_on_path {} true Lamp.surroundings hcalls⟩

end Guard

end ResourceGuard
