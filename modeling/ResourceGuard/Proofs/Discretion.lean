import ResourceGuard.Proofs.SideBySide

/-! # What the log does not tell

Of a request the log gives the subject, the method's permission and the URI, of a response
that came back its code, and of a transport error its reason and URI. Bodies, tokens,
message ids and message types are in no entry, and decide about none; nor do they get there
later with a request that was parked. So two runs that differ in nothing else leave the
same log. -/
namespace ResourceGuard

/-- Two requests of which the log tells the same. -/
structure Request.LoggedAlike (r s : Request) : Prop where
  identity : r.identity = s.identity
  method : r.method = s.method
  uri : r.uri = s.uri

/-- Two responses of which the log tells the same; by the token a matcher knows its own. -/
structure Response.LoggedAlike (r s : Response) : Prop where
  code : r.code = s.code
  token : r.token = s.token

/-- Two transport errors of which the log tells the same. -/
structure TransportError.LoggedAlike (e f : TransportError) : Prop where
  reason : e.reason = f.reason
  uri : e.uri = f.uri

/-- Two calls of which the log tells the same. -/
inductive Call.LoggedAlike : Call → Call → Prop
  | request (peer : Endpoint) {r s : Request} (h : r.LoggedAlike s) :
      LoggedAlike (.request peer r) (.request peer s)
  | response (peer : Endpoint) {r s : Response} (h : r.LoggedAlike s) :
      LoggedAlike (.response peer r) (.response peer s)
  | transportError (peer : Endpoint) {e f : TransportError} (h : e.LoggedAlike f) :
      LoggedAlike (.transportError peer e) (.transportError peer f)
  | same (call : Call) : LoggedAlike call call

/-- The transport takes, or fails to take, what it is given here as it does there; and if
it fails, it says the same. -/
def Answers.TakesAlike (answers other : Answers) (contacts contacts' : List Contact) : Prop :=
  ∀ peer r s, .send peer r ∈ contacts → .send peer s ∈ contacts' →
    answers.transport peer r = other.transport peer s

namespace Guard

/-- Two guards that the log tells the same of: all that the one may have in another's place
is a request that is parked, and of the two the log tells the same. -/
structure LoggedAlike (g h : Guard) : Prop where
  setup : h = { g with context := h.context }
  phase : g.context.phase = h.context.phase
  pending : Option.Rel (fun d e => d.peer = e.peer ∧ d.request.LoggedAlike e.request)
    g.context.pending h.context.pending

/-- At both moments the same is done, up to what the log does not tell, and the
collaborators answer the same. The matchers go by tokens and by nothing else. -/
structure Moment.LoggedAlike (m n : Moment) : Prop where
  call : m.turn.call.LoggedAlike n.turn.call
  properties : m.turn.answers.properties = n.turn.answers.properties
  verdict : m.turn.answers.verdict = n.turn.answers.verdict
  manager : m.turn.answers.manager = n.turn.answers.manager
  transport : m.turn.answers.TakesAlike n.turn.answers m.reaction.contacts n.reaction.contacts
  claims : ∀ matcher peer r s, r.token = s.token →
    m.turn.answers.claims matcher peer r = n.turn.answers.claims matcher peer s

end Guard

/-- The log tells the same of both reactions, and of the guards that they leave. -/
structure Reaction.LoggedAlike {α : Type} (r s : Reaction Guard α) : Prop where
  entries : r.entries = s.entries
  next : r.next.LoggedAlike s.next

namespace Guard

variable {g h : Guard} {answers other : Answers} {r s : Request} {peer : Endpoint}

/-! ## Guards -/

theorem loggedAlike_of_idle (hn : g.context.pending = none) : g.LoggedAlike g := by
  refine ⟨rfl, rfl, ?_⟩
  rw [hn]
  exact .none

namespace LoggedAlike

theorem config_eq (hg : g.LoggedAlike h) : g.config = h.config := by rw [hg.setup]

theorem hasManager_eq (hg : g.LoggedAlike h) : g.hasManager = h.hasManager := by rw [hg.setup]

theorem handlers_eq (hg : g.LoggedAlike h) : g.handlers = h.handlers := by rw [hg.setup]

theorem settled (hg : g.LoggedAlike h) (query : AccessQuery) :
    ({ g with context := .settled query } : Guard).LoggedAlike
      { h with context := .settled query } := by
  rw [hg.setup]
  exact ⟨rfl, rfl, .none⟩

theorem parking (hg : g.LoggedAlike h) (query : AccessQuery) (peer : Endpoint)
    (hr : r.LoggedAlike s) :
    ({ g with context := .parking query ⟨peer, r⟩ } : Guard).LoggedAlike
      { h with context := .parking query ⟨peer, s⟩ } := by
  rw [hg.setup]
  exact ⟨rfl, rfl, .some ⟨rfl, hr⟩⟩

theorem cleared (hg : g.LoggedAlike h) :
    ({ g with context := g.context.cleared } : Guard).LoggedAlike
      { h with context := h.context.cleared } := by
  refine ⟨?_, rfl, .none⟩
  rw [hg.setup]

/-- A guard that comes to have the one's context is like it with the other's. -/
theorem withContext (hg : g.LoggedAlike h) {k : Guard} (hk : k.context = g.context) :
    k.LoggedAlike { k with context := h.context } := by
  refine ⟨rfl, ?_, ?_⟩
  · rw [hk, hg.phase]
  · rw [hk]
    exact hg.pending

theorem pending_eq_none (hg : g.LoggedAlike h) (hn : g.context.pending = none) :
    h.context.pending = none := by
  have hpending := hg.pending
  rw [hn] at hpending
  cases hother : h.context.pending with
  | none => rfl
  | some e =>
    rw [hother] at hpending
    cases hpending

theorem exists_pending (hg : g.LoggedAlike h) {d : Delegation} (hn : g.context.pending = some d) :
    ∃ s : Request, h.context.pending = some ⟨d.peer, s⟩ ∧ d.request.LoggedAlike s := by
  have hpending := hg.pending
  rw [hn] at hpending
  cases hother : h.context.pending with
  | none =>
    rw [hother] at hpending
    cases hpending
  | some e =>
    rw [hother] at hpending
    cases hpending with
    | some hd =>
      obtain ⟨hpeer, hrequest⟩ := hd
      exact ⟨e.request, by rw [hpeer], hrequest⟩

end LoggedAlike

end Guard

theorem Request.LoggedAlike.alike {r s : Request} (h : r.LoggedAlike s) : r.Alike s :=
  ⟨h.identity, h.method, congrArg pathOf h.uri⟩

theorem Request.LoggedAlike.path {r s : Request} (h : r.LoggedAlike s) : r.path = s.path := by
  rw [Request.path, Request.path, h.uri]

namespace Reaction.LoggedAlike

variable {α β : Type} {t u : Reaction Guard α}

theorem map (h : t.LoggedAlike u) (f : α → β) : (t.map f).LoggedAlike (u.map f) :=
  ⟨h.entries, h.next⟩

theorem after (h : t.LoggedAlike u) (contacts contacts' : List Contact)
    (entries : List AuditEntry) :
    (t.after contacts entries).LoggedAlike (u.after contacts' entries) :=
  ⟨congrArg (entries ++ ·) h.entries, h.next⟩

end Reaction.LoggedAlike

namespace Guard

variable {g h : Guard} {answers other : Answers} {r s : Request} {peer : Endpoint}

/-! ## One call -/

theorem transport_eq_of_last {p q : Response} {contacts contacts' : List Contact}
    (htakes : answers.TakesAlike other (contacts ++ [.send peer p]) (contacts' ++ [.send peer q])) :
    answers.transport peer p = other.transport peer q :=
  htakes peer p q (List.mem_append_right _ List.mem_cons_self)
    (List.mem_append_right _ List.mem_cons_self)

/-- If the transport does the same with two responses that have one code, the log tells the
same. -/
theorem loggedAlike_transmit (hg : g.LoggedAlike h) {p q : Response} {outcome : Outcome}
    (htakes : answers.transport peer p = other.transport peer q) (hcode : p.code = q.code) :
    (transmit g answers peer p outcome).LoggedAlike (transmit h other peer q outcome) := by
  refine ⟨?_, hg⟩
  unfold transmit
  rw [htakes, hcode]

theorem loggedAlike_refuse (hg : g.LoggedAlike h) {code : ResponseCode} {delivery : Delivery}
    (htakes : answers.transport peer (r.reply code delivery) =
      other.transport peer (s.reply code delivery)) :
    (refuse g answers peer r code delivery).LoggedAlike (refuse h other peer s code delivery) :=
  loggedAlike_transmit hg htakes rfl

theorem loggedAlike_acknowledge (hg : g.LoggedAlike h)
    (htakes : answers.transport peer r.slowReply = other.transport peer s.slowReply) :
    (acknowledge g answers peer r).LoggedAlike (acknowledge h other peer s) :=
  loggedAlike_transmit hg htakes rfl

theorem loggedAlike_deliver (hg : g.LoggedAlike h) {app : AppName} :
    (deliver g app peer r).LoggedAlike (deliver h app peer s) :=
  ⟨rfl, hg⟩

theorem screeningEntries_eq (hg : g.LoggedAlike h) (hr : r.LoggedAlike s) (screening : Screening) :
    g.screeningEntries r screening = h.screeningEntries s screening := by
  rw [screeningEntries_congr hg.config_eq hg.phase]
  unfold screeningEntries
  rw [hr.identity, hr.path]

theorem loggedAlike_request (hg : g.LoggedAlike h) (hc : g.Consistent) (hh : h.Consistent)
    (hproperties : answers.properties = other.properties)
    (hverdict : answers.verdict = other.verdict) (hmanager : answers.manager = other.manager)
    (hr : r.LoggedAlike s)
    (htakes : answers.TakesAlike other (g.onRequest answers peer r).contacts
      (h.onRequest other peer s).contacts) :
    (g.onRequest answers peer r).LoggedAlike (h.onRequest other peer s) := by
  have hscreen : g.screen answers r = h.screen other s :=
    screen_congr hg.config_eq hg.handlers_eq hg.phase hr.alike hproperties
  have hscreening := screeningEntries_eq hg hr
  have hquery : r.query = s.query := hr.alike.query
  have hfault : answers.managerFault g.hasManager r.query =
      other.managerFault h.hasManager s.query := by
    rw [managerFault_congr hmanager, hg.hasManager_eq, hquery]
  have hexit := onRequest_exit hc answers peer r
  generalize g.onRequest answers peer r = t at hexit htakes
  cases hexit with
  | screened hs =>
    rw [hscreen, hg.config_eq] at hs
    rw [onRequest_of_screened hs] at htakes ⊢
    rw [hscreening, hscreen]
    exact (loggedAlike_refuse hg (transport_eq_of_last htakes)).after _ _ _
  | granted hs hv =>
    rw [hscreen] at hs
    rw [hverdict, hquery] at hv
    rw [← (RequestExit.granted hs hv).eq_onRequest hh, hquery, hscreening]
    exact (loggedAlike_deliver (hg.settled s.query)).after _ _ _
  | denied hs hv =>
    rw [hscreen] at hs
    rw [hverdict, hquery] at hv
    rw [← (RequestExit.denied hs hv).eq_onRequest hh] at htakes ⊢
    rw [hquery, hscreening]
    exact (loggedAlike_refuse (hg.settled s.query) (transport_eq_of_last htakes)).after _ _ _
  | parked hs hv hm =>
    rw [hscreen] at hs
    rw [hverdict, hquery] at hv
    rw [hfault] at hm
    rw [← (RequestExit.parked hs hv hm).eq_onRequest hh] at htakes ⊢
    rw [hquery, hscreening, hr.path]
    -- of the two that are parked, a decision or a shutdown will tell the same later
    exact (loggedAlike_acknowledge (hg.parking s.query peer hr)
      (transport_eq_of_last htakes)).after _ _ _
  | unparked hs hv hm =>
    rw [hscreen] at hs
    rw [hverdict, hquery] at hv
    rw [hfault] at hm
    rw [← (RequestExit.unparked hs hv hm).eq_onRequest hh] at htakes ⊢
    rw [hquery, hscreening, hr.path]
    exact (loggedAlike_refuse (hg.settled s.query) (transport_eq_of_last htakes)).after _ _ _

/-- A decision is logged with what is left of the parked request: its URI. -/
theorem loggedAlike_decision (hg : g.LoggedAlike h) (decision : ManagerDecision)
    (htakes : answers.TakesAlike other (g.onDecision answers decision).contacts
      (h.onDecision other decision).contacts) :
    (g.onDecision answers decision).LoggedAlike (h.onDecision other decision) := by
  have hexit := onDecision_exit g answers decision
  generalize g.onDecision answers decision = t at hexit htakes
  cases hexit with
  | unexpected hn =>
    rw [onDecision_of_idle (hg.pending_eq_none hn)]
    exact ⟨rfl, hg⟩
  | replayed hn hd hh =>
    obtain ⟨s, hs, hrequest⟩ := hg.exists_pending hn
    rw [hg.handlers_eq] at hh
    rw [← (DecisionExit.replayed hs hd hh).eq_onDecision, hrequest.uri]
    exact ((loggedAlike_deliver hg.cleared).map _).after _ _ _
  | unhandled hn hd hh =>
    obtain ⟨s, hs, hrequest⟩ := hg.exists_pending hn
    rw [hg.handlers_eq] at hh
    rw [← (DecisionExit.unhandled hs hd hh).eq_onDecision] at htakes ⊢
    rw [hrequest.uri]
    exact ((loggedAlike_refuse hg.cleared (transport_eq_of_last htakes)).map _).after _ _ _
  | rejected hn hd =>
    obtain ⟨s, hs, hrequest⟩ := hg.exists_pending hn
    rw [← (DecisionExit.rejected hs hd).eq_onDecision] at htakes ⊢
    rw [hrequest.uri]
    exact ((loggedAlike_refuse hg.cleared (transport_eq_of_last htakes)).map _).after _ _ _

theorem loggedAlike_shutdown (hg : g.LoggedAlike h) : g.shutdown.LoggedAlike h.shutdown := by
  refine ⟨?_, hg.cleared⟩
  cases hn : g.context.pending with
  | none => simp [shutdown, Engine.reset, engine, hn, hg.pending_eq_none hn]
  | some d =>
    obtain ⟨s, hs, hrequest⟩ := hg.exists_pending hn
    simp [shutdown, Engine.reset, engine, hn, hs, hrequest.uri]

theorem loggedAlike_response (hg : g.LoggedAlike h) {p q : Response} (hp : p.LoggedAlike q)
    (hclaims : ∀ matcher, answers.claims matcher peer p = other.claims matcher peer q) :
    (g.onResponse answers peer p).LoggedAlike (h.onResponse other peer q) := by
  have hclaimed : g.claims answers peer p = h.claims other peer q := by
    rw [claims, claims, funext hclaims, hg.setup]
  refine ⟨?_, ?_⟩
  · rw [entries_onResponse, entries_onResponse, hclaimed, hg.handlers_eq, hp.code]
  · rw [next_onResponse, next_onResponse]
    exact hg

theorem loggedAlike_transportError (hg : g.LoggedAlike h) {e f : TransportError}
    (he : e.LoggedAlike f) : (g.onError peer e).LoggedAlike (h.onError peer f) := by
  refine ⟨?_, hg⟩
  rw [onError, onError, he.reason, he.uri]

theorem loggedAlike_of_other (hg : g.LoggedAlike h) {call : Call}
    (hcall : call.concernsRequests = false) (hclaims : answers.claims = other.claims) :
    (g.step answers call).LoggedAlike (h.step other call) := by
  rw [step_of_setup hg.setup hcall, ← step_of_claims hcall hclaims]
  exact ⟨rfl, hg.withContext (context_step hcall)⟩

theorem claims_eq_of_token (h : ∀ matcher peer r s, Response.token r = s.token →
    answers.claims matcher peer r = other.claims matcher peer s) :
    answers.claims = other.claims := by
  funext matcher peer r
  exact h matcher peer r r rfl

theorem loggedAlike_moment {m n : Moment} (hlinked : m.guard.LoggedAlike n.guard)
    (hc : m.guard.Consistent) (hh : n.guard.Consistent) (hm : m.LoggedAlike n) :
    m.reaction.LoggedAlike n.reaction := by
  obtain ⟨g, answers, call⟩ := m
  obtain ⟨h, other, call'⟩ := n
  obtain ⟨hcall, hproperties, hverdict, hmanager, htakes, hclaims⟩ := hm
  change (g.step answers call).LoggedAlike (h.step other call')
  cases hcall with
  | request peer hr =>
    exact (loggedAlike_request hlinked hc hh hproperties hverdict hmanager hr htakes).map _
  | response peer hp =>
    exact (loggedAlike_response hlinked hp fun matcher => hclaims matcher peer _ _ hp.token).map _
  | transportError peer he =>
    rw [step, step]
    exact (loggedAlike_transportError hlinked he).map _
  | same =>
    cases hconcerns : Call.concernsRequests call with
    | false => exact loggedAlike_of_other hlinked hconcerns (claims_eq_of_token hclaims)
    | true =>
      cases call with
      | request peer request =>
        exact (loggedAlike_request hlinked hc hh hproperties hverdict hmanager ⟨rfl, rfl, rfl⟩
          htakes).map _
      | decision decision =>
        rw [step_decision, step_decision]
        exact (loggedAlike_decision hlinked decision htakes).map _
      | shutdown =>
        rw [step_shutdown, step_shutdown]
        exact (loggedAlike_shutdown hlinked).map _
      | _ => cases hconcerns

/-! ## Whole runs -/

/-- **Bodies and correlation secrets never reach the log.** Take two runs of a new guard
with the same settings, in which the same is done and everybody answers the same; but the
requests may have other bodies, tokens, message ids and message types, the responses that
come back other bodies, message ids, message types and URIs, and the transport errors other
tokens. At every call the two guards log the same. -/
theorem log_is_discreet (config : Config) (hasManager : Bool) {first second : List Turn}
    (hmoments : List.Forall₂ Moment.LoggedAlike ((fresh config hasManager).moments first)
      ((fresh config hasManager).moments second)) :
    ((fresh config hasManager).run first).map Reaction.entries =
      ((fresh config hasManager).run second).map Reaction.entries := by
  have hfresh := consistent_fresh config hasManager
  have hsame : List.Forall₂ (fun m n => m.reaction.entries = n.reaction.entries)
      ((fresh config hasManager).moments first) ((fresh config hasManager).moments second) := by
    refine forall₂_moments (fun g h => g.LoggedAlike h ∧ g.Consistent ∧ h.Consistent) ?_
      ⟨loggedAlike_of_idle rfl, hfresh, hfresh⟩ hmoments
    rintro m n ⟨hlinked, hc, hh⟩ hm
    have hreaction := loggedAlike_moment hlinked hc hh hm
    exact ⟨hreaction.entries, hreaction.next, consistent_step hc _ _, consistent_step hh _ _⟩
  rw [run_eq, run_eq, ← List.forall₂_eq_eq_eq, List.map_map, List.map_map,
    List.forall₂_map_left_iff, List.forall₂_map_right_iff]
  exact hsame

namespace Lamp

/-- Collaborators of whom the transport takes nothing. -/
def outOfReach : Answers := { deferring with transport _ _ := .error ⟨.transport, "out of reach"⟩ }

/-- The phone asks, and is denied; a response comes back, and a transport error. -/
def conversing (request : Request) (response : Response) (error : TransportError) : List Turn :=
  [⟨deferring, .registerHandlers (some "lamp") (some "lamp") (some "lamp")⟩,
    ⟨deferring, .request phone request⟩, ⟨outOfReach, .decision .denied⟩,
    ⟨deferring, .response phone response⟩, ⟨deferring, .transportError phone error⟩]

/-- The same question with another body, token, message id and message type. -/
def askSecretly : Request :=
  { ask with payload := [42], token := ⟨[1, 2, 3]⟩, messageId := 9, messageType := .nonConfirmable }

def status : Response where
  code := .ok
  messageType := .acknowledge
  token := ⟨[5]⟩
  messageId := 3
  uri := "/status"
  payload := none

def secretStatus : Response :=
  { status with
    messageType := .confirmable, messageId := 4, uri := "/secret", payload := some [42] }

def openly : List Turn := conversing ask status ⟨"timeout", ⟨[6]⟩, "/light"⟩

def secretly : List Turn := conversing askSecretly secretStatus ⟨"timeout", ⟨[7]⟩, "/light"⟩

end Lamp

/-- Of the secret conversation the log tells what it tells of the open one. -/
theorem log_is_discreet_lamp :
    List.Forall₂ Moment.LoggedAlike ((fresh {} true).moments Lamp.openly)
        ((fresh {} true).moments Lamp.secretly) ∧
      ((fresh {} true).run Lamp.openly).map Reaction.entries =
        ((fresh {} true).run Lamp.secretly).map Reaction.entries := by
  have halike {g h : Guard} {call call' : Call} (hcall : call.LoggedAlike call') :
      (⟨g, Lamp.deferring, call⟩ : Moment).LoggedAlike ⟨h, Lamp.deferring, call'⟩ :=
    ⟨hcall, rfl, rfl, rfl, fun _ _ _ _ _ => rfl, fun _ _ _ _ _ => rfl⟩
  have hdenied {g h : Guard} {call : Call} :
      (⟨g, Lamp.outOfReach, call⟩ : Moment).LoggedAlike ⟨h, Lamp.outOfReach, call⟩ :=
    ⟨.same call, rfl, rfl, rfl, fun _ _ _ _ _ => rfl, fun _ _ _ _ _ => rfl⟩
  have hmoments : List.Forall₂ Moment.LoggedAlike ((fresh {} true).moments Lamp.openly)
      ((fresh {} true).moments Lamp.secretly) := by
    refine .cons (halike (.same _)) (.cons (halike ?_) (.cons hdenied (.cons (halike ?_)
      (.cons (halike ?_) .nil))))
    · exact .request Lamp.phone ⟨rfl, rfl, rfl⟩
    · exact .response Lamp.phone ⟨rfl, rfl⟩
    · exact .transportError Lamp.phone ⟨rfl, rfl⟩
  exact ⟨hmoments, log_is_discreet {} true hmoments⟩

end Guard

end ResourceGuard
