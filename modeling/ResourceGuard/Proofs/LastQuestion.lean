import Mathlib.Data.List.Basic
import ResourceGuard.Proofs.PlainChannel

/-! # One question to all

The list, the context and the access manager are concerned with the same thing. The
context tells of the last question that the list was asked, whatever has happened since;
the access manager is asked nothing but what the list has just been asked; and as long as
a request is parked, that question was about it. -/
namespace ResourceGuard

/-- The context tells of this question, or of none. -/
structure Context.TellsOf (c : Context) (last : Option AccessQuery) : Prop where
  subject : c.subject = (last.map AccessQuery.subject).getD .anonymous
  permission : c.permission = (last.map AccessQuery.permission).getD .none
  resource : c.resource = (last.map AccessQuery.resource).getD none

namespace Guard

/-- After these moments, the guard and all whom it asked have been concerned with the
same. -/
structure AsksTheSame (past : List Moment) (g : Guard) : Prop where
  tellsOf : g.context.TellsOf (past.flatMap fun m => m.reaction.resolved).getLast?
  delegated : ∀ m ∈ past, ∀ before query after,
    m.reaction.contacts = before ++ .delegate query :: after →
      m.turn.answers.verdict query = .requiresManager ∧
        ∃ first, before = first ++ [.resolve query]
  parked : ∀ d, g.context.pending = some d →
    g.context.subject = d.request.identity ∧
      g.context.permission = d.request.method.requiredPermission ∧
      g.context.resource = VirtualResource.classify d.request.uri

variable {g : Guard} {answers : Answers}

/-! ## What the context tells -/

/-- The context tells of this question, and it is the one about the parked request. -/
structure Recalls (g : Guard) (last : Option AccessQuery) : Prop where
  tellsOf : g.context.TellsOf last
  parked : ∀ d, g.context.pending = some d → last = some d.request.query

theorem recalls_settled (g : Guard) (query : AccessQuery) :
    Recalls { g with context := .settled query } (some query) := by
  refine ⟨⟨rfl, rfl, rfl⟩, fun d hd => ?_⟩
  cases hd

theorem recalls_parking (g : Guard) {query : AccessQuery} {d : Delegation}
    (h : query = d.request.query) :
    Recalls { g with context := .parking query d } (some query) := by
  refine ⟨⟨rfl, rfl, rfl⟩, fun e he => ?_⟩
  obtain rfl : d = e := Option.some.inj he
  rw [h]

theorem Recalls.cleared {last : Option AccessQuery} (h : Recalls g last) :
    Recalls { g with context := g.context.cleared } last := by
  refine ⟨⟨h.tellsOf.subject, h.tellsOf.permission, h.tellsOf.resource⟩, fun d hd => ?_⟩
  cases hd

theorem recalls_request (hc : g.Consistent) {last : Option AccessQuery} (h : Recalls g last)
    (answers : Answers) (peer : Endpoint) (request : Request) :
    Recalls (g.step answers (.request peer request)).next
      ((g.step answers (.request peer request)).resolved.getLast?.or last) := by
  rw [step_request]
  have hexit := onRequest_exit hc answers peer request
  generalize g.onRequest answers peer request = r at hexit
  cases hexit with
  | screened => simpa using h
  | granted | denied | unparked =>
    have hrecalls := recalls_settled g request.query
    simpa using hrecalls
  | parked =>
    have hrecalls := recalls_parking g (d := ⟨peer, request⟩) rfl
    simpa using hrecalls

theorem recalls_decision {last : Option AccessQuery} (h : Recalls g last) (answers : Answers)
    (decision : ManagerDecision) :
    Recalls (g.step answers (.decision decision)).next
      ((g.step answers (.decision decision)).resolved.getLast?.or last) := by
  rw [step_decision]
  have hexit := onDecision_exit g answers decision
  generalize g.onDecision answers decision = r at hexit
  cases hexit with
  | unexpected => exact h
  | replayed | unhandled | rejected => simpa using h.cleared

theorem recalls_step (hc : g.Consistent) {last : Option AccessQuery} (h : Recalls g last)
    (answers : Answers) (call : Call) :
    Recalls (g.step answers call).next ((g.step answers call).resolved.getLast?.or last) := by
  cases hcall : call.concernsRequests with
  | false =>
    have hcontext : (g.step answers call).next.context = g.context := context_step hcall
    have hquiet : (g.step answers call).Quiet := quiet_step (.inl hcall)
    rw [hquiet.resolved]
    constructor
    · rw [hcontext]
      exact h.tellsOf
    · rw [hcontext]
      exact h.parked
  | true =>
    cases call with
    | request peer request => exact recalls_request hc h answers peer request
    | decision decision => exact recalls_decision h answers decision
    | shutdown => exact h.cleared
    | _ => cases hcall

theorem recalls_afterTurns (hc : g.Consistent) (h : Recalls g none) (turns : List Turn) :
    Recalls (g.afterTurns turns)
      ((g.moments turns).flatMap fun m => m.reaction.resolved).getLast? := by
  rw [List.getLast?_flatMap]
  exact latest_afterTurns (f := fun m => m.reaction.resolved.getLast?)
    (fun m _ hm hrecalls => recalls_step hm hrecalls m.turn.answers m.turn.call) hc h turns

/-! ## What the access manager is asked -/

theorem asked_of_contacts {peer : Endpoint} {request : Request} {response : Response}
    {before after : List Contact} {query : AccessQuery}
    (h : g.screeningContacts request ++
          .resolve request.query :: managerContacts g.hasManager request.query ++
        [.send peer response] = before ++ .delegate query :: after) :
    query = request.query ∧ before = g.screeningContacts request ++ [.resolve request.query] := by
  have hscreening : .delegate query ∉ g.screeningContacts request := by
    unfold screeningContacts
    split <;> simp
  cases hm : g.hasManager with
  | false =>
    have hmem : .delegate query ∈ before ++ .delegate query :: after := by simp
    rw [← h, hm] at hmem
    simp [managerContacts, hscreening] at hmem
  | true =>
    have hcontacts : (g.screeningContacts request ++ [.resolve request.query]) ++
        .delegate request.query :: [.send peer response] = before ++ .delegate query :: after := by
      rw [← h, hm]
      simp [managerContacts]
    -- the access manager is asked once, so the list can be cut at that place only
    rw [List.append_cons_inj_of_notMem (by simp [hscreening]) (by simp)] at hcontacts
    obtain ⟨rfl, hquery, -⟩ := hcontacts
    exact ⟨(Contact.delegate.inj hquery).symm, rfl⟩

theorem asked_of_request (hc : g.Consistent) {peer : Endpoint} {request : Request}
    {before after : List Contact} {query : AccessQuery}
    (h : (g.onRequest answers peer request).contacts = before ++ .delegate query :: after) :
    answers.verdict query = .requiresManager ∧ ∃ first, before = first ++ [.resolve query] := by
  have hdelegated : query ∈ (g.onRequest answers peer request).delegated :=
    Reaction.mem_delegated.mpr (by simp [h])
  have hexit := onRequest_exit hc answers peer request
  generalize g.onRequest answers peer request = r at h hdelegated hexit
  cases hexit with
  | screened | granted | denied => simp at hdelegated
  | parked hs hv | unparked hs hv =>
    obtain ⟨rfl, rfl⟩ := asked_of_contacts h
    exact ⟨hv, _, rfl⟩

/-- Just before the access manager is asked, the list left the same question to it. -/
theorem asked_of_step (hc : g.Consistent) {call : Call} {before after : List Contact}
    {query : AccessQuery}
    (h : (g.step answers call).contacts = before ++ .delegate query :: after) :
    answers.verdict query = .requiresManager ∧ ∃ first, before = first ++ [.resolve query] := by
  have hmem : .delegate query ∈ (g.step answers call).contacts := by simp [h]
  obtain ⟨peer, request, rfl, -⟩ := request_of_asked hc (.inr hmem)
  rw [step_request, Reaction.contacts_map] at h
  exact asked_of_request hc h

/-- **One question to all.** At every point of every run of a new guard, the context tells
of the last question to the list, or of none if there was none; the access manager has
been asked nothing that the list had not just left to it; and the last question is about
the parked request, if there is one. -/
theorem asksTheSame_afterTurns (config : Config) (hasManager : Bool) (turns : List Turn) :
    AsksTheSame ((fresh config hasManager).moments turns)
      ((fresh config hasManager).afterTurns turns) := by
  have hc := consistent_fresh config hasManager
  have hfresh : Recalls (fresh config hasManager) none := by
    refine ⟨⟨rfl, rfl, rfl⟩, fun d hd => ?_⟩
    cases hd
  have hrecalls := recalls_afterTurns hc hfresh turns
  refine ⟨hrecalls.tellsOf, ?_, ?_⟩
  · intro m hm before query after h
    exact asked_of_step (consistent_moment hc hm) h
  · intro d hd
    obtain ⟨hsubject, hpermission, hresource⟩ := hrecalls.tellsOf
    rw [hrecalls.parked d hd, Request.query_eq] at hsubject hpermission hresource
    exact ⟨hsubject, hpermission, hresource⟩

end Guard

end ResourceGuard
