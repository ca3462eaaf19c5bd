import Mathlib.Data.List.Forall2
import ResourceGuard.Proofs.Runs

/-! # Guards side by side

Two guards with the same settings and registrations differ in their contexts at most.
The checks look at the phase of a context and at nothing else in it, and at who asks,
for what and by which path; and a call that does not concern requests does the same
whatever the context is. -/
namespace ResourceGuard

/-- Two requests by the same subject, with the same method and for the same path. -/
structure Request.Alike (r s : Request) : Prop where
  identity : r.identity = s.identity
  method : r.method = s.method
  path : pathOf r.uri = pathOf s.uri

theorem Request.Alike.query {r s : Request} (h : r.Alike s) : r.query = s.query := by
  rw [Request.query, Request.query, Request.path, Request.path, h.identity, h.method, h.path]

/-- The calls that concern replies: responses, transport errors, and who is there for
them beside the application. -/
def Call.concernsReplies : Call → Bool
  | .response .. => true
  | .transportError .. => true
  | .installMatcher _ => true
  | .registerStorage _ => true
  | _ => false

/-- The reaction without what it logs. -/
def Reaction.unlogged {σ α : Type} (r : Reaction σ α) : Reaction σ α := { r with entries := [] }

theorem Reaction.unlogged_eq_iff {σ α : Type} {r s : Reaction σ α} :
    r.unlogged = s.unlogged ↔
      r.result = s.result ∧ r.next = s.next ∧ r.contacts = s.contacts := by
  simp [unlogged]

namespace Guard

variable {g h : Guard} {answers other : Answers}

theorem screen_congr {r s : Request} (hconfig : g.config = h.config)
    (hhandlers : g.handlers = h.handlers) (hphase : g.context.phase = h.context.phase)
    (hrequest : r.Alike s) (hproperties : answers.properties = other.properties) :
    g.screen answers r = h.screen other s := by
  unfold screen isExposed asksDirectory Request.path
  rw [hconfig, hhandlers, hphase, hrequest.identity, hrequest.path, hproperties]

theorem screeningContacts_congr {r s : Request} (hconfig : g.config = h.config)
    (hrequest : r.Alike s) : g.screeningContacts r = h.screeningContacts s := by
  unfold screeningContacts asksDirectory Request.path
  rw [hconfig, hrequest.identity, hrequest.path]

theorem screeningEntries_congr (hconfig : g.config = h.config)
    (hphase : g.context.phase = h.context.phase) (request : Request) (screening : Screening) :
    g.screeningEntries request screening = h.screeningEntries request screening := by
  unfold screeningEntries
  rw [hconfig, hphase]

theorem managerFault_congr (h : answers.manager = other.manager) (hasManager : Bool)
    (query : AccessQuery) :
    answers.managerFault hasManager query = other.managerFault hasManager query := by
  unfold Answers.managerFault
  rw [h]

/-- The calls that do not concern requests do the same in any context, and leave it. -/
theorem step_withContext {call : Call} (h : call.concernsRequests = false) (c : Context) :
    ({ g with context := c } : Guard).step answers call =
      (g.step answers call).within fun k => { k with context := c } := by
  obtain ⟨config, hasManager, context, handlers, matcher, storage⟩ := g
  cases call with
  | request | decision | shutdown => cases h
  | response peer response =>
    cases matcher with
    | none => cases handlers <;> rfl
    | some matcher =>
      cases hclaims : answers.claims matcher peer response with
      | true =>
        simp only [step, onResponse, hclaims, if_true]
        rfl
      | false =>
        simp only [step, onResponse, hclaims, Bool.false_eq_true, if_false]
        cases handlers <;> rfl
  | transportError | unregisterHandlers | installMatcher => rfl
  | registerHandlers request response error =>
    cases request <;> cases response <;> cases error <;> rfl
  | registerStorage store => cases store <;> rfl

theorem step_of_setup (hsetup : h = { g with context := h.context }) {call : Call}
    (hcall : call.concernsRequests = false) :
    h.step answers call =
      (g.step answers call).within fun k => { k with context := h.context } := by
  calc h.step answers call
    _ = ({ g with context := h.context } : Guard).step answers call := by rw [← hsetup]
    _ = _ := step_withContext hcall h.context

/-- Of all that the collaborators say, these calls go by what the matcher says. -/
theorem step_of_claims {call : Call} (h : call.concernsRequests = false)
    (hclaims : answers.claims = other.claims) : g.step answers call = g.step other call := by
  cases call with
  | request | decision | shutdown => cases h
  | response peer response => rw [step, step, onResponse, onResponse, hclaims]
  | _ => rfl

/-- What the transport says matters to none of these calls. -/
theorem step_withTransport {call : Call} (h : call.concernsRequests = false)
    (transport : Endpoint → Response → Except Fault Unit) :
    g.step { answers with transport } call = g.step answers call :=
  step_of_claims h rfl

/-! ## The request path without the way back

Nothing that happens to a request depends on the matcher or the store that is installed,
nor on what the transport and the matcher say, except for what the log tells of the
transport. -/

section Beside
variable (matcher : Option MatcherName) (storage : Option StoreName)
  (transport : Endpoint → Response → Except Fault Unit)
  (claims : MatcherName → Endpoint → Response → Bool)

theorem RequestExit.beside {peer : Endpoint} {request : Request} {r : Reaction Guard Outcome}
    (h : RequestExit g answers peer request r) :
    ∃ s, RequestExit ({ g with matcher, storage } : Guard) { answers with transport, claims } peer
        request s ∧
      s.unlogged = (r.within fun k => { k with matcher, storage }).unlogged := by
  cases h with
  | screened hs => exact ⟨_, .screened hs, rfl⟩
  | granted hs hv => exact ⟨_, .granted hs hv, rfl⟩
  | denied hs hv => exact ⟨_, .denied hs hv, rfl⟩
  | parked hs hv hm => exact ⟨_, .parked hs hv hm, rfl⟩
  | unparked hs hv hm => exact ⟨_, .unparked hs hv hm, rfl⟩

theorem DecisionExit.beside {decision : ManagerDecision}
    {r : Reaction Guard (Except AccessError Outcome)} (h : DecisionExit g answers decision r) :
    ∃ s, DecisionExit ({ g with matcher, storage } : Guard) { answers with transport, claims }
        decision s ∧
      s.unlogged = (r.within fun k => { k with matcher, storage }).unlogged := by
  cases h with
  | unexpected hn => exact ⟨_, .unexpected hn, rfl⟩
  | replayed hn hd hh => exact ⟨_, .replayed hn hd hh, rfl⟩
  | unhandled hn hd hh => exact ⟨_, .unhandled hn hd hh, rfl⟩
  | rejected hn hd => exact ⟨_, .rejected hn hd, rfl⟩

theorem unlogged_step (hc : g.Consistent) (answers : Answers) {call : Call}
    (h : call.concernsReplies = false) :
    (({ g with matcher, storage } : Guard).step { answers with transport, claims } call).unlogged =
      ((g.step answers call).within fun k => { k with matcher, storage }).unlogged := by
  cases call with
  | request peer request =>
    obtain ⟨r, hr, hsame⟩ :=
      (onRequest_exit hc answers peer request).beside matcher storage transport claims
    rw [step_request, step_request, ← hr.eq_onRequest hc]
    generalize g.onRequest answers peer request = first at hsame ⊢
    exact congrArg (Reaction.map Return.outcome) hsame
  | decision decision =>
    obtain ⟨r, hr, hsame⟩ :=
      (onDecision_exit g answers decision).beside matcher storage transport claims
    rw [step_decision, step_decision, ← hr.eq_onDecision]
    generalize g.onDecision answers decision = first at hsame ⊢
    exact congrArg (Reaction.map Return.ofDecision) hsame
  | registerHandlers request response error =>
    cases request <;> cases response <;> cases error <;> rfl
  | unregisterHandlers | shutdown => rfl
  | response | transportError | installMatcher | registerStorage => cases h

end Beside

/-! ## Whole runs -/

/-- What two linked guards do alike at a moment each, they do alike all the time, if they
are linked after it as they were before. -/
theorem forall₂_moments (Linked : Guard → Guard → Prop) {Alike Same : Moment → Moment → Prop}
    (hstep : ∀ {m n}, Linked m.guard n.guard → Alike m n →
      Same m n ∧ Linked m.reaction.next n.reaction.next)
    {g h : Guard} (hlinked : Linked g h) {first second : List Turn}
    (hmoments : List.Forall₂ Alike (g.moments first) (h.moments second)) :
    List.Forall₂ Same (g.moments first) (h.moments second) := by
  induction first generalizing g h second with
  | nil =>
    cases second with
    | nil => exact .nil
    | cons => cases hmoments
  | cons turn first ih =>
    cases second with
    | nil => cases hmoments
    | cons turn' second =>
      cases hmoments with
      | cons hmoment hrest =>
        obtain ⟨hsame, hnext⟩ := hstep hlinked hmoment
        exact .cons hsame (ih hnext hrest)

/-- The same where it is the turns that are alike, whatever guard they find. -/
theorem forall₂_run (Linked : Guard → Guard → Prop) {Alike : Turn → Turn → Prop}
    {Same : Reaction Guard Return → Reaction Guard Return → Prop}
    (hstep : ∀ {g h t u}, Linked g h → Alike t u →
      Same (g.step t.answers t.call) (h.step u.answers u.call) ∧
        Linked (g.step t.answers t.call).next (h.step u.answers u.call).next)
    {g h : Guard} (hlinked : Linked g h) {first second : List Turn}
    (hturns : List.Forall₂ Alike first second) :
    List.Forall₂ Same (g.run first) (h.run second) := by
  rw [run_eq, run_eq, List.forall₂_map_left_iff, List.forall₂_map_right_iff]
  refine forall₂_moments Linked hstep hlinked ?_
  rw [← map_turn_moments g first, ← map_turn_moments h second, List.forall₂_map_left_iff,
    List.forall₂_map_right_iff] at hturns
  exact hturns

end Guard

end ResourceGuard
