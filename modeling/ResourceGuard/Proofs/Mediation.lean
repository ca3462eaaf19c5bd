import Mathlib.Data.List.Induction
import ResourceGuard.Proofs.Classification
import ResourceGuard.Proofs.Delegations
import ResourceGuard.Proofs.Runs

/-! # Complete mediation

Nothing reaches an application that nobody allowed. A request is handed over in
one of two moments: the one it came in at, when the list granted it there and
then; or a later one, when the access manager grants what was parked. What is
parked came in at an earlier moment, was put to the list and to the access
manager as it is, and nothing since has taken it up. -/
namespace ResourceGuard

/-- What is asked about a request, in terms of its URI as sent. -/
theorem Request.query_eq (r : Request) :
    r.query =
      { subject := r.identity
        path := pathOf r.uri
        permission := r.method.requiredPermission
        resource := VirtualResource.classify r.uri } := by
  rw [Request.query, Request.path, VirtualResource.classify_congr (pathOf_pathOf r.uri)]

namespace Guard

/-- The request came in at this moment, and the list, asked this one question,
granted it. -/
structure Moment.Grants (m : Moment) (peer : Endpoint) (request : Request) (query : AccessQuery) :
    Prop where
  call : m.turn.call = .request peer request
  resolved : m.reaction.resolved = [query]
  verdict : m.turn.answers.verdict query = .granted

/-- The request came in at this moment; the list, asked this one question, left it
to the access manager, the access manager took the question, and the request was
acknowledged. -/
structure Moment.Parks (m : Moment) (peer : Endpoint) (request : Request) (query : AccessQuery) :
    Prop where
  call : m.turn.call = .request peer request
  resolved : m.reaction.resolved = [query]
  verdict : m.turn.answers.verdict query = .requiresManager
  delegated : m.reaction.delegated = [query]
  taken : m.turn.answers.manager query = .ok ()
  result : m.reaction.result = .outcome .acknowledged

/-! ## What one step parks and hands over -/

/-- A moment that leaves what is parked alone, and parks nothing itself. -/
structure Moment.Keeps (m : Moment) : Prop where
  call : m.turn.call.endsDelegation = false
  result : m.reaction.result ≠ .outcome .acknowledged

/-- Whatever a step leaves parked came in with it, or was parked before and has not
been taken up. -/
theorem parks_of_step {g : Guard} (hc : g.Consistent) {answers : Answers} {call : Call}
    {d : Delegation} (h : (g.step answers call).next.context.pending = some d) :
    (g.context.pending = some d ∧ Moment.Keeps ⟨g, answers, call⟩) ∨
      Moment.Parks ⟨g, answers, call⟩ d.peer d.request d.request.query := by
  cases delegationStep hc answers call with
  | kept hcall hnext _ hresult => exact .inl ⟨hnext ▸ h, hcall, hresult⟩
  | @opened peer request hcall _ hnext hresolved hverdict hdelegated hmanager hresult =>
    obtain rfl : ⟨peer, request⟩ = d := Option.some.inj (hnext.symm.trans h)
    exact .inr ⟨hcall, hresolved, hverdict, hdelegated, hmanager, hresult⟩
  | closed _ hnext => cases hnext.symm.trans h

theorem grants_of_request {g : Guard} (hc : g.Consistent) {answers : Answers}
    {sender : Endpoint} {received : Request} {app : AppName} {peer : Endpoint} {request : Request}
    (h : (app, peer, request) ∈ (g.step answers (.request sender received)).handed) :
    Moment.Grants ⟨g, answers, .request sender received⟩ peer request request.query := by
  rw [step_request] at h
  have hstep := congrArg Reaction.resolved (step_request g answers sender received)
  have hexit := onRequest_exit hc answers sender received
  generalize g.onRequest answers sender received = r at h hstep hexit
  cases hexit with
  | granted hs hv =>
    obtain ⟨-, rfl, rfl⟩ : app = _ ∧ peer = sender ∧ request = received := by simpa using h
    refine ⟨rfl, hstep.trans ?_, hv⟩
    simp
  | screened | denied | parked | unparked => simp at h

theorem pending_of_decision {g : Guard} {answers : Answers} {decision : ManagerDecision}
    {app : AppName} {peer : Endpoint} {request : Request}
    (h : (app, peer, request) ∈ (g.step answers (.decision decision)).handed) :
    decision = .granted ∧ g.context.pending = some ⟨peer, request⟩ := by
  rw [step_decision] at h
  have hexit := onDecision_exit g answers decision
  generalize g.onDecision answers decision = r at h hexit
  cases hexit with
  | replayed hn hd hh =>
    obtain ⟨-, rfl, rfl⟩ : app = _ ∧ peer = _ ∧ request = _ := by simpa using h
    exact ⟨hd, hn⟩
  | unexpected => cases h
  | unhandled | rejected => simp at h

/-- What a step hands over came in with it, and the list granted it; or it was
parked, and the access manager grants it. -/
theorem grants_of_step {g : Guard} (hc : g.Consistent) {answers : Answers} {call : Call}
    {app : AppName} {peer : Endpoint} {request : Request}
    (h : (app, peer, request) ∈ (g.step answers call).handed) :
    Moment.Grants ⟨g, answers, call⟩ peer request request.query ∨
      (call = .decision .granted ∧ g.context.pending = some ⟨peer, request⟩) := by
  cases call with
  | request sender received => exact .inl (grants_of_request hc h)
  | decision decision =>
    obtain ⟨rfl, hn⟩ := pending_of_decision h
    exact .inr ⟨rfl, hn⟩
  | _ =>
    rw [(quiet_step (by simp [Call.concernsRequests])).handed] at h
    cases h

/-! ## What a run parks and hands over -/

/-- Whatever is parked after a run came in at the latest of its moments that parked
anything, and nothing since has taken it up. -/
theorem latest_parks_of_run {g : Guard} (hc : g.Consistent) (hg : g.context.pending = none)
    {turns : List Turn} {d : Delegation}
    (h : (g.afterTurns turns).context.pending = some d) :
    ∃ before parking between, g.moments turns = before ++ parking :: between ∧
      parking.Parks d.peer d.request d.request.query ∧ ∀ n ∈ between, n.Keeps := by
  induction turns using List.reverseRecOn with
  | nil =>
    rw [afterTurns, List.foldl_nil, hg] at h
    cases h
  | append_singleton turns turn ih =>
    rw [afterTurns_concat] at h
    rw [moments_concat]
    rcases parks_of_step (consistent_afterTurns hc turns) h with ⟨h, hkeeps⟩ | hparks
    · obtain ⟨before, parking, between, hmoments, hparks, hbetween⟩ := ih h
      refine ⟨before, parking, between ++ [⟨g.afterTurns turns, turn⟩], ?_, hparks, ?_⟩
      · rw [hmoments, List.append_assoc, List.cons_append]
      · intro n hn
        rcases List.mem_append.mp hn with hn | hn
        · exact hbetween n hn
        · rw [List.mem_singleton.mp hn]
          exact hkeeps
    · exact ⟨g.moments turns, ⟨g.afterTurns turns, turn⟩, [], rfl, hparks, by simp⟩

theorem parks_of_run {g : Guard} (hc : g.Consistent) (hg : g.context.pending = none)
    {turns : List Turn} {d : Delegation}
    (h : (g.afterTurns turns).context.pending = some d) :
    ∃ before parking between, g.moments turns = before ++ parking :: between ∧
      parking.Parks d.peer d.request d.request.query ∧
      ∀ n ∈ between, n.turn.call.endsDelegation = false := by
  obtain ⟨before, parking, between, hmoments, hparks, hkeeps⟩ := latest_parks_of_run hc hg h
  exact ⟨before, parking, between, hmoments, hparks, fun n hn => (hkeeps n hn).call⟩

/-- **Complete mediation.** Take any moment of any run of a new guard at which a
request is handed to an application. Either the request came in at that moment and
the list, asked once and about exactly this request, granted it; or the access
manager grants something at that moment, and at an earlier one the same request
came in from the same peer, was left to the access manager by the list, asked once
and about exactly this request, was taken by the access manager and acknowledged,
and has since been neither decided on nor dropped. -/
theorem handed_only_if_granted (config : Config) (hasManager : Bool) {turns : List Turn}
    {earlier later : List Moment} {m : Moment}
    (hm : (fresh config hasManager).moments turns = earlier ++ m :: later)
    {app : AppName} {peer : Endpoint} {request : Request}
    (h : .handRequest app peer request ∈ m.reaction.contacts) :
    m.Grants peer request
        { subject := request.identity
          path := pathOf request.uri
          permission := request.method.requiredPermission
          resource := VirtualResource.classify request.uri } ∨
      m.turn.call = .decision .granted ∧
        ∃ before parking between, earlier = before ++ parking :: between ∧
          parking.Parks peer request
            { subject := request.identity
              path := pathOf request.uri
              permission := request.method.requiredPermission
              resource := VirtualResource.classify request.uri } ∧
          ∀ n ∈ between, n.turn.call.endsDelegation = false := by
  rw [← Request.query_eq]
  obtain ⟨before, -, -, rfl, hg⟩ := moments_eq_append_cons hm
  have hc : m.guard.Consistent := by
    rw [hg]
    exact consistent_afterTurns (consistent_fresh config hasManager) before
  refine (grants_of_step hc (Reaction.mem_handed.mpr h)).imp_right fun ⟨hcall, hpending⟩ => ?_
  rw [hg] at hpending
  exact ⟨hcall, parks_of_run (consistent_fresh config hasManager) rfl hpending⟩

/-- Granted by the access manager, the lamp's question is handed over; it is the one
that the phone sent. -/
theorem handed_only_if_granted_lamp :
    ∃ earlier m, (fresh {} true).moments (Lamp.asking ++ [⟨Lamp.deferring, .decision .granted⟩]) =
        earlier ++ [m] ∧
      .handRequest "lamp" Lamp.phone Lamp.ask ∈ m.reaction.contacts ∧
      ∃ before parking between, earlier = before ++ parking :: between ∧
        parking.Parks Lamp.phone Lamp.ask
          { subject := .anonymous, path := "/light", permission := .read, resource := none } ∧
        ∀ n ∈ between, n.turn.call.endsDelegation = false := by
  have hm := moments_concat (fresh {} true) Lamp.asking ⟨Lamp.deferring, .decision .granted⟩
  have h : .handRequest "lamp" Lamp.phone Lamp.ask ∈
      (Moment.reaction ⟨(fresh {} true).afterTurns Lamp.asking,
        ⟨Lamp.deferring, .decision .granted⟩⟩).contacts := by decide +kernel
  refine ⟨_, _, hm, h, ?_⟩
  rcases handed_only_if_granted {} true hm h with hgrants | ⟨-, hparks⟩
  · cases hgrants.call
  · exact hparks

end Guard

end ResourceGuard
