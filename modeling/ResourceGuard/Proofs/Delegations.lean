import ResourceGuard.Proofs.Steps

/-! # The life of a delegation

A delegation opens when the access manager takes a question about a request, and
ends when a decision arrives or the guard is shut down. A call opens one, ends
one, or keeps things as they are; `DelegationStep` says which, and what was found
when one opens. -/
namespace ResourceGuard

/-- What the access manager was asked and took. -/
def Reaction.taken {σ α : Type} (answers : Answers) (r : Reaction σ α) : List AccessQuery :=
  r.delegated.filter fun query => (answers.manager query).isOk

theorem Reaction.taken_of_delegated {σ α : Type} {answers : Answers} {r : Reaction σ α}
    {query : AccessQuery} (hd : r.delegated = [query]) (hm : answers.manager query = .ok ()) :
    r.taken answers = [query] := by
  rw [taken, hd]
  simp [hm, Except.isOk, Except.toBool]

/-- The calls that end a delegation, if one is open. -/
def Call.endsDelegation : Call → Bool
  | .decision _ => true
  | .shutdown => true
  | _ => false

theorem Call.endsDelegation_of_other {call : Call} (h : call.concernsRequests = false) :
    call.endsDelegation = false := by
  cases call <;> first | rfl | cases h

namespace Guard

variable {g : Guard} {answers : Answers}

/-- Everything a call can do to the parked request. -/
inductive DelegationStep (g : Guard) (answers : Answers) (call : Call) (r : Reaction Guard Return) :
    Prop where
  /-- what was parked still is -/
  | kept (hcall : call.endsDelegation = false)
      (hnext : r.next.context.pending = g.context.pending)
      (htaken : r.taken answers = [])
      (hresult : r.result ≠ .outcome .acknowledged)
  /-- nothing was, and now a request is that the list left to the access manager -/
  | opened {peer : Endpoint} {request : Request} (hcall : call = .request peer request)
      (hg : g.context.pending = none)
      (hnext : r.next.context.pending = some ⟨peer, request⟩)
      (hresolved : r.resolved = [request.query])
      (hverdict : answers.verdict request.query = .requiresManager)
      (hdelegated : r.delegated = [request.query])
      (hmanager : answers.manager request.query = .ok ())
      (hresult : r.result = .outcome .acknowledged)
  /-- whatever was parked is not any more -/
  | closed (hcall : call.endsDelegation = true)
      (hnext : r.next.context.pending = none)
      (htaken : r.taken answers = [])
      (hresult : r.result ≠ .outcome .acknowledged)

theorem delegationStep_request (hc : g.Consistent) (answers : Answers) (peer : Endpoint)
    (request : Request) :
    DelegationStep g answers (.request peer request)
      (g.step answers (.request peer request)) := by
  rw [step_request]
  have hexit := onRequest_exit hc answers peer request
  generalize g.onRequest answers peer request = r at hexit
  cases hexit with
  | screened => exact .kept rfl rfl (by simp [Reaction.taken]) (by simp)
  | granted hs | denied hs =>
    exact .kept rfl (pending_of_clear hc hs).symm (by simp [Reaction.taken]) (by simp)
  | unparked hs hv hm =>
    refine .kept rfl (pending_of_clear hc hs).symm ?_ (by simp)
    cases hmanager : g.hasManager with
    | false => simp [Reaction.taken]
    | true =>
      rw [hmanager] at hm
      simp [Reaction.taken, isOk_manager_of_fault hm]
  | parked hs hv hm =>
    obtain ⟨hmanager, htaken⟩ := managerFault_eq_none_iff.mp hm
    exact .opened rfl (pending_of_clear hc hs) rfl (by simp) hv (by simp [hmanager]) htaken rfl

theorem delegationStep_decision (g : Guard) (answers : Answers) (decision : ManagerDecision) :
    DelegationStep g answers (.decision decision) (g.step answers (.decision decision)) := by
  rw [step_decision]
  have hexit := onDecision_exit g answers decision
  generalize g.onDecision answers decision = r at hexit
  cases hexit with
  | unexpected hn => exact .closed rfl hn rfl (by simp [Return.ofDecision])
  | replayed | unhandled | rejected =>
    exact .closed rfl rfl (by simp [Reaction.taken]) (by simp [Return.ofDecision])

/-- The list above is complete. -/
theorem delegationStep (hc : g.Consistent) (answers : Answers) (call : Call) :
    DelegationStep g answers call (g.step answers call) := by
  cases hcall : call.concernsRequests with
  | false =>
    have hquiet : (g.step answers call).Quiet := quiet_step (.inl hcall)
    refine .kept (Call.endsDelegation_of_other hcall) ?_ ?_ (result_step_ne (.inl hcall) _)
    · rw [context_step hcall]
    · rw [Reaction.taken, hquiet.delegated, List.filter_nil]
  | true =>
    cases call with
    | request peer request => exact delegationStep_request hc answers peer request
    | decision decision => exact delegationStep_decision g answers decision
    | shutdown => exact .closed rfl rfl rfl (result_step_ne (.inr rfl) _)
    | _ => cases hcall

end Guard

end ResourceGuard
