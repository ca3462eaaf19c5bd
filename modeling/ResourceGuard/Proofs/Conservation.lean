import ResourceGuard.Proofs.Delegations
import ResourceGuard.Proofs.Runs

/-! # One answer each

A request causes one answer: it is handed over, or its sender is sent a response.
So does a decision that is accepted, for the request that was parked. Nothing else
does. Over a run the answers therefore add up, and so do the delegations: every
question that the access manager took is one acknowledged request, and ends in a
decision or in a shutdown, or is still open. -/
namespace ResourceGuard.Guard

/-! ## One moment -/

/-- One answer is given about a request, and the outcome says which. -/
inductive Answered (peer : Endpoint) (request : Request) (delivery : Delivery)
    (r : Reaction Guard Return) : Prop where
  /-- the application has it -/
  | handed (app : AppName) (hresult : r.result = .outcome .passedThrough)
      (hhanded : r.handed = [(app, peer, request)]) (hsent : r.sent = [])
  /-- its sender is told no -/
  | refused (code : ResponseCode) (hcode : code ≠ .empty)
      (hresult : r.result = .outcome (.rejected code)) (hhanded : r.handed = [])
      (hsent : r.sent = [(peer, request.reply code delivery)])
  /-- its sender is told to wait -/
  | deferred (hdelivery : delivery = .piggybacked)
      (hresult : r.result = .outcome .acknowledged) (hhanded : r.handed = [])
      (hsent : r.sent = [(peer, request.slowReply)])

variable {g : Guard} {answers : Answers}

theorem Answered.length {peer : Endpoint} {request : Request} {delivery : Delivery}
    {r : Reaction Guard Return} (h : Answered peer request delivery r) :
    r.sent.length + r.handed.length = 1 := by
  cases h with
  | handed _ _ hhanded hsent | refused _ _ _ hhanded hsent | deferred _ _ hhanded hsent =>
    rw [hhanded, hsent]
    rfl

/-- The outcome says which answer was given about the request. -/
structure Tells (peer : Endpoint) (request : Request) (r : Reaction Guard Return) : Prop where
  passedThrough_iff : r.result = .outcome .passedThrough ↔
    ∃ app, r.handed = [(app, peer, request)]
  rejected_iff : ∀ code, r.result = .outcome (.rejected code) ↔
    code ≠ .empty ∧ ∃ response, r.sent = [(peer, response)] ∧ response.code = code
  acknowledged_iff : r.result = .outcome .acknowledged ↔ r.sent = [(peer, request.slowReply)]

theorem Answered.tells {peer : Endpoint} {request : Request} {delivery : Delivery}
    {r : Reaction Guard Return} (h : Answered peer request delivery r) :
    Tells peer request r := by
  cases h with
  | handed app hresult hhanded hsent =>
    constructor <;> simp [hresult, hhanded, hsent]
  | refused code hcode hresult hhanded hsent =>
    have hslow : request.reply code delivery ≠ request.slowReply := by
      intro h
      exact hcode (congrArg Response.code h)
    constructor
    · simp [hresult, hhanded]
    · intro other
      rw [hresult, hsent]
      constructor
      · rintro ⟨⟩
        exact ⟨hcode, _, rfl, rfl⟩
      · rintro ⟨-, response, hresponse, rfl⟩
        cases hresponse
        rfl
    · simp [hresult, hsent, hslow]
  | deferred hdelivery hresult hhanded hsent =>
    constructor
    · simp [hresult, hhanded]
    · intro code
      rw [hresult, hsent]
      constructor
      · nofun
      · rintro ⟨hcode, response, hresponse, rfl⟩
        cases hresponse
        exact absurd rfl hcode
    · simp [hresult, hsent]

theorem refusal_ne_empty {screening : Screening} {policy : BusyPolicy} :
    screening.refusal policy ≠ some .empty := by
  cases screening with
  | busy => cases policy <;> nofun
  | overlong | exposed | unhandled | clear => nofun

theorem answered_request (hc : g.Consistent) (answers : Answers) (peer : Endpoint)
    (request : Request) :
    Answered peer request .piggybacked (g.step answers (.request peer request)) := by
  rw [step_request]
  have hexit := onRequest_exit hc answers peer request
  generalize g.onRequest answers peer request = r at hexit
  cases hexit with
  | @screened code hs =>
    have hcode : code ≠ .empty := by
      rintro rfl
      exact refusal_ne_empty hs
    exact .refused code hcode rfl (by simp) (by simp)
  | @granted handlers => exact .handed handlers.request rfl (by simp) (by simp)
  | denied => exact .refused .unauthorized nofun rfl (by simp) (by simp)
  | unparked => exact .refused .internalServerError nofun rfl (by simp) (by simp)
  | parked => exact .deferred rfl rfl (by simp) (by simp)

/-- An accepted decision answers the request that was parked. -/
theorem answered_decision {decision : ManagerDecision} {outcome : Outcome}
    (h : (g.step answers (.decision decision)).result = .outcome outcome) :
    ∃ d, g.context.pending = some d ∧
      Answered d.peer d.request .separate (g.step answers (.decision decision)) ∧
      (outcome = .passedThrough ∨ outcome = .rejected .unauthorized) := by
  rw [step_decision] at h ⊢
  have hexit := onDecision_exit g answers decision
  generalize g.onDecision answers decision = r at h hexit
  cases hexit with
  | unexpected => cases h
  | @replayed d handlers hn =>
    cases h
    exact ⟨d, hn, .handed handlers.request rfl (by simp) (by simp), .inl rfl⟩
  | @unhandled d hn | @rejected d hn =>
    cases h
    exact ⟨d, hn, .refused .unauthorized nofun rfl (by simp) (by simp), .inr rfl⟩

theorem silent_decision {decision : ManagerDecision}
    (h : ∀ outcome, (g.step answers (.decision decision)).result ≠ .outcome outcome) :
    (g.step answers (.decision decision)).sent = [] ∧
      (g.step answers (.decision decision)).handed = [] := by
  rw [step_decision] at h ⊢
  have hexit := onDecision_exit g answers decision
  generalize g.onDecision answers decision = r at h hexit
  cases hexit with
  | unexpected => exact ⟨rfl, rfl⟩
  | replayed | unhandled | rejected => exact absurd rfl (h _)

namespace Moment

/-- A request came in. -/
def isRequest (m : Moment) : Bool :=
  match m.turn.call with
  | .request .. => true
  | _ => false

/-- A decision came and was accepted. -/
def isDecided (m : Moment) : Bool :=
  match m.turn.call, m.reaction.result with
  | .decision _, .outcome _ => true
  | _, _ => false

/-- A shutdown came while a request was parked. -/
def isDropping (m : Moment) : Bool :=
  decide (m.turn.call = .shutdown) && m.guard.context.pending.isSome

/-- The outcome was an acknowledgement. -/
def isAcknowledged (m : Moment) : Bool := decide (m.reaction.result = .outcome .acknowledged)

/-- The questions that the access manager took. -/
def taken (m : Moment) : List AccessQuery := m.reaction.taken m.turn.answers

end Moment

/-- How many requests are parked. -/
def parkedCount (g : Guard) : Nat := if g.context.pending.isSome then 1 else 0

/-- A moment in which neither a request came nor a decision was accepted is silent. -/
theorem silent_moment {m : Moment} (hr : m.isRequest = false) (hd : m.isDecided = false) :
    m.reaction.sent = [] ∧ m.reaction.handed = [] := by
  obtain ⟨g, answers, call⟩ := m
  by_cases hq : call.concernsRequests = false ∨ call = .shutdown
  · have hquiet : (g.step answers call).Quiet := quiet_step hq
    exact ⟨hquiet.sent, hquiet.handed⟩
  · cases call with
    | request => cases hr
    | decision decision =>
      refine silent_decision fun outcome h => ?_
      simp [Moment.isDecided, Moment.reaction, h] at hd
    | _ => simp [Call.concernsRequests] at hq

/-! ## What one moment adds -/

theorem isDecided_iff {decision : ManagerDecision} :
    Moment.isDecided ⟨g, answers, .decision decision⟩ = true ↔
      ∃ outcome, (g.step answers (.decision decision)).result = .outcome outcome := by
  unfold Moment.isDecided Moment.reaction
  cases (g.step answers (.decision decision)).result <;> simp

theorem isDecided_eq_isSome {decision : ManagerDecision} :
    Moment.isDecided ⟨g, answers, .decision decision⟩ = g.context.pending.isSome := by
  rw [Bool.eq_iff_iff, isDecided_iff, step_decision, ← onDecision_ok_iff g answers decision]
  rw [Reaction.result_map]
  cases (g.onDecision answers decision).result <;> simp [Return.ofDecision]

theorem length_answers {m : Moment} (hc : m.guard.Consistent) :
    m.reaction.sent.length + m.reaction.handed.length =
      (if m.isRequest then 1 else 0) + (if m.isDecided then 1 else 0) := by
  cases hr : m.isRequest with
  | true =>
    obtain ⟨g, answers, call⟩ := m
    cases call with
    | request peer request => exact (answered_request hc answers peer request).length
    | _ => cases hr
  | false =>
    cases hd : m.isDecided with
    | true =>
      obtain ⟨g, answers, call⟩ := m
      cases call with
      | decision decision =>
        obtain ⟨outcome, houtcome⟩ := isDecided_iff.mp hd
        obtain ⟨d, -, hanswered, -⟩ := answered_decision houtcome
        exact hanswered.length
      | _ => cases hd
    | false =>
      obtain ⟨hsent, hhanded⟩ := silent_moment hr hd
      rw [hsent, hhanded]
      rfl

theorem length_taken {m : Moment} (hc : m.guard.Consistent) :
    m.taken.length = if m.isAcknowledged then 1 else 0 := by
  unfold Moment.taken Moment.isAcknowledged
  cases delegationStep hc m.turn.answers m.turn.call with
  | kept _ _ htaken hresult | closed _ _ htaken hresult =>
    rw [Moment.reaction, htaken]
    simp [hresult]
  | opened _ _ _ _ _ hdelegated hmanager hresult =>
    rw [Moment.reaction, Reaction.taken_of_delegated hdelegated hmanager]
    simp [hresult]

theorem parkedCount_of_closed (answers : Answers) {call : Call} (h : call.endsDelegation = true) :
    g.parkedCount = (if Moment.isDecided ⟨g, answers, call⟩ then 1 else 0) +
      (if Moment.isDropping ⟨g, answers, call⟩ then 1 else 0) := by
  cases call with
  | decision decision =>
    rw [isDecided_eq_isSome]
    simp [parkedCount, Moment.isDropping]
  | shutdown => simp [parkedCount, Moment.isDecided, Moment.isDropping]
  | _ => cases h

theorem not_ending (g : Guard) (answers : Answers) {call : Call} (h : call.endsDelegation = false) :
    Moment.isDecided ⟨g, answers, call⟩ = false ∧
      Moment.isDropping ⟨g, answers, call⟩ = false := by
  cases call with
  | decision | shutdown => cases h
  | _ => exact ⟨rfl, rfl⟩

/-- An acknowledgement parks one request; an accepted decision, or a shutdown at the
right time, takes one away. -/
theorem parkedCount_step (hc : g.Consistent) (answers : Answers) (call : Call) :
    (if Moment.isAcknowledged ⟨g, answers, call⟩ then 1 else 0) + g.parkedCount =
      (if Moment.isDecided ⟨g, answers, call⟩ then 1 else 0) +
        (if Moment.isDropping ⟨g, answers, call⟩ then 1 else 0) +
        (g.step answers call).next.parkedCount := by
  have hacknowledged : Moment.isAcknowledged ⟨g, answers, call⟩ =
      decide ((g.step answers call).result = .outcome .acknowledged) := rfl
  rw [hacknowledged]
  cases delegationStep hc answers call with
  | kept hcall hnext _ hresult =>
    obtain ⟨hdecided, hdropping⟩ := not_ending g answers hcall
    simp [hdecided, hdropping, hresult, parkedCount, hnext]
  | opened hcall hg hnext _ _ _ _ hresult =>
    have hkeeps : call.endsDelegation = false := by
      rw [hcall]
      rfl
    obtain ⟨hdecided, hdropping⟩ := not_ending g answers hkeeps
    simp [hdecided, hdropping, hresult, parkedCount, hnext, hg]
  | closed hcall hnext _ hresult =>
    rw [parkedCount_of_closed answers hcall]
    simp [hresult, parkedCount, hnext]

/-! ## What a run adds up to -/

theorem length_flatMap_answers {g : Guard} (hc : g.Consistent) (turns : List Turn) :
    ((g.moments turns).flatMap fun m => m.reaction.sent).length +
        ((g.moments turns).flatMap fun m => m.reaction.handed).length =
      (g.moments turns).countP Moment.isRequest + (g.moments turns).countP Moment.isDecided := by
  induction turns generalizing g with
  | nil => rfl
  | cons turn turns ih =>
    have hhead := length_answers (m := ⟨g, turn⟩) hc
    have htail := ih (consistent_step hc turn.answers turn.call)
    rw [moments, List.flatMap_cons, List.flatMap_cons, List.length_append, List.length_append,
      List.countP_cons, List.countP_cons]
    omega

theorem length_flatMap_taken {g : Guard} (hc : g.Consistent) (turns : List Turn) :
    ((g.moments turns).flatMap Moment.taken).length =
      (g.moments turns).countP Moment.isAcknowledged := by
  induction turns generalizing g with
  | nil => rfl
  | cons turn turns ih =>
    have hhead := length_taken (m := ⟨g, turn⟩) hc
    have htail := ih (consistent_step hc turn.answers turn.call)
    rw [moments, List.flatMap_cons, List.length_append, List.countP_cons]
    omega

theorem countP_acknowledged {g : Guard} (hc : g.Consistent) (turns : List Turn) :
    (g.moments turns).countP Moment.isAcknowledged + g.parkedCount =
      (g.moments turns).countP Moment.isDecided + (g.moments turns).countP Moment.isDropping +
        (g.afterTurns turns).parkedCount := by
  induction turns generalizing g with
  | nil => simp [moments, afterTurns]
  | cons turn turns ih =>
    have hhead : (if Moment.isAcknowledged ⟨g, turn⟩ then 1 else 0) + g.parkedCount =
        (if Moment.isDecided ⟨g, turn⟩ then 1 else 0) +
          (if Moment.isDropping ⟨g, turn⟩ then 1 else 0) +
          (g.step turn.answers turn.call).next.parkedCount :=
      parkedCount_step hc turn.answers turn.call
    have htail := ih (consistent_step hc turn.answers turn.call)
    rw [moments, List.countP_cons, List.countP_cons, List.countP_cons, afterTurns_cons]
    omega

/-- Every moment gives the answers that it owes, and the sums come out even. -/
structure Conserved (moments : List Moment) (g : Guard) : Prop where
  /-- A request is answered at once. -/
  request : ∀ m ∈ moments, ∀ peer request, m.turn.call = .request peer request →
    Answered peer request .piggybacked m.reaction ∧ Tells peer request m.reaction
  /-- A decision that is accepted answers the parked request, one way or the other. -/
  decision : ∀ m ∈ moments, ∀ decision outcome, m.turn.call = .decision decision →
    m.reaction.result = .outcome outcome →
      ∃ d, m.guard.context.pending = some d ∧
        Answered d.peer d.request .separate m.reaction ∧
        (outcome = .passedThrough ∨ outcome = .rejected .unauthorized)
  /-- Nothing else gives an answer. -/
  silent : ∀ m ∈ moments, m.isRequest = false → m.isDecided = false →
    m.reaction.sent = [] ∧ m.reaction.handed = []
  /-- As many answers as requests and accepted decisions. -/
  answers : (moments.flatMap fun m => m.reaction.sent).length +
      (moments.flatMap fun m => m.reaction.handed).length =
    moments.countP Moment.isRequest + moments.countP Moment.isDecided
  /-- As many questions taken as requests acknowledged, -/
  questions : (moments.flatMap Moment.taken).length = moments.countP Moment.isAcknowledged
  /-- and all of these were decided on, or dropped, or are parked now. -/
  delegations : moments.countP Moment.isAcknowledged =
    moments.countP Moment.isDecided + moments.countP Moment.isDropping +
      if g.context.pending.isSome then 1 else 0

/-- **One answer each.** In every run of a new guard, each request causes one response
or one delivery, and its outcome says which; each accepted decision causes one for the
request that was parked; nothing else causes any. So at every point of a run there are
as many of them as requests and accepted decisions; and as many questions were taken by
the access manager as requests were acknowledged, all of which were decided on, dropped
by a shutdown, or are parked. -/
theorem conserved_moments (config : Config) (hasManager : Bool) (turns : List Turn) :
    Conserved ((fresh config hasManager).moments turns)
      ((fresh config hasManager).afterTurns turns) := by
  have hc := consistent_fresh config hasManager
  refine ⟨?_, ?_, ?_, length_flatMap_answers hc turns, length_flatMap_taken hc turns,
    countP_acknowledged hc turns⟩
  · intro m hm peer request hcall
    rw [Moment.reaction, hcall]
    have hanswered := answered_request (consistent_moment hc hm) m.turn.answers peer request
    exact ⟨hanswered, hanswered.tells⟩
  · intro m hm decision outcome hcall hresult
    rw [Moment.reaction, hcall] at hresult ⊢
    exact answered_decision hresult
  · intro m _ hr hd
    exact silent_moment hr hd

end ResourceGuard.Guard
