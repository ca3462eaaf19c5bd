import Mathlib.Data.List.Nodup
import ResourceGuard.Proofs.Delegations
import ResourceGuard.Proofs.Runs

/-! # Which request a decision is carried out on

A decision of the access manager does not say which question it answers. So the
guard is looked at together with the questions that the access manager has taken
and not answered: a question joins them when it is taken, leaves them when it is
answered, and may be answered at any later time and in any order. A decision is
carried out on the request of the latest question, and as long as no shutdown
drops a parked request there is no other. -/
namespace ResourceGuard

/-- A question that the access manager took, and the request it is about. -/
structure Inquiry where
  /-- How many questions were taken before. -/
  number : Nat
  peer : Endpoint
  request : Request
  query : AccessQuery
  deriving DecidableEq

/-- The inquiries that a call gives rise to, by the questions taken in it. -/
def Call.inquiries (call : Call) (first : Nat) (taken : List AccessQuery) : List Inquiry :=
  match call with
  | .request p r => taken.mapIdx fun k query => ⟨first + k, p, r, query⟩
  | _ => []

@[simp] theorem Call.inquiries_nil (call : Call) (first : Nat) : call.inquiries first [] = [] := by
  cases call <;> rfl

@[simp] theorem Call.inquiries_request (peer : Endpoint) (request : Request) (first : Nat)
    (query : AccessQuery) :
    (Call.request peer request).inquiries first [query] = [⟨first, peer, request, query⟩] := rfl

/-- A guard, and what its access manager has yet to answer. -/
structure Correspondence where
  guard : Guard
  /-- How many questions were taken. -/
  count : Nat := 0
  unanswered : List Inquiry := []
  /-- A shutdown has dropped a parked request. -/
  dropped : Bool := false

namespace Correspondence

/-- A call has had this reaction. -/
def after (s : Correspondence) (answers : Answers) (call : Call) (r : Reaction Guard Return) :
    Correspondence where
  guard := r.next
  count := s.count + (r.taken answers).length
  unanswered := s.unanswered ++ call.inquiries s.count (r.taken answers)
  dropped := s.dropped || (decide (call = .shutdown) && s.guard.context.pending.isSome)

/-- The access manager answers an inquiry. -/
def answer (s : Correspondence) (answers : Answers) (i : Inquiry) (decision : ManagerDecision) :
    Correspondence :=
  { s with
    guard := (s.guard.onDecision answers decision).next
    unanswered := s.unanswered.erase i }

/-- What may happen next. -/
inductive Step (s : Correspondence) : Correspondence → Prop where
  | call (answers : Answers) {call : Call} (hcall : ∀ decision, call ≠ .decision decision) :
      Step s (s.after answers call (s.guard.step answers call))
  | answer (answers : Answers) {i : Inquiry} (hi : i ∈ s.unanswered)
      (decision : ManagerDecision) : Step s (s.answer answers i decision)

/-- Whatever may have happened to a new guard. -/
inductive Reachable : Correspondence → Prop where
  | start (config : Config) (hasManager : Bool) :
      Reachable { guard := Guard.fresh config hasManager }
  | step {s t : Correspondence} (hs : Reachable s) (hstep : Step s t) : Reachable t

/-- Calls that bring no decision, one after another. -/
def play (s : Correspondence) (answers : Answers) (calls : List Call) : Correspondence :=
  calls.foldl (fun s call => s.after answers call (s.guard.step answers call)) s

theorem Reachable.play {s : Correspondence} (hs : Reachable s) (answers : Answers)
    {calls : List Call} (h : ∀ call ∈ calls, ∀ decision, call ≠ .decision decision) :
    Reachable (s.play answers calls) := by
  induction calls generalizing s with
  | nil => exact hs
  | cons call calls ih =>
    have hstep := Step.call (s := s) answers (h call List.mem_cons_self)
    exact ih (hs.step hstep) fun c hc => h c (List.mem_cons_of_mem call hc)

/-- The unanswered inquiries have numbers of their own; the parked request is that of
the latest inquiry of all; and while no shutdown has dropped one, every unanswered
inquiry is about the parked request. -/
structure Valid (s : Correspondence) : Prop where
  consistent : s.guard.Consistent
  numbered : ∀ i ∈ s.unanswered, i.number < s.count
  distinct : (s.unanswered.map Inquiry.number).Nodup
  asks : ∀ i ∈ s.unanswered, i.query = i.request.query
  parked : ∀ d, s.guard.context.pending = some d →
    ∃ i ∈ s.unanswered, i.number + 1 = s.count ∧ d = ⟨i.peer, i.request⟩
  undropped : s.dropped = false → ∀ i ∈ s.unanswered,
    i.number + 1 = s.count ∧ s.guard.context.pending = some ⟨i.peer, i.request⟩

variable {s : Correspondence}

theorem valid_start (config : Config) (hasManager : Bool) :
    Valid { guard := Guard.fresh config hasManager } := by
  refine ⟨Guard.consistent_fresh config hasManager, ?_, .nil, ?_, ?_, ?_⟩
  · simp
  · simp
  · simp [Guard.fresh, Guard.start]
  · simp

theorem Valid.eq_of_number {i j : Inquiry} (h : s.Valid) (hi : i ∈ s.unanswered)
    (hj : j ∈ s.unanswered) (hn : i.number = j.number) : i = j :=
  List.inj_on_of_nodup_map h.distinct hi hj hn

theorem Valid.unanswered_eq {i : Inquiry} (h : s.Valid) (hs : s.dropped = false)
    (hi : i ∈ s.unanswered) : s.unanswered = [i] := by
  have heq : ∀ j ∈ s.unanswered, j = i := by
    intro j hj
    have hni := (h.undropped hs i hi).1
    have hnj := (h.undropped hs j hj).1
    exact h.eq_of_number hj hi (by omega)
  have hrep := List.eq_replicate_of_mem heq
  have hnodup : s.unanswered.Nodup := h.distinct.of_map
  rw [hrep, List.nodup_replicate] at hnodup
  have hlength : s.unanswered.length = 1 :=
    Nat.le_antisymm hnodup (List.length_pos_of_mem hi)
  rw [hrep, hlength, List.replicate_one]

theorem Valid.after {answers : Answers} {call : Call} {r : Reaction Guard Return} (h : s.Valid)
    (hconsistent : r.next.Consistent) (hstep : Guard.DelegationStep s.guard answers call r)
    (hcall : ∀ decision, call ≠ .decision decision) : (s.after answers call r).Valid := by
  unfold Correspondence.after
  cases hstep with
  | kept hends hnext htaken =>
    have hshutdown : call ≠ .shutdown := by
      rintro rfl
      cases hends
    simp only [htaken, Call.inquiries_nil, List.append_nil, List.length_nil, Nat.add_zero]
    refine ⟨hconsistent, h.numbered, h.distinct, h.asks, ?_, ?_⟩
    · intro d hd
      exact h.parked d (hnext.symm.trans hd)
    · intro hdropped i hi
      rw [hnext]
      exact h.undropped (by simpa [hshutdown] using hdropped) i hi
  | closed hends hnext htaken =>
    have hshutdown : call = .shutdown := by
      cases call with
      | decision decision => exact absurd rfl (hcall decision)
      | shutdown => rfl
      | _ => cases hends
    simp only [htaken, Call.inquiries_nil, List.append_nil, List.length_nil, Nat.add_zero]
    refine ⟨hconsistent, h.numbered, h.distinct, h.asks, ?_, ?_⟩
    · intro d hd
      cases hnext.symm.trans hd
    · intro hdropped i hi
      obtain ⟨hs, hpending⟩ : s.dropped = false ∧ s.guard.context.pending = none := by
        simpa [hshutdown] using hdropped
      cases hpending.symm.trans (h.undropped hs i hi).2
  | @opened peer request hrequest hg hnext _ _ hdelegated hmanager =>
    subst hrequest
    have htaken := Reaction.taken_of_delegated hdelegated hmanager
    simp only [htaken, Call.inquiries_request, List.length_singleton]
    refine ⟨hconsistent, ?_, ?_, ?_, ?_, ?_⟩
    · intro i hi
      rcases List.mem_append.mp hi with hi | hi
      · exact Nat.lt_succ_of_lt (h.numbered i hi)
      · rw [List.mem_singleton.mp hi]
        exact Nat.lt_succ_self s.count
    · rw [List.map_append, List.nodup_append]
      refine ⟨h.distinct, List.nodup_singleton _, ?_⟩
      rintro n hn m hm rfl
      obtain ⟨i, hi, rfl⟩ := List.mem_map.mp hn
      have hcount : i.number = s.count := List.mem_singleton.mp hm
      exact absurd (h.numbered i hi) (by omega)
    · intro i hi
      rcases List.mem_append.mp hi with hi | hi
      · exact h.asks i hi
      · rw [List.mem_singleton.mp hi]
    · intro d hd
      refine ⟨⟨s.count, peer, request, request.query⟩, ?_, rfl, ?_⟩
      · exact List.mem_append_right _ (List.mem_singleton.mpr rfl)
      · exact Option.some.inj (hd.symm.trans hnext)
    · intro hdropped i hi
      rcases List.mem_append.mp hi with hi | hi
      · have hs : s.dropped = false := by simpa using hdropped
        cases hg.symm.trans (h.undropped hs i hi).2
      · rw [List.mem_singleton.mp hi]
        exact ⟨rfl, hnext⟩

theorem Valid.answer (h : s.Valid) (answers : Answers) {i : Inquiry} (hi : i ∈ s.unanswered)
    (decision : ManagerDecision) : (s.answer answers i decision).Valid := by
  have hnext := Guard.pending_onDecision s.guard answers decision
  refine ⟨(Guard.onDecision_exit _ _ _).consistent h.consistent, ?_, ?_, ?_, ?_, ?_⟩
  · intro j hj
    exact h.numbered j (List.mem_of_mem_erase hj)
  · exact (List.erase_sublist.map _).nodup h.distinct
  · intro j hj
    exact h.asks j (List.mem_of_mem_erase hj)
  · intro d hd
    cases hnext.symm.trans hd
  · intro hdropped j hj
    have herase : s.unanswered.erase i = [] := by
      rw [h.unanswered_eq hdropped hi, List.erase_cons_head]
    rw [Correspondence.answer, herase] at hj
    cases hj

theorem valid_of_reachable (hs : Reachable s) : s.Valid := by
  induction hs with
  | start config hasManager => exact valid_start config hasManager
  | step _ hstep ih =>
    cases hstep with
    | call answers hcall =>
      exact ih.after (Guard.consistent_step ih.consistent _ _)
        (Guard.delegationStep ih.consistent _ _) hcall
    | answer answers hi decision => exact ih.answer answers hi decision

/-! ## Carrying a decision out -/

/-- The decision is carried out on the request of this inquiry: it is handed over, on
a grant, or its sender is told that it was denied; and nothing else is done. -/
def CarriedOut (r : Reaction Guard (Except AccessError Outcome)) (decision : ManagerDecision)
    (i : Inquiry) : Prop :=
  (decision = .granted ∧ ∃ app, r.contacts = [.handRequest app i.peer i.request]) ∨
    r.contacts = [.send i.peer (i.request.reply .unauthorized .separate)]

variable {answers : Answers} {decision : ManagerDecision}

theorem carriedOut_of_pending {i : Inquiry}
    (hi : s.guard.context.pending = some ⟨i.peer, i.request⟩) :
    CarriedOut (s.guard.onDecision answers decision) decision i := by
  have hexit := Guard.onDecision_exit s.guard answers decision
  generalize s.guard.onDecision answers decision = r at hexit
  cases hexit with
  | unexpected hn => cases hn.symm.trans hi
  | replayed hn hd hh =>
    cases hn.symm.trans hi
    exact .inl ⟨hd, _, rfl⟩
  | unhandled hn | rejected hn =>
    cases hn.symm.trans hi
    exact .inr rfl

/-- **A decision goes to the latest question.** Let the access manager answer any of
its questions, in any state that the guard and its questions can reach. If the guard
accepts the decision, it carries it out on the request that the last question of all
was about, which is unanswered; so it carries it out on the request that the answered
question was about exactly when that is the last one. And as long as no shutdown has
dropped a parked request, the answered question is the only one left, the guard
accepts the decision, and carries it out on the request that the question was
about. -/
theorem decision_carried_out_on_latest (hs : Reachable s) {i : Inquiry} (hi : i ∈ s.unanswered)
    (answers : Answers) (decision : ManagerDecision) :
    (∀ outcome, (s.guard.onDecision answers decision).result = .ok outcome →
      ∃ latest ∈ s.unanswered, latest.number + 1 = s.count ∧
        latest.query = latest.request.query ∧
        CarriedOut (s.guard.onDecision answers decision) decision latest ∧
        (i = latest ↔ i.number + 1 = s.count)) ∧
    (s.dropped = false →
      s.unanswered = [i] ∧
        (∃ outcome, (s.guard.onDecision answers decision).result = .ok outcome) ∧
        CarriedOut (s.guard.onDecision answers decision) decision i) := by
  have hvalid := valid_of_reachable hs
  constructor
  · intro outcome hresult
    have hparked := (Guard.onDecision_ok_iff _ _ _).mp ⟨outcome, hresult⟩
    obtain ⟨d, hd⟩ := Option.isSome_iff_exists.mp hparked
    obtain ⟨latest, hmem, hcount, rfl⟩ := hvalid.parked d hd
    refine ⟨latest, hmem, hcount, hvalid.asks latest hmem, carriedOut_of_pending hd, ?_⟩
    constructor
    · rintro rfl
      exact hcount
    · intro hn
      exact hvalid.eq_of_number hi hmem (by omega)
  · intro hdropped
    have hpending := (hvalid.undropped hdropped i hi).2
    refine ⟨hvalid.unanswered_eq hdropped hi, (Guard.onDecision_ok_iff _ _ _).mpr ?_,
      carriedOut_of_pending hpending⟩
    rw [hpending]
    rfl

section Lamp
open Guard.Lamp

/-- What the lamp's guard comes to by these calls, once its application has registered. -/
def lampAfter (calls : List Call) : Correspondence :=
  play { guard := Guard.fresh {} true } deferring
    (.registerHandlers (some "lamp") (some "lamp") (some "lamp") :: calls)

/-- The guard is shut down while the phone's question is with the access manager, and
then the phone wants something else. -/
def askedTwice : Correspondence := lampAfter [.request phone ask, .shutdown, .request phone put]

theorem reachable_askedTwice : Reachable askedTwice :=
  (Reachable.start {} true).play deferring (by simp)

/-- Granted, the second question is carried out on the second request; without the
shutdown, the first is on the first. -/
theorem decision_carried_out_on_latest_lamp :
    (∃ i ∈ askedTwice.unanswered, i.request = put ∧
      CarriedOut (askedTwice.guard.onDecision deferring .granted) .granted i) ∧
    (∃ i ∈ (lampAfter [.request phone ask]).unanswered, i.request = ask ∧
      CarriedOut ((lampAfter [.request phone ask]).guard.onDecision deferring .granted)
        .granted i) := by
  constructor
  · have hi : ⟨1, phone, put, put.query⟩ ∈ askedTwice.unanswered := by decide +kernel
    have hresult : (askedTwice.guard.onDecision deferring .granted).result =
        .ok .passedThrough := by decide +kernel
    have hcount : askedTwice.count = 2 := by decide +kernel
    obtain ⟨hok, -⟩ :=
      decision_carried_out_on_latest reachable_askedTwice hi deferring .granted
    obtain ⟨latest, -, -, -, hcarried, howner⟩ := hok _ hresult
    rw [← howner.mpr hcount.symm] at hcarried
    exact ⟨_, hi, rfl, hcarried⟩
  · have hs : Reachable (lampAfter [.request phone ask]) :=
      (Reachable.start {} true).play deferring (by simp)
    have hi : ⟨0, phone, ask, ask.query⟩ ∈ (lampAfter [.request phone ask]).unanswered := by
      decide +kernel
    have hdropped : (lampAfter [.request phone ask]).dropped = false := by decide +kernel
    obtain ⟨-, hown⟩ := decision_carried_out_on_latest hs hi deferring .granted
    exact ⟨_, hi, rfl, (hown hdropped).2.2⟩

/-- An answer that comes after a shutdown may be carried out on another request than
the one it is about: the first question is granted, and the second request is handed
over. -/
theorem not_decision_carried_out_on_own :
    ¬ ∀ s, Reachable s → ∀ i ∈ s.unanswered, ∀ (answers : Answers) (decision : ManagerDecision)
      (outcome : Outcome), (s.guard.onDecision answers decision).result = .ok outcome →
        CarriedOut (s.guard.onDecision answers decision) decision i := by
  intro h
  have hi : ⟨0, phone, ask, ask.query⟩ ∈ askedTwice.unanswered := by decide +kernel
  have hresult : (askedTwice.guard.onDecision deferring .granted).result = .ok .passedThrough := by
    decide +kernel
  have hcontacts : (askedTwice.guard.onDecision deferring .granted).contacts =
      [.handRequest "lamp" phone put] := by
    decide +kernel
  have hcarried := h _ reachable_askedTwice _ hi deferring .granted .passedThrough hresult
  rw [CarriedOut, hcontacts] at hcarried
  revert hcarried
  simp [ask, put]

end Lamp

end Correspondence

end ResourceGuard
