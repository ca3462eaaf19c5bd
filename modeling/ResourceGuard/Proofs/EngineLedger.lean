import Mathlib.Data.List.Basic
import ResourceGuard.Proofs.EngineExits

/-! # Operations in any order

An engine may be used by anybody, in any order and with any arguments: checked while it is
busy, asked to park a request that was never checked, resumed without anything parked. It
stays in agreement with itself all the same. What is parked comes back once and as it was,
unless it is dropped by a reset before; and before anything else is parked, that has
happened and the list has left another decision to the access manager. -/
namespace ResourceGuard.Engine

namespace Moment

/-- A check whose question the list left to the access manager. -/
def Defers (m : Moment) : Prop :=
  ∃ query, m.turn.call = .check query.subject query.path query.permission ∧
    m.reaction.resolved = [query] ∧ m.turn.answers.verdict query = .requiresManager

/-- The request that was given to be parked, and was. -/
def begun? (m : Moment) : Option Delegation :=
  match m.turn.call, m.reaction.result with
  | .delegate peer request, .delegated => some ⟨peer, request⟩
  | _, _ => none

/-- The request that was taken up again. -/
def resumed? (m : Moment) : Option Delegation :=
  match m.reaction.result with
  | .resumed (.replay d) => some d
  | .resumed (.reject d) => some d
  | _ => none

def isReset (m : Moment) : Bool := decide (m.turn.call = .reset)

/-- A reset that found a request parked. -/
def isDropping (m : Moment) : Bool := m.isReset && m.engine.context.pending.isSome

/-- A request was taken up again, or everything was reset. -/
def Ends (m : Moment) : Prop := m.resumed?.isSome = true ∨ m.isReset = true

end Moment

/-- The first of these moments at which a request is taken up again or everything is reset
is a reset: it drops whatever was parked before. -/
def dropsFirst (later : List Moment) : Bool :=
  (later.find? fun m => m.resumed?.isSome || m.isReset).any Moment.isReset

/-- The requests that were parked, in order, without those that a reset has dropped. -/
def undropped : List Moment → List Delegation
  | [] => []
  | m :: later => (if dropsFirst later then [] else m.begun?.toList) ++ undropped later

/-- What an engine keeps to, whoever uses it and how: these moments have led to it. -/
structure KeepsLedger (moments : List Moment) (e : Engine) : Prop where
  /-- While a request is parked, a decision is open. -/
  open_of_parked : e.context.pending.isSome = true → e.context.phase = .processingDelegation
  /-- The list is asked by a check of an idle engine, and once. -/
  asked : ∀ m ∈ moments, ∀ query ∈ m.reaction.resolved,
    m.turn.call = .check query.subject query.path query.permission ∧
      m.engine.context.phase = .awaitingRequest ∧ m.reaction.resolved = [query]
  /-- A decision is open only since the list has left it to the access manager. -/
  opened : ∀ m ∈ moments, m.engine.context.phase = .awaitingRequest →
    m.reaction.next.context.phase = .processingDelegation → m.Defers
  /-- Between two requests that are parked, the first is done with, and then another decision
  is left to the access manager. -/
  between : ∀ before first between second after,
    moments = before ++ first :: between ++ second :: after →
    first.begun?.isSome = true → second.begun?.isSome = true →
      ∃ early ending middle deferring late,
        between = early ++ ending :: middle ++ deferring :: late ∧ ending.Ends ∧ deferring.Defers
  /-- What is taken up again was parked and not dropped: everything that was, in the same
  order, up to what is parked now. -/
  returned : moments.filterMap Moment.resumed? ++ e.context.pending.toList = undropped moments
  replayed_iff : ∀ m ∈ moments, ∀ d, m.reaction.result = .resumed (.replay d) ↔
    m.turn.call = .resume .granted ∧ m.engine.context.pending = some d
  rejected_iff : ∀ m ∈ moments, ∀ d, m.reaction.result = .resumed (.reject d) ↔
    m.turn.call = .resume .denied ∧ m.engine.context.pending = some d
  /-- Everything that was parked was taken up again, or dropped, or is parked now. -/
  balanced : moments.countP (fun m => m.begun?.isSome) =
    moments.countP (fun m => m.resumed?.isSome) + moments.countP Moment.isDropping +
      if e.context.pending.isSome then 1 else 0

/-! ## One moment -/

/-- While a request is parked, a decision is open; the converse does not hold between a
check and what follows it. -/
def Sound (e : Engine) : Prop :=
  e.context.pending.isSome = true → e.context.phase = .processingDelegation

/-- Everything that a moment can do to the parked request. -/
inductive LedgerStep (m : Moment) : Prop where
  /-- what was parked still is -/
  | kept (hbegun : m.begun? = none) (hresumed : m.resumed? = none) (hreset : m.isReset = false)
      (hnext : m.reaction.next.context.pending = m.engine.context.pending)
  /-- nothing was, though a decision was open, and now a request is -/
  | parked {d : Delegation} (hbegun : m.begun? = some d) (hresumed : m.resumed? = none)
      (hreset : m.isReset = false) (hphase : m.engine.context.phase = .processingDelegation)
      (hpending : m.engine.context.pending = none)
      (hnext : m.reaction.next.context.pending = some d)
  /-- what was parked is given back -/
  | taken {d : Delegation} (hbegun : m.begun? = none) (hresumed : m.resumed? = some d)
      (hreset : m.isReset = false) (hpending : m.engine.context.pending = some d)
      (hnext : m.reaction.next = m.engine.cleared)
  /-- whatever was parked is not any more -/
  | dropped (hbegun : m.begun? = none) (hresumed : m.resumed? = none) (hreset : m.isReset = true)
      (hnext : m.reaction.next = m.engine.cleared)

theorem ledgerStep (m : Moment) : LedgerStep m := by
  obtain ⟨e, answers, call⟩ := m
  have hexit := step_exit e answers call
  generalize hr : e.step answers call = r at hexit
  cases hexit with
  | busy | overlong | asked | undeferred | occupied | unqueried | unresumed =>
    refine .kept ?_ ?_ ?_ ?_ <;>
      simp [Moment.begun?, Moment.resumed?, Moment.isReset, Moment.reaction, hr, asked]
  | @delegated peer request hp hn =>
    refine .parked (d := ⟨peer, request⟩) ?_ ?_ ?_ hp hn ?_ <;>
      simp [Moment.begun?, Moment.resumed?, Moment.isReset, Moment.reaction, hr, holding]
  | @resumed decision d hn =>
    refine .taken (d := d) ?_ ?_ ?_ hn ?_ <;> cases decision <;>
      simp [Moment.begun?, Moment.resumed?, Moment.isReset, Moment.reaction, hr,
        ManagerDecision.resumption]
  | reset =>
    refine .dropped ?_ ?_ ?_ ?_ <;>
      simp [Moment.begun?, Moment.resumed?, Moment.isReset, Moment.reaction, hr]

theorem sound_step {m : Moment} (h : m.engine.Sound) : m.reaction.next.Sound := by
  obtain ⟨e, answers, call⟩ := m
  have hexit := step_exit e answers call
  unfold Moment.reaction
  generalize e.step answers call = r at hexit ⊢
  cases hexit with
  | busy | overlong | undeferred | occupied | unqueried | unresumed => exact h
  | asked hp =>
    -- an engine that was idle had nothing parked
    intro hpending
    have hopen : e.context.phase = .processingDelegation := h hpending
    rw [hp] at hopen
    cases hopen
  | delegated hp => exact fun _ => hp
  | resumed | reset => nofun

theorem asked_of_resolved {m : Moment} {query : AccessQuery} (h : query ∈ m.reaction.resolved) :
    m.turn.call = .check query.subject query.path query.permission ∧
      m.engine.context.phase = .awaitingRequest ∧ m.reaction.resolved = [query] := by
  obtain ⟨e, answers, call⟩ := m
  have hexit := step_exit e answers call
  unfold Moment.reaction at h ⊢
  generalize e.step answers call = r at h hexit
  cases hexit with
  | busy | overlong | undeferred | occupied | unresumed | resumed | reset => cases h
  | unqueried | delegated => simp [Reaction.view] at h
  | @asked asked hp =>
    obtain rfl : query = asked := by simpa [Reaction.view] using h
    exact ⟨rfl, hp, rfl⟩

theorem defers_of_opened {m : Moment} (h : m.engine.context.phase = .awaitingRequest)
    (hnext : m.reaction.next.context.phase = .processingDelegation) : m.Defers := by
  obtain ⟨e, answers, call⟩ := m
  have hexit := step_exit e answers call
  unfold Moment.Defers
  unfold Moment.reaction at hnext ⊢
  generalize e.step answers call = r at hnext hexit
  cases hexit with
  | busy | overlong | undeferred | occupied | unqueried | unresumed =>
    rw [h] at hnext
    cases hnext
  | delegated hp =>
    rw [h] at hp
    cases hp
  | resumed | reset => cases hnext
  | @asked query hp hl hq =>
    refine ⟨query, rfl, rfl, ?_⟩
    cases hv : answers.verdict query with
    | requiresManager => rfl
    | granted | denied => simp [asked, hv, Verdict.phase] at hnext

theorem resumption_eq_replay_iff {decision : ManagerDecision} {d d' : Delegation} :
    decision.resumption d = .replay d' ↔ decision = .granted ∧ d = d' := by
  cases decision <;> simp [ManagerDecision.resumption]

theorem resumption_eq_reject_iff {decision : ManagerDecision} {d d' : Delegation} :
    decision.resumption d = .reject d' ↔ decision = .denied ∧ d = d' := by
  cases decision <;> simp [ManagerDecision.resumption]

/-- A resumption comes of a decision on the parked request, and of nothing else. -/
theorem resumed_iff {m : Moment} {resumption : Resumption} :
    m.reaction.result = .resumed resumption ↔ ∃ decision d, m.turn.call = .resume decision ∧
      m.engine.context.pending = some d ∧ decision.resumption d = resumption := by
  obtain ⟨e, answers, call⟩ := m
  have hexit := step_exit e answers call
  unfold Moment.reaction
  generalize e.step answers call = r at hexit ⊢
  cases hexit with
  | busy | overlong | asked | undeferred | occupied | unqueried | delegated | reset => simp
  | unresumed hn => simp [hn]
  | resumed hn => simp [hn]

theorem replayed_iff {m : Moment} {d : Delegation} :
    m.reaction.result = .resumed (.replay d) ↔
      m.turn.call = .resume .granted ∧ m.engine.context.pending = some d := by
  simp only [resumed_iff, resumption_eq_replay_iff]
  constructor
  · rintro ⟨_, _, hcall, hpending, rfl, rfl⟩
    exact ⟨hcall, hpending⟩
  · rintro ⟨hcall, hpending⟩
    exact ⟨_, _, hcall, hpending, rfl, rfl⟩

theorem rejected_iff {m : Moment} {d : Delegation} :
    m.reaction.result = .resumed (.reject d) ↔
      m.turn.call = .resume .denied ∧ m.engine.context.pending = some d := by
  simp only [resumed_iff, resumption_eq_reject_iff]
  constructor
  · rintro ⟨_, _, hcall, hpending, rfl, rfl⟩
    exact ⟨hcall, hpending⟩
  · rintro ⟨hcall, hpending⟩
    exact ⟨_, _, hcall, hpending, rfl, rfl⟩

/-! ## Whole runs -/

theorem sound_afterTurns {e : Engine} (h : e.Sound) (turns : List Turn) :
    (e.afterTurns turns).Sound := by
  induction turns generalizing e with
  | nil => exact h
  | cons turn turns ih => exact ih (sound_step (m := ⟨e, turn⟩) h)

/-- What follows a moment of a run is the run of an engine that the moment left. -/
theorem moments_after {e : Engine} {turns : List Turn} {before after : List Moment} {m : Moment}
    (h : e.moments turns = before ++ m :: after) :
    ∃ later, after = m.reaction.next.moments later := by
  induction turns generalizing e before with
  | nil => simp [moments] at h
  | cons turn turns ih =>
    cases before with
    | nil =>
      rw [moments, List.nil_append, List.cons.injEq] at h
      obtain ⟨rfl, rfl⟩ := h
      exact ⟨turns, rfl⟩
    | cons first before =>
      rw [moments, List.cons_append, List.cons.injEq] at h
      exact ih h.2

/-- What holds of an engine, and does not of the one that a later moment finds, ends at a
moment in between. -/
theorem exists_ending {P : Engine → Prop} {e : Engine} {turns : List Turn}
    {between after : List Moment} {n : Moment} (h : e.moments turns = between ++ n :: after)
    (he : P e) (hn : ¬ P n.engine) :
    ∃ early m late, between = early ++ m :: late ∧ P m.engine ∧ ¬ P m.reaction.next ∧
      ∃ later, late ++ n :: after = m.reaction.next.moments later := by
  induction turns generalizing e between with
  | nil => simp [moments] at h
  | cons turn turns ih =>
    cases between with
    | nil =>
      rw [moments, List.nil_append, List.cons.injEq] at h
      obtain ⟨rfl, -⟩ := h
      exact absurd he hn
    | cons m between =>
      rw [moments, List.cons_append, List.cons.injEq] at h
      obtain ⟨rfl, h⟩ := h
      by_cases hnext : P (e.step turn.answers turn.call).next
      · obtain ⟨early, m, late, rfl, hm, hlater⟩ := ih h hnext
        exact ⟨_ :: early, m, late, rfl, hm, hlater⟩
      · exact ⟨[], _, between, rfl, he, hnext, turns, h.symm⟩

theorem parked_of_begun {m : Moment} (h : m.begun?.isSome = true) :
    m.engine.context.phase = .processingDelegation ∧ m.engine.context.pending = none ∧
      m.reaction.next.context.pending.isSome = true := by
  cases ledgerStep m with
  | parked _ _ _ hphase hpending hnext => exact ⟨hphase, hpending, by simp [hnext]⟩
  | kept hbegun | taken hbegun | dropped hbegun => simp [hbegun] at h

theorem ends_of_unparked {m : Moment} (h : m.engine.context.pending.isSome = true)
    (hnext : ¬ m.reaction.next.context.pending.isSome = true) :
    m.Ends ∧ m.reaction.next.context.phase = .awaitingRequest := by
  cases ledgerStep m with
  | kept _ _ _ hkept => exact absurd (hkept ▸ h) hnext
  | parked _ _ _ _ hpending => simp [hpending] at h
  | taken _ hresumed _ _ hcleared => exact ⟨.inl (by simp [hresumed]), by rw [hcleared]; rfl⟩
  | dropped _ _ hreset hcleared => exact ⟨.inr hreset, by rw [hcleared]; rfl⟩

theorem ended_and_deferred {e : Engine} {turns : List Turn}
    {before between after : List Moment} {first second : Moment}
    (h : e.moments turns = before ++ first :: between ++ second :: after)
    (hfirst : first.begun?.isSome = true) (hsecond : second.begun?.isSome = true) :
    ∃ early ending middle deferring late,
      between = early ++ ending :: middle ++ deferring :: late ∧ ending.Ends ∧
        deferring.Defers := by
  obtain ⟨-, -, hparked⟩ := parked_of_begun hfirst
  obtain ⟨hopen, hfree, -⟩ := parked_of_begun hsecond
  rw [List.append_assoc, List.cons_append] at h
  obtain ⟨turns, hturns⟩ := moments_after h
  -- something was parked and is not any more, so that it ended;
  obtain ⟨early, ending, rest, rfl, hheld, hunheld, later, hlater⟩ :=
    exists_ending (P := fun e => e.context.pending.isSome = true) hturns.symm hparked
      (by simp [hfree])
  obtain ⟨hends, hidle⟩ := ends_of_unparked hheld hunheld
  -- then nothing was open and now something is, so that the list deferred it
  obtain ⟨middle, deferring, late, rfl, hwaiting, hbusy, -⟩ :=
    exists_ending (P := fun e => e.context.phase = .awaitingRequest) hlater.symm hidle
      (by simp [hopen])
  have hprocessing : deferring.reaction.next.context.phase = .processingDelegation := by
    cases hphase : deferring.reaction.next.context.phase with
    | awaitingRequest => exact absurd hphase hbusy
    | processingDelegation => rfl
  exact ⟨early, ending, middle, deferring, late, by simp, hends,
    defers_of_opened hwaiting hprocessing⟩

theorem dropsFirst_cons (m : Moment) (later : List Moment) :
    dropsFirst (m :: later) =
      if m.resumed?.isSome || m.isReset then m.isReset else dropsFirst later := by
  unfold dropsFirst
  rw [List.find?_cons]
  cases hends : m.resumed?.isSome || m.isReset <;> simp

/-- What is parked and not dropped by these moments. -/
def outstanding (e : Engine) (later : List Moment) : List Delegation :=
  if dropsFirst later then [] else e.context.pending.toList

theorem outstanding_of_unparked {e : Engine} (h : e.context.pending = none)
    (later : List Moment) : e.outstanding later = [] := by
  simp [outstanding, h]

theorem pending_of_cleared {m : Moment} (h : m.reaction.next = m.engine.cleared) :
    m.reaction.next.context.pending = none := by
  rw [h]
  rfl

/-- A moment gives back what was outstanding, or makes what it parks outstanding. -/
theorem outstanding_step (m : Moment) (later : List Moment) :
    m.resumed?.toList ++ m.reaction.next.outstanding later =
      m.engine.outstanding (m :: later) ++
        if dropsFirst later then [] else m.begun?.toList := by
  cases ledgerStep m with
  | kept hbegun hresumed hreset hnext =>
    simp [outstanding, dropsFirst_cons, hbegun, hresumed, hreset, hnext]
  | parked hbegun hresumed hreset _ hpending hnext =>
    simp [outstanding, hbegun, hresumed, hpending, hnext]
  | taken hbegun hresumed hreset hpending hnext =>
    rw [outstanding_of_unparked (pending_of_cleared hnext)]
    simp [outstanding, dropsFirst_cons, hbegun, hresumed, hreset, hpending]
  | dropped hbegun hresumed hreset hnext =>
    rw [outstanding_of_unparked (pending_of_cleared hnext)]
    simp [outstanding, dropsFirst_cons, hbegun, hresumed, hreset]

theorem resumed_append_pending (e : Engine) (turns : List Turn) :
    (e.moments turns).flatMap (fun m => m.resumed?.toList) ++
        (e.afterTurns turns).context.pending.toList =
      e.outstanding (e.moments turns) ++ undropped (e.moments turns) := by
  induction turns generalizing e with
  | nil => simp [moments, outstanding, dropsFirst, undropped, afterTurns]
  | cons turn turns ih =>
    have hstep := outstanding_step ⟨e, turn⟩ ((e.step turn.answers turn.call).next.moments turns)
    rw [moments, afterTurns_cons, undropped, List.flatMap_cons, List.append_assoc, ih,
      ← List.append_assoc, ← List.append_assoc]
    exact congrArg (· ++ _) hstep

/-! ## What a run adds up to -/

/-- How many requests are parked. -/
def parkedCount (e : Engine) : Nat := if e.context.pending.isSome then 1 else 0

theorem parkedCount_of_moment (m : Moment) :
    (if m.begun?.isSome then 1 else 0) + m.engine.parkedCount =
      (if m.resumed?.isSome then 1 else 0) + (if m.isDropping then 1 else 0) +
        m.reaction.next.parkedCount := by
  cases ledgerStep m with
  | kept hbegun hresumed hreset hnext =>
    simp [parkedCount, Moment.isDropping, hbegun, hresumed, hreset, hnext]
  | parked hbegun hresumed hreset _ hpending hnext =>
    simp [parkedCount, Moment.isDropping, hbegun, hresumed, hreset, hpending, hnext]
  | taken hbegun hresumed hreset hpending hnext =>
    simp [parkedCount, Moment.isDropping, hbegun, hresumed, hreset, hpending,
      pending_of_cleared hnext]
  | dropped hbegun hresumed hreset hnext =>
    simp [parkedCount, Moment.isDropping, hbegun, hresumed, hreset, pending_of_cleared hnext]

theorem countP_begun (e : Engine) (turns : List Turn) :
    (e.moments turns).countP (fun m => m.begun?.isSome) + e.parkedCount =
      (e.moments turns).countP (fun m => m.resumed?.isSome) +
        (e.moments turns).countP Moment.isDropping + (e.afterTurns turns).parkedCount := by
  induction turns generalizing e with
  | nil => simp [moments, afterTurns]
  | cons turn turns ih =>
    have hhead : (if (⟨e, turn⟩ : Moment).begun?.isSome then 1 else 0) + e.parkedCount =
        (if (⟨e, turn⟩ : Moment).resumed?.isSome then 1 else 0) +
          (if Moment.isDropping ⟨e, turn⟩ then 1 else 0) +
          (e.step turn.answers turn.call).next.parkedCount := parkedCount_of_moment ⟨e, turn⟩
    have htail := ih (e.step turn.answers turn.call).next
    rw [moments, afterTurns_cons, List.countP_cons, List.countP_cons, List.countP_cons]
    omega

/-- **An engine keeps its books in any order of operations.** Whatever is done to a new
engine, with whatever arguments and whatever the list and the access manager say: a request
is parked only while a decision is open; the list is asked by a check of an idle engine, and
once; a decision is open only since the list has left it to the access manager; two requests
are never parked without an end of the first and another such check between them; and what
is taken up again are the requests that were parked and not dropped by a reset, once each,
in order and unchanged, to be replayed if the decision granted them and rejected if not. -/
theorem keepsLedger_afterTurns (maxUriLength : UInt64) (hasManager : Bool) (turns : List Turn) :
    KeepsLedger ((fresh maxUriLength hasManager).moments turns)
      ((fresh maxUriLength hasManager).afterTurns turns) where
  open_of_parked := sound_afterTurns (e := fresh maxUriLength hasManager) nofun turns
  asked _ _ _ := asked_of_resolved
  opened _ _ := defers_of_opened
  between _ _ _ _ _ := ended_and_deferred
  returned := by
    have hreturned := resumed_append_pending (fresh maxUriLength hasManager) turns
    rw [← List.filterMap_eq_flatMap_toList, outstanding_of_unparked rfl, List.nil_append]
      at hreturned
    exact hreturned
  replayed_iff _ _ _ := replayed_iff
  rejected_iff _ _ _ := rejected_iff
  balanced := countP_begun (fresh maxUriLength hasManager) turns

end ResourceGuard.Engine
