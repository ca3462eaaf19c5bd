import ResourceGuard.Proofs.EngineExits

/-! # Operations that fail

An operation of the engine either does what it is for or does nothing. It fails for seven
reasons: the engine is busy, the path is too long, nothing was deferred, another request is
parked, there is no access manager, the access manager does not take the question, nothing
is parked. The engine is then what it was before, even when the access manager had been
asked; so a run in which the failed operations never took place goes just the same. -/
namespace ResourceGuard

/-- The operation did not do what it is for. -/
def EngineReturn.isFailure : EngineReturn → Bool
  | .decision .error => true
  | .error _ => true
  | _ => false

theorem Verdict.decision_ne_error (verdict : Verdict) : verdict.decision ≠ .error := by
  cases verdict <;> nofun

namespace Engine

def Moment.Fails (m : Moment) : Prop := m.reaction.result.isFailure = true

/-- The second of these lists is the first without some of the operations that failed. -/
inductive Spares : List Moment → List Moment → Prop where
  | nil : Spares [] []
  | keep (m : Moment) {all kept : List Moment} (h : Spares all kept) :
      Spares (m :: all) (m :: kept)
  | leave {m : Moment} (hm : m.Fails) {all kept : List Moment} (h : Spares all kept) :
      Spares (m :: all) kept

/-- The access manager is not asked to decide, whoever it is: no decision was left to it,
another request is parked, or it does not exist. -/
def Unaskable (hasManager : Bool) (e : Engine) : Prop :=
  e.context.phase ≠ .processingDelegation ∨ e.context.pending.isSome = true ∨ hasManager = false

/-- An engine with these settings does a thing or leaves it. -/
structure FailsWhole (maxUriLength : UInt64) (hasManager : Bool) (e : Engine) : Prop where
  check_iff : ∀ answers subject path permission,
    (e.step answers (.check subject path permission)).result = .decision .error ↔
      e.context.phase ≠ .awaitingRequest ∨ maxUriLength.toNat < path.utf8ByteSize
  /-- A check that fails asks nobody. -/
  check_contacts : ∀ answers subject path permission,
    (e.step answers (.check subject path permission)).result = .decision .error →
      (e.step answers (.check subject path permission)).contacts = []
  delegate_iff : ∀ answers peer request,
    (∃ error, (e.step answers (.delegate peer request)).result = .error error) ↔
      Unaskable hasManager e ∨ ∃ fault, answers.manager request.query = .error fault
  /-- The access manager is asked once about each request that it can be asked about, -/
  delegate_contacts : ∀ answers peer request, ¬ Unaskable hasManager e →
    (e.step answers (.delegate peer request)).contacts = [.delegate request.query]
  /-- and not about any other. -/
  delegate_unasked : ∀ answers peer request, Unaskable hasManager e →
    (e.step answers (.delegate peer request)).contacts = []
  resume_iff : ∀ answers decision,
    (∃ error, (e.step answers (.resume decision)).result = .error error) ↔
      e.context.pending = none
  /-- Whatever the reason is, it is an internal error. -/
  internal : ∀ answers call error, (e.step answers call).result = .error error →
    ∃ fault, error = .internalServerError fault
  /-- What failed has changed nothing, -/
  next : ∀ answers call, (e.step answers call).result.isFailure = true →
    (e.step answers call).next = e
  /-- so the same happens without it, and without any others that failed. -/
  run : ∀ turns kept, Spares (e.moments turns) kept →
    e.run (kept.map Moment.turn) = kept.map Moment.reaction ∧
      e.afterTurns (kept.map Moment.turn) = e.afterTurns turns

variable {e : Engine} {answers : Answers}

/-! ## One operation -/

theorem settings_step (e : Engine) (answers : Answers) (call : EngineCall) :
    (e.step answers call).next.maxUriLength = e.maxUriLength ∧
      (e.step answers call).next.hasManager = e.hasManager := by
  have hexit := step_exit e answers call
  generalize e.step answers call = r at hexit
  cases hexit <;> exact ⟨rfl, rfl⟩

theorem check_eq_error_iff (e : Engine) (answers : Answers) (subject : SubjectId) (path : String)
    (permission : Permission) :
    (e.step answers (.check subject path permission)).result = .decision .error ↔
      e.context.phase ≠ .awaitingRequest ∨ e.maxUriLength.toNat < path.utf8ByteSize := by
  have hexit := check_exit e answers subject path permission
  generalize e.step answers (.check subject path permission) = r at hexit
  cases hexit with
  | busy hp => simp [hp]
  | overlong _ hl => simp [Config.exceeds_eq_true_iff.mp hl]
  | @asked query hp hl =>
    simp [hp, Config.exceeds_eq_false_iff.mp hl, Verdict.decision_ne_error]

theorem contacts_of_check_error {subject : SubjectId} {path : String} {permission : Permission}
    (h : (e.step answers (.check subject path permission)).result = .decision .error) :
    (e.step answers (.check subject path permission)).contacts = [] := by
  have hexit := check_exit e answers subject path permission
  generalize e.step answers (.check subject path permission) = r at h hexit
  cases hexit with
  | busy | overlong => rfl
  | asked => exact absurd (EngineReturn.decision.inj h) (Verdict.decision_ne_error _)

/-- An engine that is ready to ask has had a decision left to the access manager, has room
for the request, and has an access manager. -/
theorem not_unaskable_iff : ¬ Unaskable e.hasManager e ↔
    e.context.phase = .processingDelegation ∧ e.context.pending = none ∧ e.hasManager = true := by
  simp [Unaskable]

theorem delegate_eq_error_iff (e : Engine) (answers : Answers) (peer : Endpoint)
    (request : Request) :
    (∃ error, (e.step answers (.delegate peer request)).result = .error error) ↔
      Unaskable e.hasManager e ∨ ∃ fault, answers.manager request.query = .error fault := by
  have hexit := delegate_exit e answers peer request
  generalize e.step answers (.delegate peer request) = r at hexit
  cases hexit with
  | undeferred hp => simp [Unaskable, hp]
  | occupied _ hn => simp [Unaskable, hn]
  | unqueried _ _ hm =>
    rcases exists_managerFault_iff.mp ⟨_, hm⟩ with hmanager | hfault
    · simp [Unaskable, hmanager]
    · simp [hfault]
  | delegated hp hn hm =>
    obtain ⟨hmanager, htaken⟩ := managerFault_eq_none_iff.mp hm
    simp [Unaskable, hp, hn, hmanager, htaken]

theorem contacts_delegate (e : Engine) (answers : Answers) (peer : Endpoint) (request : Request)
    (h : ¬ Unaskable e.hasManager e) :
    (e.step answers (.delegate peer request)).contacts = [.delegate request.query] := by
  obtain ⟨hp, hn, hmanager⟩ := not_unaskable_iff.mp h
  have hexit := delegate_exit e answers peer request
  generalize e.step answers (.delegate peer request) = r at hexit
  cases hexit with
  | undeferred hidle => simp [hp] at hidle
  | occupied _ hparked => simp [hn] at hparked
  | unqueried | delegated => simp [managerContacts, hmanager]

theorem contacts_delegate_of_unaskable (e : Engine) (answers : Answers) (peer : Endpoint)
    (request : Request) (h : Unaskable e.hasManager e) :
    (e.step answers (.delegate peer request)).contacts = [] := by
  have hexit := delegate_exit e answers peer request
  generalize e.step answers (.delegate peer request) = r at hexit
  cases hexit with
  | undeferred | occupied => rfl
  | unqueried hp hn | delegated hp hn =>
    have hmanager : e.hasManager = false := by simpa [Unaskable, hp, hn] using h
    simp [managerContacts, hmanager]

theorem resume_eq_error_iff (e : Engine) (answers : Answers) (decision : ManagerDecision) :
    (∃ error, (e.step answers (.resume decision)).result = .error error) ↔
      e.context.pending = none := by
  have hexit := step_exit e answers (.resume decision)
  generalize e.step answers (.resume decision) = r at hexit
  cases hexit with
  | unresumed hn => simp [hn]
  | resumed hn => simp [hn]

theorem internal_of_error {call : EngineCall} {error : AccessError}
    (h : (e.step answers call).result = .error error) :
    ∃ fault, error = .internalServerError fault := by
  have hexit := step_exit e answers call
  generalize e.step answers call = r at h hexit
  cases hexit with
  | undeferred | occupied | unqueried | unresumed => exact ⟨_, (EngineReturn.error.inj h).symm⟩
  | busy | overlong | asked | delegated | resumed | reset => cases h

theorem next_of_failure {call : EngineCall} (h : (e.step answers call).result.isFailure = true) :
    (e.step answers call).next = e := by
  have hexit := step_exit e answers call
  generalize e.step answers call = r at h hexit
  cases hexit with
  | busy | overlong | undeferred | occupied | unqueried | unresumed => rfl
  | @asked query =>
    cases hv : answers.verdict query <;> simp [hv, Verdict.decision, EngineReturn.isFailure] at h
  | delegated | resumed | reset => cases h

/-! ## Whole runs -/

theorem run_eq (e : Engine) (turns : List Turn) :
    e.run turns = (e.moments turns).map Moment.reaction := by
  induction turns generalizing e with
  | nil => rfl
  | cons turn turns ih =>
    rw [run, moments, List.map_cons, ih]
    rfl

theorem settings_afterTurns (e : Engine) (turns : List Turn) :
    (e.afterTurns turns).maxUriLength = e.maxUriLength ∧
      (e.afterTurns turns).hasManager = e.hasManager := by
  induction turns generalizing e with
  | nil => exact ⟨rfl, rfl⟩
  | cons turn turns ih =>
    obtain ⟨hlimit, hmanager⟩ := settings_step e turn.answers turn.call
    rw [afterTurns_cons, ← hlimit, ← hmanager]
    exact ih _

/-- What is kept finds the engine that it found before, since what is left out had not
changed it. -/
theorem moments_of_spares {turns : List Turn} {kept : List Moment}
    (h : Spares (e.moments turns) kept) :
    e.moments (kept.map Moment.turn) = kept ∧
      e.afterTurns (kept.map Moment.turn) = e.afterTurns turns := by
  induction turns generalizing e kept with
  | nil =>
    cases h
    exact ⟨rfl, rfl⟩
  | cons turn turns ih =>
    rw [moments] at h
    cases h with
    | keep _ h =>
      obtain ⟨hmoments, hafter⟩ := ih h
      exact ⟨congrArg (_ :: ·) hmoments, hafter⟩
    | leave hm h =>
      have hsame : (e.step turn.answers turn.call).next = e := next_of_failure hm
      rw [hsame] at h
      rw [afterTurns_cons, hsame]
      exact ih h

theorem failsWhole (e : Engine) : FailsWhole e.maxUriLength e.hasManager e where
  check_iff := check_eq_error_iff e
  check_contacts _ _ _ _ := contacts_of_check_error
  delegate_iff := delegate_eq_error_iff e
  delegate_contacts := contacts_delegate e
  delegate_unasked := contacts_delegate_of_unaskable e
  resume_iff := resume_eq_error_iff e
  internal _ _ _ := internal_of_error
  next _ _ := next_of_failure
  run turns kept h := by
    obtain ⟨hmoments, hafter⟩ := moments_of_spares h
    rw [run_eq, hmoments]
    exact ⟨rfl, hafter⟩

/-- **An operation that fails has not taken place.** Whatever has been done to an engine, in
whatever order: a check fails exactly when a decision is open or the path is too long, and
asks nobody then; a request cannot be parked exactly when no decision was left to the access
manager, another request is parked, there is no access manager or it does not take the
question, and only in the last case it was asked, once; a decision is refused exactly when
nothing is parked. What fails returns an internal error and leaves the engine as it was, so
that with any of the failed operations left out the others end as they did. -/
theorem failsWhole_afterTurns (maxUriLength : UInt64) (hasManager : Bool) (turns : List Turn) :
    FailsWhole maxUriLength hasManager ((fresh maxUriLength hasManager).afterTurns turns) := by
  have hwhole := failsWhole ((fresh maxUriLength hasManager).afterTurns turns)
  obtain ⟨hlimit, hmanager⟩ := settings_afterTurns (fresh maxUriLength hasManager) turns
  rw [hlimit, hmanager] at hwhole
  exact hwhole

end Engine

end ResourceGuard
