import ResourceGuard.Proofs.PlainChannel

/-! # What an internal error means

The engine has a contract: it is not asked while a decision is open, nor about a path that
is too long; nothing is delegated that was not deferred; and nothing that is parked is
dropped when a request or a decision is done with. The guard keeps it, so the errors that
the contract would be broken with never arise. What is left of internal errors are three:
the path is too long for the guard itself, nobody is registered, or the access manager
cannot be asked. Whatever a request ends in, it is parked when it is acknowledged and
otherwise leaves no decision open that was not open before. -/
namespace ResourceGuard

/-- The entry tells that the engine's contract was broken. -/
def AuditEntry.Misuse : AuditEntry → Prop
  | .checkedWhileBusy _ _ => True
  | .delegationFailed error =>
    error = .internalServerError .nothingDeferred ∨ error = .internalServerError .alreadyPending
  | .abandoned _ _ => True
  | _ => False

namespace Guard

/-- What the engine makes of a request that the checks before it let through. -/
def asking (g : Guard) (answers : Answers) (request : Request) : Reaction Engine Decision :=
  g.engine.check answers request.identity request.path request.method.requiredPermission

/-- The same with what is done about it, as far as it goes before the engine is settled. -/
def handling (g : Guard) (answers : Answers) (handlers : Handlers) (peer : Endpoint)
    (request : Request) : Reaction Engine Outcome :=
  (g.asking answers request).andThen (actOn answers handlers peer request)

/-- The guard keeps the engine's contract, whatever comes next. -/
structure KeepsContract (g : Guard) : Prop where
  /-- These are the calls to the engine that a request comes to, if it comes to any. -/
  evaluated : ∀ answers peer request handlers, g.screen answers request = .clear handlers →
    g.onRequest answers peer request =
      (((g.handling answers handlers peer request).andThen settle).within g.withEngine).after
        (g.screeningContacts request) (g.screeningEntries request (.clear handlers))
  /-- The engine decides, -/
  checked : ∀ answers request handlers, g.screen answers request = .clear handlers →
    (g.asking answers request).result ≠ .error
  /-- delegates unless the access manager cannot be asked, -/
  delegated : ∀ answers peer request handlers error, g.screen answers request = .clear handlers →
    (g.asking answers request).result = .waiting →
      ((g.asking answers request).next.delegate answers peer request).result = .error error →
        error = .internalServerError .noAccessManager ∨
          ∃ fault, error = .internalServerError (.queryFailed fault)
  /-- and holds nothing any more when it is reset after a request -/
  settled : ∀ answers peer request handlers, g.screen answers request = .clear handlers →
    (g.handling answers handlers peer request).result ≠ .acknowledged →
      (g.handling answers handlers peer request).next.context.pending = none
  /-- or after a decision. -/
  resumed : ∀ answers decision resumption, (g.engine.resume decision).result = .ok resumption →
    (carryOut g.handlers answers (g.engine.resume decision).next resumption).next.context.pending =
      none
  /-- So the log tells of no misuse, -/
  logged_request : ∀ answers peer request,
    ∀ entry ∈ (g.onRequest answers peer request).entries, ¬ entry.Misuse
  logged_decision : ∀ answers decision,
    ∀ entry ∈ (g.onDecision answers decision).entries, ¬ entry.Misuse
  /-- and there is always an answer. -/
  unfailed : ∀ answers call error, (g.step answers call).result ≠ .outcome (.failed error)

/-- Why a request ends in an internal error. -/
inductive BreaksDown (config : Config) (hasManager : Bool) (g : Guard) (answers : Answers)
    (request : Request) : Prop where
  /-- its path is too long to be looked at -/
  | overlong (hlength : config.maxUriLength.toNat < (pathOf request.uri).utf8ByteSize)
  /-- nobody is there to have it -/
  | unhandled (hlength : (pathOf request.uri).utf8ByteSize ≤ config.maxUriLength.toNat)
      (hplain : ¬ MustForbid config answers request) (hhandlers : g.handlers = none)
  /-- the list leaves it to an access manager that is not there or does not take it -/
  | unqueried (hlength : (pathOf request.uri).utf8ByteSize ≤ config.maxUriLength.toNat)
      (hplain : ¬ MustForbid config answers request) (hhandlers : g.handlers.isSome = true)
      (hidle : g.context.phase = .awaitingRequest)
      (hverdict : answers.verdict request.query = .requiresManager)
      (hmanager : hasManager = false ∨ ∃ fault, answers.manager request.query = .error fault)

/-- How requests and decisions end at a guard with these settings, and what they leave. -/
structure EndsInOrder (config : Config) (hasManager : Bool) (g : Guard) : Prop where
  internal_iff : ∀ answers peer request,
    (g.onRequest answers peer request).result = .rejected .internalServerError ↔
      BreaksDown config hasManager g answers request
  /-- A peer is not told of an internal error for any other reason. -/
  sent : ∀ answers call peer response, .send peer response ∈ (g.step answers call).contacts →
    response.code = .internalServerError →
      ∃ request, call = .request peer request ∧ BreaksDown config hasManager g answers request
  /-- An idle engine is idle again after a request, internal error or not, unless the
  request is acknowledged; -/
  freed : ∀ answers peer request, g.context.phase = .awaitingRequest →
    (g.onRequest answers peer request).result ≠ .acknowledged →
      (g.onRequest answers peer request).next.context.phase = .awaitingRequest ∧
        (g.onRequest answers peer request).next.context.pending = none
  /-- then it is parked. -/
  parked : ∀ answers peer request, (g.onRequest answers peer request).result = .acknowledged →
    g.context.phase = .awaitingRequest ∧
      (g.onRequest answers peer request).next.context.phase = .processingDelegation ∧
      (g.onRequest answers peer request).next.context.pending = some ⟨peer, request⟩
  /-- A busy one is left alone by requests, -/
  busy : ∀ answers peer request, g.context.phase = .processingDelegation →
    (g.onRequest answers peer request).next = g
  /-- and idle after a decision. -/
  decided : ∀ answers decision,
    (g.onDecision answers decision).next.context.phase = .awaitingRequest ∧
      (g.onDecision answers decision).next.context.pending = none

variable {g : Guard} {answers : Answers} {peer : Endpoint} {request : Request}
  {handlers : Handlers}

/-! ## The contract -/

theorem asking_ne_error (hs : g.screen answers request = .clear handlers) :
    (g.asking answers request).result ≠ .error := by
  rw [asking, check_of_clear hs]
  cases answers.verdict request.query <;> simp [Verdict.decision]

theorem verdict_of_waiting (hs : g.screen answers request = .clear handlers)
    (h : (g.asking answers request).result = .waiting) :
    answers.verdict request.query = .requiresManager := by
  rw [asking, check_of_clear hs] at h
  cases hv : answers.verdict request.query with
  | requiresManager => rfl
  | granted | denied => simp [hv, Verdict.decision] at h

theorem pending_asking (hc : g.Consistent) (hs : g.screen answers request = .clear handlers) :
    (g.asking answers request).next.context.pending = none := by
  rw [asking, check_of_clear hs]
  exact pending_of_clear hc hs

/-- A check that leaves a request to the access manager has the engine ready for it. -/
theorem delegate_of_waiting (hc : g.Consistent) (hs : g.screen answers request = .clear handlers)
    (h : (g.asking answers request).result = .waiting) :
    (g.asking answers request).next.delegate answers peer request =
      match answers.managerFault g.hasManager request.query with
      | none =>
        { result := .ok (), next := (g.asking answers request).next.holding ⟨peer, request⟩,
          contacts := managerContacts g.hasManager request.query,
          entries := [.parked request.query peer.id] }
      | some fault =>
        ((g.asking answers request).next.fail fault).after
          (managerContacts g.hasManager request.query) [] := by
  have hphase : (g.asking answers request).next.context.phase = .processingDelegation := by
    rw [asking, check_of_clear hs, verdict_of_waiting hs h]
    rfl
  have hmanager : (g.asking answers request).next.hasManager = g.hasManager := by
    rw [asking, check_of_clear hs]
    rfl
  rw [← hmanager]
  exact Engine.delegate_of_deferred hphase (pending_asking hc hs)

theorem fault_of_delegate (hc : g.Consistent) (hs : g.screen answers request = .clear handlers)
    {error : AccessError} (h : (g.asking answers request).result = .waiting)
    (herror : ((g.asking answers request).next.delegate answers peer request).result =
      .error error) :
    error = .internalServerError .noAccessManager ∨
      ∃ fault, error = .internalServerError (.queryFailed fault) := by
  rw [delegate_of_waiting hc hs h] at herror
  cases hm : answers.managerFault g.hasManager request.query with
  | none => simp [hm] at herror
  | some fault =>
    obtain rfl : .internalServerError fault = error := by simpa [hm, Engine.fail] using herror
    rcases fault_of_managerFault hm with rfl | ⟨reported, rfl⟩
    · exact .inl rfl
    · exact .inr ⟨reported, rfl⟩

theorem pending_handling (hc : g.Consistent) (hs : g.screen answers request = .clear handlers)
    (h : (g.handling answers handlers peer request).result ≠ .acknowledged) :
    (g.handling answers handlers peer request).next.context.pending = none := by
  have hpending := pending_asking hc hs
  unfold handling at h ⊢
  rw [Reaction.result_andThen] at h
  rw [Reaction.next_andThen]
  cases hd : (g.asking answers request).result with
  | granted | denied | error =>
    simpa [actOn] using hpending
  | waiting =>
    rw [hd, actOn, delegate_of_waiting hc hs hd] at h
    rw [actOn, delegate_of_waiting hc hs hd]
    cases hm : answers.managerFault g.hasManager request.query with
    | none => simp [hm] at h
    | some fault => simpa [hm, Engine.fail] using hpending

theorem pending_carryOut {decision : ManagerDecision} {resumption : Resumption}
    (h : (g.engine.resume decision).result = .ok resumption) :
    (carryOut g.handlers answers (g.engine.resume decision).next resumption).next.context.pending =
      none := by
  rw [next_carryOut]
  unfold Engine.resume at h ⊢
  cases hn : g.engine.context.pending with
  | none => simp [hn, Engine.fail] at h
  | some d => rfl

/-! ## The log -/

theorem entries_transmit {σ : Type} (state : σ) (answers : Answers) (peer : Endpoint)
    (response : Response) (outcome : Outcome) :
    ∀ entry ∈ (transmit state answers peer response outcome).entries, ¬ entry.Misuse := by
  intro entry hentry
  unfold transmit at hentry
  split at hentry <;> rw [List.mem_singleton.mp hentry] <;> exact id

theorem entries_screening (g : Guard) (request : Request) (screening : Screening) :
    ∀ entry ∈ g.screeningEntries request screening, ¬ entry.Misuse := by
  unfold screeningEntries
  cases request.identity.onSecureChannel <;> cases screening <;> simp [AuditEntry.Misuse]

theorem entries_request (hc : g.Consistent) (answers : Answers) (peer : Endpoint)
    (request : Request) :
    ∀ entry ∈ (g.onRequest answers peer request).entries, ¬ entry.Misuse := by
  have hscreening := entries_screening g request
  have hexit := onRequest_exit hc answers peer request
  generalize g.onRequest answers peer request = r at hexit
  cases hexit with
  | screened =>
    rw [Reaction.entries_after, List.forall_mem_append]
    exact ⟨hscreening _, entries_transmit _ _ _ _ _⟩
  | granted =>
    rw [Reaction.entries_after, List.forall_mem_append, List.forall_mem_append]
    refine ⟨⟨hscreening _, ?_⟩, ?_⟩
    · simp [AuditEntry.Misuse]
    · simp [deliver]
  | denied | parked =>
    rw [Reaction.entries_after, List.forall_mem_append, List.forall_mem_append]
    refine ⟨⟨hscreening _, ?_⟩, entries_transmit _ _ _ _ _⟩
    simp [AuditEntry.Misuse]
  | unparked _ _ hm =>
    rw [Reaction.entries_after, List.forall_mem_append, List.forall_mem_append]
    refine ⟨⟨hscreening _, ?_⟩, entries_transmit _ _ _ _ _⟩
    rcases fault_of_managerFault hm with rfl | ⟨reported, rfl⟩ <;> simp [AuditEntry.Misuse]

theorem entries_decision (g : Guard) (answers : Answers) (decision : ManagerDecision) :
    ∀ entry ∈ (g.onDecision answers decision).entries, ¬ entry.Misuse := by
  have hexit := onDecision_exit g answers decision
  generalize g.onDecision answers decision = r at hexit
  cases hexit with
  | unexpected => simp [AuditEntry.Misuse]
  | replayed =>
    rw [Reaction.entries_after, List.forall_mem_append]
    refine ⟨?_, ?_⟩
    · simp [AuditEntry.Misuse]
    · simp [deliver]
  | unhandled | rejected =>
    rw [Reaction.entries_after, List.forall_mem_append]
    refine ⟨?_, ?_⟩
    · simp [AuditEntry.Misuse]
    · rw [Reaction.entries_map]
      exact entries_transmit _ _ _ _ _

/-! ## Outcomes -/

theorem result_step_ne_failed (hc : g.Consistent) (answers : Answers) (call : Call)
    (error : AccessError) : (g.step answers call).result ≠ .outcome (.failed error) := by
  cases call with
  | request peer request =>
    rw [step_request]
    have hexit := onRequest_exit hc answers peer request
    generalize g.onRequest answers peer request = r at hexit
    cases hexit with
    | screened | granted | denied | parked | unparked => simp
  | decision decision =>
    rw [step_decision]
    have hexit := onDecision_exit g answers decision
    generalize g.onDecision answers decision = r at hexit
    cases hexit with
    | unexpected | replayed | unhandled | rejected => simp [Return.ofDecision]
  | _ => exact result_step_ne (by simp [Call.concernsRequests]) _

theorem keepsContract_of_consistent (hc : g.Consistent) : KeepsContract g where
  evaluated answers peer request handlers hs := by
    rw [onRequest, hs]
    rfl
  checked _ _ _ := asking_ne_error
  delegated _ _ _ _ _ hs := fault_of_delegate hc hs
  settled _ _ _ _ := pending_handling hc
  resumed _ _ _ := pending_carryOut
  logged_request := entries_request hc
  logged_decision := entries_decision g
  unfailed := result_step_ne_failed hc

/-- A check before the engine ends in an internal error in two cases. -/
theorem refusal_eq_internal_iff {screening : Screening} {policy : BusyPolicy} :
    screening.refusal policy = some .internalServerError ↔
      screening = .overlong ∨ screening = .unhandled := by
  cases screening with
  | busy => cases policy <;> simp [Screening.refusal, BusyPolicy.code]
  | overlong | exposed | unhandled | clear => simp [Screening.refusal]

theorem not_mustForbid_iff (hl : Config.exceeds g.config.maxUriLength request.path = false) :
    ¬ MustForbid g.config answers request ↔ isExposed answers request = false := by
  rw [← screen_eq_exposed_iff_mustForbid, screen_eq_exposed_iff]
  simp [hl]

theorem breaksDown_of_internal (hc : g.Consistent)
    (h : (g.onRequest answers peer request).result = .rejected .internalServerError) :
    BreaksDown g.config g.hasManager g answers request := by
  have hexit := onRequest_exit hc answers peer request
  generalize g.onRequest answers peer request = r at h hexit
  cases hexit with
  | screened hs =>
    obtain rfl := Outcome.rejected.inj h
    rcases refusal_eq_internal_iff.mp hs with hs | hs
    · exact .overlong (Config.exceeds_eq_true_iff.mp (screen_eq_iff.mp hs))
    · obtain ⟨hlength, hexposed, hhandlers⟩ := screen_eq_iff.mp hs
      exact .unhandled (Config.exceeds_eq_false_iff.mp hlength)
        ((not_mustForbid_iff hlength).mpr hexposed) hhandlers
  | granted | denied | parked => cases h
  | unparked hs hv hm =>
    obtain ⟨hlength, hexposed, hhandlers, hphase⟩ := screen_eq_clear_iff.mp hs
    exact .unqueried (Config.exceeds_eq_false_iff.mp hlength)
      ((not_mustForbid_iff hlength).mpr hexposed) (by simp [hhandlers]) hphase hv
      (exists_managerFault_iff.mp ⟨_, hm⟩)

theorem internal_of_breaksDown (hc : g.Consistent)
    (h : BreaksDown g.config g.hasManager g answers request) :
    (g.onRequest answers peer request).result = .rejected .internalServerError := by
  cases h with
  | overlong hlength =>
    have hs : g.screen answers request = .overlong :=
      screen_eq_iff.mpr (Config.exceeds_eq_true_iff.mpr hlength)
    rw [onRequest_of_screened (refusal_eq_internal_iff.mpr (.inl hs))]
    rfl
  | unhandled hlength hplain hhandlers =>
    have hl := Config.exceeds_eq_false_iff.mpr hlength
    have hs : g.screen answers request = .unhandled :=
      screen_eq_iff.mpr ⟨hl, (not_mustForbid_iff hl).mp hplain, hhandlers⟩
    rw [onRequest_of_screened (refusal_eq_internal_iff.mpr (.inr hs))]
    rfl
  | unqueried hlength hplain hhandlers hidle hverdict hmanager =>
    have hl := Config.exceeds_eq_false_iff.mpr hlength
    obtain ⟨handlers, hh⟩ := Option.isSome_iff_exists.mp hhandlers
    have hs : g.screen answers request = .clear handlers :=
      screen_eq_clear_iff.mpr ⟨hl, (not_mustForbid_iff hl).mp hplain, hh, hidle⟩
    obtain ⟨fault, hm⟩ := exists_managerFault_iff.mpr hmanager
    have hexit : RequestExit g answers peer request _ := .unparked hs hverdict hm
    rw [← hexit.eq_onRequest hc]
    rfl

theorem breaksDown_of_sent (hc : g.Consistent) {call : Call} {response : Response}
    (h : .send peer response ∈ (g.step answers call).contacts)
    (hcode : response.code = .internalServerError) :
    ∃ request, call = .request peer request ∧
      BreaksDown g.config g.hasManager g answers request := by
  obtain ⟨request, rfl, hresult⟩ := refused_of_sent hc h (by simp [hcode]) (by simp [hcode])
  rw [hcode] at hresult
  exact ⟨request, rfl, breaksDown_of_internal hc hresult⟩

/-! ## What is left open -/

theorem freed_of_idle (hc : g.Consistent) (hidle : g.context.phase = .awaitingRequest)
    (h : (g.onRequest answers peer request).result ≠ .acknowledged) :
    (g.onRequest answers peer request).next.context.phase = .awaitingRequest ∧
      (g.onRequest answers peer request).next.context.pending = none := by
  have hexit := onRequest_exit hc answers peer request
  generalize g.onRequest answers peer request = r at h hexit
  cases hexit with
  | screened => exact ⟨hidle, hc.phase_eq_awaiting_iff.mp hidle⟩
  | granted | denied | unparked => exact ⟨rfl, rfl⟩
  | parked => exact absurd rfl h

theorem parked_of_acknowledged (hc : g.Consistent)
    (h : (g.onRequest answers peer request).result = .acknowledged) :
    g.context.phase = .awaitingRequest ∧
      (g.onRequest answers peer request).next.context.phase = .processingDelegation ∧
      (g.onRequest answers peer request).next.context.pending = some ⟨peer, request⟩ := by
  have hexit := onRequest_exit hc answers peer request
  generalize g.onRequest answers peer request = r at h hexit
  cases hexit with
  | screened | granted | denied | unparked => cases h
  | parked hs => exact ⟨(screen_eq_clear_iff.mp hs).2.2.2, rfl, rfl⟩

theorem unchanged_of_busy (hc : g.Consistent) (h : g.context.phase = .processingDelegation) :
    (g.onRequest answers peer request).next = g := by
  obtain ⟨code, hcode⟩ : ∃ code,
      (g.screen answers request).refusal g.config.busyPolicy = some code :=
    refusal_of_parked hc (hc.mp h)
  rw [onRequest_of_screened hcode]
  rfl

theorem idle_of_decision (hc : g.Consistent) (answers : Answers) (decision : ManagerDecision) :
    (g.onDecision answers decision).next.context.phase = .awaitingRequest ∧
      (g.onDecision answers decision).next.context.pending = none := by
  have hpending := pending_onDecision g answers decision
  have hconsistent : (g.onDecision answers decision).next.Consistent :=
    (onDecision_exit g answers decision).consistent hc
  exact ⟨hconsistent.phase_eq_awaiting_iff.mpr hpending, hpending⟩

theorem endsInOrder_of_consistent (hc : g.Consistent) :
    EndsInOrder g.config g.hasManager g where
  internal_iff _ _ _ := ⟨breaksDown_of_internal hc, internal_of_breaksDown hc⟩
  sent _ _ _ _ := breaksDown_of_sent hc
  freed _ _ _ := freed_of_idle hc
  parked _ _ _ := parked_of_acknowledged hc
  busy _ _ _ := unchanged_of_busy hc
  decided := idle_of_decision hc

/-- **An internal error means one of three things.** Whatever has happened to a guard, it
keeps the contract of its engine, so that a request ends in an internal error only if its
path is too long, or nobody is registered, or the list leaves it to an access manager that
cannot be asked; and after this as after any other end but an acknowledgement, nothing is
open that was not open before. -/
theorem internal_error_afterTurns (config : Config) (hasManager : Bool) (turns : List Turn) :
    KeepsContract ((fresh config hasManager).afterTurns turns) ∧
      EndsInOrder config hasManager ((fresh config hasManager).afterTurns turns) := by
  have hfresh := consistent_fresh config hasManager
  have hc := consistent_afterTurns hfresh turns
  obtain ⟨hconfig, hmanager⟩ := settings_afterTurns hfresh turns
  have hends := endsInOrder_of_consistent hc
  rw [hconfig, hmanager] at hends
  exact ⟨keepsContract_of_consistent hc, hends⟩

end Guard

end ResourceGuard
