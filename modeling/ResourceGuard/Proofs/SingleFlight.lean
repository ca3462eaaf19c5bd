import ResourceGuard.Proofs.Delegations
import ResourceGuard.Proofs.Runs

/-! # One decision at a time

While a request is parked nothing else is decided on: a request that comes in is
turned away without a question to anybody, with the code that the settings name
for it, and every other call but a decision and a shutdown leaves the engine
alone. A decision is accepted exactly then, and frees the engine. -/
namespace ResourceGuard.Guard

/-- The checks before the busy check let the request through. -/
def PassesChecks (config : Config) (g : Guard) (answers : Answers) (request : Request) : Prop :=
  Config.exceeds config.maxUriLength (pathOf request.uri) = false ∧
    isExposed answers request = false ∧ g.handlers.isSome = true

/-- One decision at a time, under these settings. -/
structure SingleFlight (config : Config) (g : Guard) : Prop where
  /-- A decision is open exactly while a request is parked. -/
  open_iff : g.context.phase = .processingDelegation ↔ g.context.pending.isSome = true
  /-- While one is, only a decision or a shutdown moves the engine; nobody is asked and
  no request is handed over. -/
  frame : g.context.pending.isSome = true → ∀ (answers : Answers) (call : Call),
    call.endsDelegation = false →
      (g.step answers call).next.context = g.context ∧ (g.step answers call).resolved = [] ∧
        (g.step answers call).delegated = [] ∧ (g.step answers call).handed = []
  /-- While one is, a request that gets past the other checks is turned away as the
  settings say. -/
  refused : g.context.pending.isSome = true → ∀ (answers : Answers) (peer : Endpoint)
    (request : Request), PassesChecks config g answers request →
      ∃ code, (config.busyPolicy = .rejectUnauthorized → code = .unauthorized) ∧
        (config.busyPolicy = .rejectUnavailable → code = .serviceUnavailable) ∧
        (g.onRequest answers peer request).result = .rejected code ∧
        (g.onRequest answers peer request).sent = [(peer, request.reply code .piggybacked)] ∧
        (request.reply code .piggybacked).Refuses request code
  /-- That is the only reason to be unavailable. -/
  unavailable : ∀ (answers : Answers) (call : Call) (peer : Endpoint) (response : Response),
    .send peer response ∈ (g.step answers call).contacts →
      response.code = .serviceUnavailable →
        ∃ request, call = .request peer request ∧ g.context.pending.isSome = true ∧
          PassesChecks config g answers request ∧ config.busyPolicy = .rejectUnavailable
  /-- A decision is accepted exactly while a request is parked, -/
  accepted_iff : ∀ (answers : Answers) (decision : ManagerDecision),
    (∃ outcome, (g.onDecision answers decision).result = .ok outcome) ↔
      g.context.pending.isSome = true
  /-- and frees the engine; -/
  freed : ∀ (answers : Answers) (decision : ManagerDecision) (outcome : Outcome),
    (g.onDecision answers decision).result = .ok outcome →
      (g.onDecision answers decision).next.context.phase = .awaitingRequest ∧
        (g.onDecision answers decision).next.context.pending = none
  /-- otherwise it does nothing. -/
  unexpected : ∀ (answers : Answers) (decision : ManagerDecision) (error : AccessError),
    (g.onDecision answers decision).result = .error error →
      error = .internalServerError .nothingPending ∧
        (g.onDecision answers decision).next = g ∧
        (g.onDecision answers decision).contacts = []

variable {g : Guard} {answers : Answers} {peer : Endpoint} {request : Request}

theorem refusal_of_parked (hc : g.Consistent) (hp : g.context.pending.isSome = true) :
    ∃ code, (g.screen answers request).refusal g.config.busyPolicy = some code := by
  cases hs : g.screen answers request with
  | clear handlers =>
    rw [pending_of_clear hc hs] at hp
    cases hp
  | overlong | exposed | unhandled | busy => exact ⟨_, rfl⟩

theorem frame_of_parked (hc : g.Consistent) (hp : g.context.pending.isSome = true) {call : Call}
    (hcall : call.endsDelegation = false) :
    (g.step answers call).next.context = g.context ∧ (g.step answers call).resolved = [] ∧
      (g.step answers call).delegated = [] ∧ (g.step answers call).handed = [] := by
  cases hconcerns : call.concernsRequests with
  | false =>
    have hquiet : (g.step answers call).Quiet := quiet_step (.inl hconcerns)
    exact ⟨context_step hconcerns, hquiet.resolved, hquiet.delegated, hquiet.handed⟩
  | true =>
    cases call with
    | request peer request =>
      obtain ⟨code, hcode⟩ : ∃ code,
          (g.screen answers request).refusal g.config.busyPolicy = some code :=
        refusal_of_parked hc hp
      rw [step_request, onRequest_of_screened hcode]
      simp
    | decision | shutdown => cases hcall
    | _ => cases hconcerns

theorem screen_of_passesChecks (hc : g.Consistent) (hp : g.context.pending.isSome = true)
    (h : PassesChecks g.config g answers request) : g.screen answers request = .busy :=
  screen_eq_busy_iff.mpr ⟨h.1, h.2.1, h.2.2, hc.mpr hp⟩

theorem refused_of_parked (hc : g.Consistent) (hp : g.context.pending.isSome = true)
    (h : PassesChecks g.config g answers request) :
    (g.onRequest answers peer request).result = .rejected g.config.busyPolicy.code ∧
      (g.onRequest answers peer request).sent =
        [(peer, request.reply g.config.busyPolicy.code .piggybacked)] ∧
      (request.reply g.config.busyPolicy.code .piggybacked).Refuses request
        g.config.busyPolicy.code := by
  have hs := screen_of_passesChecks hc hp h
  have hcode : (g.screen answers request).refusal g.config.busyPolicy =
      some g.config.busyPolicy.code := by
    rw [hs]
    rfl
  rw [onRequest_of_screened hcode]
  refine ⟨?_, ?_, refuses_reply _ _ _⟩
  · simp
  · simp

theorem code_of_decision {decision : ManagerDecision} {response : Response}
    (h : (peer, response) ∈ (g.onDecision answers decision).sent) :
    response.code = .unauthorized := by
  have hexit := onDecision_exit g answers decision
  generalize g.onDecision answers decision = r at h hexit
  cases hexit with
  | unexpected => cases h
  | replayed => simp at h
  | unhandled | rejected =>
    obtain ⟨-, rfl⟩ : peer = _ ∧ response = _ := by simpa using h
    rfl

theorem rejected_of_request (hc : g.Consistent) {sender : Endpoint} {response : Response}
    (h : (peer, response) ∈ (g.onRequest answers sender request).sent)
    (hempty : response.code ≠ .empty) :
    peer = sender ∧ (g.onRequest answers sender request).result = .rejected response.code := by
  have hexit := onRequest_exit hc answers sender request
  generalize g.onRequest answers sender request = r at h hexit
  cases hexit with
  | screened | denied | unparked =>
    obtain ⟨rfl, rfl⟩ : peer = sender ∧ response = _ := by simpa using h
    exact ⟨rfl, rfl⟩
  | granted => simp at h
  | parked =>
    obtain ⟨-, rfl⟩ : peer = sender ∧ response = _ := by simpa using h
    exact absurd rfl hempty

/-- A response that neither puts anybody off nor says no refuses a request that has just
come in. -/
theorem refused_of_sent (hc : g.Consistent) {call : Call} {response : Response}
    (h : .send peer response ∈ (g.step answers call).contacts) (hempty : response.code ≠ .empty)
    (hdenied : response.code ≠ .unauthorized) :
    ∃ request, call = .request peer request ∧
      (g.onRequest answers peer request).result = .rejected response.code := by
  have hsent := Reaction.mem_sent.mpr h
  cases call with
  | request sender request =>
    rw [step_request] at hsent
    obtain ⟨rfl, hresult⟩ := rejected_of_request hc hsent hempty
    exact ⟨request, rfl, hresult⟩
  | decision decision =>
    rw [step_decision] at hsent
    exact absurd (code_of_decision hsent) hdenied
  | _ => cases contacts_step (by simp [Call.concernsRequests]) _ h

theorem refusal_eq_unavailable_iff {screening : Screening} {policy : BusyPolicy} :
    screening.refusal policy = some .serviceUnavailable ↔
      screening = .busy ∧ policy = .rejectUnavailable := by
  cases screening with
  | busy => cases policy <;> simp [Screening.refusal, BusyPolicy.code]
  | overlong | exposed | unhandled | clear => simp [Screening.refusal]

theorem busy_of_unavailable (hc : g.Consistent)
    (h : (g.onRequest answers peer request).result = .rejected .serviceUnavailable) :
    g.screen answers request = .busy ∧ g.config.busyPolicy = .rejectUnavailable := by
  have hexit := onRequest_exit hc answers peer request
  generalize g.onRequest answers peer request = r at h hexit
  cases hexit with
  | screened hs =>
    obtain rfl := Outcome.rejected.inj h
    exact refusal_eq_unavailable_iff.mp hs
  | granted | denied | parked | unparked => cases h

theorem unavailable_of_sent (hc : g.Consistent) {call : Call} {response : Response}
    (h : .send peer response ∈ (g.step answers call).contacts)
    (hcode : response.code = .serviceUnavailable) :
    ∃ request, call = .request peer request ∧ g.context.pending.isSome = true ∧
      PassesChecks g.config g answers request ∧ g.config.busyPolicy = .rejectUnavailable := by
  obtain ⟨request, rfl, hresult⟩ := refused_of_sent hc h (by simp [hcode]) (by simp [hcode])
  rw [hcode] at hresult
  obtain ⟨hs, hpolicy⟩ := busy_of_unavailable hc hresult
  obtain ⟨hlength, hexposed, hhandlers, hphase⟩ := screen_eq_busy_iff.mp hs
  exact ⟨request, rfl, hc.mp hphase, ⟨hlength, hexposed, hhandlers⟩, hpolicy⟩

theorem freed_of_ok {decision : ManagerDecision} {outcome : Outcome}
    (h : (g.onDecision answers decision).result = .ok outcome) :
    (g.onDecision answers decision).next.context.phase = .awaitingRequest ∧
      (g.onDecision answers decision).next.context.pending = none := by
  have hexit := onDecision_exit g answers decision
  generalize g.onDecision answers decision = r at h hexit
  cases hexit with
  | unexpected => cases h
  | replayed | unhandled | rejected => exact ⟨rfl, rfl⟩

theorem singleFlight_of_consistent (hc : g.Consistent) : SingleFlight g.config g where
  open_iff := hc
  frame hp _ _ hcall := frame_of_parked hc hp hcall
  refused hp answers peer request h := by
    refine ⟨g.config.busyPolicy.code, ?_, ?_, refused_of_parked hc hp h⟩
    · intro hpolicy
      rw [hpolicy, BusyPolicy.code]
    · intro hpolicy
      rw [hpolicy, BusyPolicy.code]
  unavailable _ _ _ _ := unavailable_of_sent hc
  accepted_iff := onDecision_ok_iff g
  freed _ _ _ := freed_of_ok
  unexpected _ _ _ := onDecision_of_error

/-- **One decision at a time.** Whatever has happened to a guard, it decides on one
request at a time, under the settings that it was made with. -/
theorem singleFlight_afterTurns (config : Config) (hasManager : Bool) (turns : List Turn) :
    SingleFlight config ((fresh config hasManager).afterTurns turns) := by
  have hc := consistent_afterTurns (consistent_fresh config hasManager) turns
  have hconfig := config_afterTurns (consistent_fresh config hasManager) turns
  have hflight := singleFlight_of_consistent hc
  rw [hconfig] at hflight
  exact hflight

end ResourceGuard.Guard
