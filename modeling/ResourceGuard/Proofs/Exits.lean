import ResourceGuard.Proofs.Contacts

/-! # How a call ends

A request can leave the guard in five ways, a decision of the access manager in
four. `RequestExit` and `DecisionExit` list them, each with what was found on
the way there and the whole reaction; whatever else is proved about the guard
goes through these two lists. They hold of a guard whose books agree
(`Guard.Consistent`), and every call leaves the books so. -/
namespace ResourceGuard

/-! ## Contexts -/

namespace Context

/-- A decision is open exactly while a request is parked. -/
def Consistent (c : Context) : Prop :=
  c.phase = .processingDelegation ↔ c.pending.isSome = true

/-- The context after a question that has left nothing open. -/
def settled (query : AccessQuery) : Context where
  resource := query.resource
  subject := query.subject
  permission := query.permission

/-- The context after a question on whose account a request is parked. -/
def parking (query : AccessQuery) (delegation : Delegation) : Context :=
  { settled query with phase := .processingDelegation, pending := some delegation }

/-- The context with whatever was open dropped. -/
def cleared (c : Context) : Context := { c with phase := .awaitingRequest, pending := none }

theorem consistent_settled (query : AccessQuery) : (settled query).Consistent := by
  simp [Consistent, settled]

theorem consistent_parking (query : AccessQuery) (d : Delegation) :
    (parking query d).Consistent := by
  simp [Consistent, parking]

theorem consistent_cleared (c : Context) : c.cleared.Consistent := by
  simp [Consistent, cleared]

theorem Consistent.phase_eq_awaiting_iff {c : Context} (h : c.Consistent) :
    c.phase = .awaitingRequest ↔ c.pending = none := by
  obtain ⟨phase, _, _, _, pending⟩ := c
  cases phase <;> cases pending <;> simp_all [Consistent]

end Context

/-! ## The engine -/

/-- What an engine that was free makes of a verdict. -/
def Verdict.decision : Verdict → Decision
  | .granted => .granted
  | .denied reason => .denied reason
  | .requiresManager => .waiting

def Verdict.phase : Verdict → Phase
  | .requiresManager => .processingDelegation
  | _ => .awaitingRequest

/-- What a verdict on a path leaves in the log, beside itself. -/
def Verdict.notes (path : String) : Verdict → List AuditEntry
  | .requiresManager => [.deferred path]
  | _ => []

/-- What keeps the access manager from taking a question, if anything does. -/
def Answers.managerFault (answers : Answers) (hasManager : Bool) (query : AccessQuery) :
    Option DecisionFault :=
  if hasManager then
    match answers.manager query with
    | .ok () => none
    | .error fault => some (.queryFailed fault)
  else some .noAccessManager

/-- The access manager is asked whenever there is one. -/
def managerContacts (hasManager : Bool) (query : AccessQuery) : List Contact :=
  if hasManager then [.delegate query] else []

@[simp] theorem views_managerContacts (hasManager : Bool) (query : AccessQuery) :
    (managerContacts hasManager query).filterMap Contact.resolved? = [] ∧
      (managerContacts hasManager query).filterMap Contact.delegated? =
        (if hasManager then [query] else []) ∧
      (managerContacts hasManager query).filterMap Contact.sent? = [] ∧
      (managerContacts hasManager query).filterMap Contact.handed? = [] ∧
      (managerContacts hasManager query).filterMap Contact.lookedUp? = [] ∧
      (managerContacts hasManager query).filterMap Contact.offered? = [] := by
  cases hasManager <;> simp [managerContacts]

theorem managerFault_eq_none_iff {answers : Answers} {hasManager : Bool} {query : AccessQuery} :
    answers.managerFault hasManager query = none ↔
      hasManager = true ∧ answers.manager query = .ok () := by
  unfold Answers.managerFault
  cases hasManager with
  | false => simp
  | true => cases answers.manager query <;> simp

theorem fault_of_managerFault {answers : Answers} {hasManager : Bool} {query : AccessQuery}
    {fault : DecisionFault} (h : answers.managerFault hasManager query = some fault) :
    fault = .noAccessManager ∨ ∃ reported, fault = .queryFailed reported := by
  unfold Answers.managerFault at h
  split at h
  · split at h
    · cases h
    · rename_i reported _
      exact .inr ⟨reported, (Option.some.inj h).symm⟩
  · exact .inl (Option.some.inj h).symm

theorem exists_managerFault_iff {answers : Answers} {hasManager : Bool} {query : AccessQuery} :
    (∃ fault, answers.managerFault hasManager query = some fault) ↔
      hasManager = false ∨ ∃ reported, answers.manager query = .error reported := by
  unfold Answers.managerFault
  cases hasManager with
  | false => simp
  | true => cases answers.manager query <;> simp

theorem isOk_manager_of_fault {answers : Answers} {query : AccessQuery} {fault : DecisionFault}
    (h : answers.managerFault true query = some fault) : (answers.manager query).isOk = false := by
  unfold Answers.managerFault at h
  cases hm : answers.manager query with
  | ok => simp [hm] at h
  | error => rfl

namespace Engine

def cleared (e : Engine) : Engine := { e with context := e.context.cleared }

def holding (e : Engine) (d : Delegation) : Engine :=
  { e with context := { e.context with pending := some d } }

theorem check_of_idle {e : Engine} {answers : Answers} {subject : SubjectId} {path : String}
    {permission : Permission} {query : AccessQuery}
    (hp : e.context.phase = .awaitingRequest)
    (hl : Config.exceeds e.maxUriLength path = false)
    (hq : query = { subject, path, permission, resource := VirtualResource.classify path }) :
    e.check answers subject path permission =
      { result := (answers.verdict query).decision,
        next := e.asked query (answers.verdict query).phase,
        contacts := [.resolve query],
        entries := .resolved query (answers.verdict query) ::
          (answers.verdict query).notes path } := by
  simp only [check, hp, hl, ne_eq, not_true_eq_false, Bool.false_eq_true, if_false, ← hq]
  cases answers.verdict query <;> rfl

theorem delegate_of_deferred {e : Engine} {answers : Answers} {peer : Endpoint}
    {request : Request} (hp : e.context.phase = .processingDelegation)
    (hn : e.context.pending = none) :
    e.delegate answers peer request = match answers.managerFault e.hasManager request.query with
      | none =>
        { result := .ok (), next := e.holding ⟨peer, request⟩,
          contacts := managerContacts e.hasManager request.query,
          entries := [.parked request.query peer.id] }
      | some fault => (e.fail fault).after (managerContacts e.hasManager request.query) [] := by
  obtain ⟨limit, hasManager, phase, resource, subject, permission, pending⟩ := e
  subst hp hn
  cases hasManager with
  | false => rfl
  | true =>
    unfold delegate Answers.managerFault
    cases answers.manager request.query with
    | error fault => rfl
    | ok u => rfl

end Engine

/-! ## Requests -/

namespace Guard

variable {g : Guard} {answers : Answers} {peer : Endpoint} {request : Request}

/-- The books of a guard agree. -/
def Consistent (g : Guard) : Prop := g.context.Consistent

/-- The code with which a check before the engine turns a request away. -/
def Screening.refusal (policy : BusyPolicy) : Screening → Option ResponseCode
  | .overlong => some .internalServerError
  | .exposed => some .forbidden
  | .unhandled => some .internalServerError
  | .busy => some policy.code
  | .clear _ => none

/-- What each finding says about the request and the guard. -/
def Finds (g : Guard) (answers : Answers) (request : Request) : Screening → Prop
  | .overlong => Config.exceeds g.config.maxUriLength request.path = true
  | .exposed =>
    Config.exceeds g.config.maxUriLength request.path = false ∧ isExposed answers request = true
  | .unhandled =>
    Config.exceeds g.config.maxUriLength request.path = false ∧
      isExposed answers request = false ∧ g.handlers = none
  | .busy =>
    Config.exceeds g.config.maxUriLength request.path = false ∧
      isExposed answers request = false ∧ g.handlers.isSome = true ∧
      g.context.phase = .processingDelegation
  | .clear handlers =>
    Config.exceeds g.config.maxUriLength request.path = false ∧
      isExposed answers request = false ∧ g.handlers = some handlers ∧
      g.context.phase = .awaitingRequest

theorem screen_eq_iff {screening : Screening} :
    g.screen answers request = screening ↔ g.Finds answers request screening := by
  unfold screen
  cases hlength : Config.exceeds g.config.maxUriLength request.path with
  | true => cases screening <;> simp [Finds, hlength]
  | false =>
    cases hexposed : isExposed answers request with
    | true => cases screening <;> simp [Finds, hlength, hexposed]
    | false =>
      cases hhandlers : g.handlers with
      | none => cases screening <;> simp [Finds, hlength, hexposed, hhandlers]
      | some handlers =>
        cases hphase : g.context.phase <;> cases screening <;>
          simp [Finds, hlength, hexposed, hhandlers, hphase]

theorem screen_eq_clear_iff {handlers : Handlers} :
    g.screen answers request = .clear handlers ↔
      Config.exceeds g.config.maxUriLength request.path = false ∧
        isExposed answers request = false ∧ g.handlers = some handlers ∧
        g.context.phase = .awaitingRequest :=
  screen_eq_iff

theorem screen_eq_busy_iff :
    g.screen answers request = .busy ↔
      Config.exceeds g.config.maxUriLength request.path = false ∧
        isExposed answers request = false ∧ g.handlers.isSome = true ∧
        g.context.phase = .processingDelegation :=
  screen_eq_iff

theorem pending_of_clear (hc : g.Consistent) {request : Request} {handlers : Handlers}
    (hs : g.screen answers request = .clear handlers) : g.context.pending = none :=
  hc.phase_eq_awaiting_iff.mp (screen_eq_clear_iff.mp hs).2.2.2

/-- Every way in which a request leaves the guard. -/
inductive RequestExit (g : Guard) (answers : Answers) (peer : Endpoint) (request : Request) :
    Reaction Guard Outcome → Prop where
  /-- a check before the engine turned it away -/
  | screened {code : ResponseCode}
      (hs : (g.screen answers request).refusal g.config.busyPolicy = some code) :
      RequestExit g answers peer request
        ((refuse g answers peer request code .piggybacked).after (g.screeningContacts request)
          (g.screeningEntries request (g.screen answers request)))
  /-- the list granted it, and the application has it -/
  | granted {handlers : Handlers} (hs : g.screen answers request = .clear handlers)
      (hv : answers.verdict request.query = .granted) :
      RequestExit g answers peer request
        ((deliver { g with context := .settled request.query } handlers.request peer request).after
          (g.screeningContacts request ++ [.resolve request.query])
          (g.screeningEntries request (.clear handlers) ++
            [.resolved request.query .granted, .granted]))
  /-- the list denied it -/
  | denied {handlers : Handlers} {reason : DenyReason}
      (hs : g.screen answers request = .clear handlers)
      (hv : answers.verdict request.query = .denied reason) :
      RequestExit g answers peer request
        ((refuse { g with context := .settled request.query } answers peer request .unauthorized
            .piggybacked).after
          (g.screeningContacts request ++ [.resolve request.query])
          (g.screeningEntries request (.clear handlers) ++
            [.resolved request.query (.denied reason), .denied reason]))
  /-- the access manager has the question, and the request is parked -/
  | parked {handlers : Handlers} (hs : g.screen answers request = .clear handlers)
      (hv : answers.verdict request.query = .requiresManager)
      (hm : answers.managerFault g.hasManager request.query = none) :
      RequestExit g answers peer request
        ((acknowledge { g with context := .parking request.query ⟨peer, request⟩ } answers peer
            request).after
          (g.screeningContacts request ++
            .resolve request.query :: managerContacts g.hasManager request.query)
          (g.screeningEntries request (.clear handlers) ++
            [.resolved request.query .requiresManager, .deferred request.path,
              .parked request.query peer.id, .slowReply]))
  /-- the access manager could not be asked -/
  | unparked {handlers : Handlers} {fault : DecisionFault}
      (hs : g.screen answers request = .clear handlers)
      (hv : answers.verdict request.query = .requiresManager)
      (hm : answers.managerFault g.hasManager request.query = some fault) :
      RequestExit g answers peer request
        ((refuse { g with context := .settled request.query } answers peer request
            .internalServerError .piggybacked).after
          (g.screeningContacts request ++
            .resolve request.query :: managerContacts g.hasManager request.query)
          (g.screeningEntries request (.clear handlers) ++
            [.resolved request.query .requiresManager, .deferred request.path,
              .delegationFailed (.internalServerError fault)]))

@[simp] theorem within_refuse {σ τ : Type} (put : σ → τ) (state : σ) (code : ResponseCode)
    (delivery : Delivery) :
    (refuse state answers peer request code delivery).within put =
      refuse (put state) answers peer request code delivery := rfl

@[simp] theorem within_deliver {σ τ : Type} (put : σ → τ) (state : σ) (app : AppName) :
    (deliver state app peer request).within put = deliver (put state) app peer request := rfl

@[simp] theorem within_acknowledge {σ τ : Type} (put : σ → τ) (state : σ) :
    (acknowledge state answers peer request).within put =
      acknowledge (put state) answers peer request := rfl

theorem withEngine_cleared_asked (g : Guard) (query : AccessQuery) (phase : Phase) :
    g.withEngine (g.engine.asked query phase).cleared = { g with context := .settled query } := rfl

theorem withEngine_holding_asked (g : Guard) (query : AccessQuery) (d : Delegation) :
    g.withEngine ((g.engine.asked query .processingDelegation).holding d) =
      { g with context := .parking query d } := rfl

theorem check_of_clear {handlers : Handlers} (hs : g.screen answers request = .clear handlers) :
    g.engine.check answers request.identity request.path request.method.requiredPermission =
      { result := (answers.verdict request.query).decision,
        next := g.engine.asked request.query (answers.verdict request.query).phase,
        contacts := [.resolve request.query],
        entries := .resolved request.query (answers.verdict request.query) ::
          (answers.verdict request.query).notes request.path } := by
  obtain ⟨hl, -, -, hp⟩ := screen_eq_clear_iff.mp hs
  exact Engine.check_of_idle hp hl rfl

theorem settle_of_idle {e : Engine} {outcome : Outcome} (ho : outcome ≠ .acknowledged)
    (hn : e.context.pending = none) :
    settle e outcome = { result := outcome, next := e.cleared } := by
  unfold settle Engine.reset Engine.cleared Context.cleared
  rw [if_neg ho, hn]
  rfl

theorem refuse_settle {e : Engine} {code : ResponseCode} {delivery : Delivery}
    (hn : e.context.pending = none) :
    (refuse e answers peer request code delivery).andThen settle =
      refuse e.cleared answers peer request code delivery := by
  have h : settle e (.rejected code) = _ := settle_of_idle (by simp) hn
  simp [Reaction.andThen, refuse, transmit, h]

theorem deliver_settle {e : Engine} {app : AppName} (hn : e.context.pending = none) :
    (deliver e app peer request).andThen settle =
      deliver e.cleared app peer request := by
  have h : settle e .passedThrough = _ := settle_of_idle (by simp) hn
  simp [Reaction.andThen, deliver, h]

theorem onRequest_of_screened {code : ResponseCode}
    (hs : (g.screen answers request).refusal g.config.busyPolicy = some code) :
    g.onRequest answers peer request =
      (refuse g answers peer request code .piggybacked).after (g.screeningContacts request)
        (g.screeningEntries request (g.screen answers request)) := by
  unfold onRequest
  cases h : g.screen answers request <;> rw [h] at hs <;> cases hs <;> rfl

theorem onRequest_of_clear {handlers : Handlers}
    (hs : g.screen answers request = .clear handlers) :
    g.onRequest answers peer request =
      (((actOn answers handlers peer request
          (g.engine.asked request.query (answers.verdict request.query).phase)
          (answers.verdict request.query).decision).andThen settle).within g.withEngine).after
        (g.screeningContacts request ++ [.resolve request.query])
        (g.screeningEntries request (.clear handlers) ++
          .resolved request.query (answers.verdict request.query) ::
            (answers.verdict request.query).notes request.path) := by
  simp [onRequest, hs, evaluate, check_of_clear hs, Reaction.andThen, Reaction.after,
    Reaction.within]

theorem actOn_granted_settle {e : Engine} {handlers : Handlers}
    (hn : e.context.pending = none) :
    (actOn answers handlers peer request e .granted).andThen settle =
      (deliver e.cleared handlers.request peer request).after []
        [.granted] := by
  rw [actOn, Reaction.after_andThen, deliver_settle hn]

theorem actOn_denied_settle {e : Engine} {handlers : Handlers} {reason : DenyReason}
    (hn : e.context.pending = none) :
    (actOn answers handlers peer request e (.denied reason)).andThen settle =
      (refuse e.cleared answers peer request .unauthorized
        .piggybacked).after [] [.denied reason] := by
  rw [actOn, Reaction.after_andThen, refuse_settle hn]

/-- The two ends of a request that the list leaves to the access manager. -/
theorem actOn_waiting_settle {e : Engine} {handlers : Handlers}
    (hp : e.context.phase = .processingDelegation) (hn : e.context.pending = none) :
    (actOn answers handlers peer request e .waiting).andThen settle =
      match answers.managerFault e.hasManager request.query with
      | none =>
        (acknowledge (e.holding ⟨peer, request⟩) answers peer request).after
          (managerContacts e.hasManager request.query)
          [.parked request.query peer.id, .slowReply]
      | some fault =>
        (refuse e.cleared answers peer request
          .internalServerError .piggybacked).after (managerContacts e.hasManager request.query)
          [.delegationFailed (.internalServerError fault)] := by
  rw [actOn, Engine.delegate_of_deferred hp hn]
  cases answers.managerFault e.hasManager request.query with
  | none =>
    simp [Reaction.andThen, Reaction.after, acknowledge, transmit, settle]
  | some fault =>
    have h : settle e (.rejected .internalServerError) = _ := settle_of_idle (by simp) hn
    simp [Reaction.andThen, Reaction.after, Engine.fail, refuse, transmit, AccessError.code, h]

/-- Which way a request leaves settles the whole reaction. -/
theorem RequestExit.eq_onRequest {r : Reaction Guard Outcome}
    (h : RequestExit g answers peer request r) (hc : g.Consistent) :
    r = g.onRequest answers peer request := by
  cases h with
  | screened hs => exact (onRequest_of_screened hs).symm
  | granted hs hv =>
    rw [onRequest_of_clear hs, hv, Verdict.decision,
      actOn_granted_settle (pending_of_clear hc hs), Reaction.within_after, Reaction.after_after,
      within_deliver, withEngine_cleared_asked]
    simp [Verdict.notes]
  | denied hs hv =>
    rw [onRequest_of_clear hs, hv, Verdict.decision, actOn_denied_settle (pending_of_clear hc hs),
      Reaction.within_after, Reaction.after_after, within_refuse, withEngine_cleared_asked]
    simp [Verdict.notes]
  | parked hs hv hm =>
    have hh : (g.engine.asked request.query .processingDelegation).hasManager = g.hasManager := rfl
    rw [onRequest_of_clear hs, hv, Verdict.decision, Verdict.phase,
      actOn_waiting_settle rfl (pending_of_clear hc hs), hh, hm, Reaction.within_after,
      Reaction.after_after, within_acknowledge, withEngine_holding_asked]
    simp [Verdict.notes]
  | unparked hs hv hm =>
    have hh : (g.engine.asked request.query .processingDelegation).hasManager = g.hasManager := rfl
    rw [onRequest_of_clear hs, hv, Verdict.decision, Verdict.phase,
      actOn_waiting_settle rfl (pending_of_clear hc hs), hh, hm, Reaction.within_after,
      Reaction.after_after, within_refuse, withEngine_cleared_asked]
    simp [Verdict.notes]

theorem exists_requestExit (g : Guard) (answers : Answers) (peer : Endpoint) (request : Request) :
    ∃ r, RequestExit g answers peer request r := by
  cases hr : (g.screen answers request).refusal g.config.busyPolicy with
  | some code => exact ⟨_, .screened hr⟩
  | none =>
    obtain ⟨handlers, hs⟩ : ∃ handlers, g.screen answers request = .clear handlers := by
      cases h : g.screen answers request <;> rw [h] at hr <;> cases hr
      exact ⟨_, rfl⟩
    cases hv : answers.verdict request.query with
    | granted => exact ⟨_, .granted hs hv⟩
    | denied reason => exact ⟨_, .denied hs hv⟩
    | requiresManager =>
      cases hm : answers.managerFault g.hasManager request.query with
      | none => exact ⟨_, .parked hs hv hm⟩
      | some fault => exact ⟨_, .unparked hs hv hm⟩

/-- The list above is complete. -/
theorem onRequest_exit (hc : g.Consistent) (answers : Answers) (peer : Endpoint)
    (request : Request) :
    RequestExit g answers peer request (g.onRequest answers peer request) := by
  obtain ⟨r, h⟩ := exists_requestExit g answers peer request
  rw [← h.eq_onRequest hc]
  exact h

/-! ## Decisions of the access manager -/

/-- Every way in which a decision of the access manager ends. -/
inductive DecisionExit (g : Guard) (answers : Answers) (decision : ManagerDecision) :
    Reaction Guard (Except AccessError Outcome) → Prop where
  /-- nothing is parked -/
  | unexpected (hn : g.context.pending = none) :
      DecisionExit g answers decision
        { result := .error (.internalServerError .nothingPending), next := g,
          entries := [.unexpectedDecision (.internalServerError .nothingPending) decision] }
  /-- the application has the parked request -/
  | replayed {d : Delegation} {handlers : Handlers} (hn : g.context.pending = some d)
      (hd : decision = .granted) (hh : g.handlers = some handlers) :
      DecisionExit g answers decision
        (((deliver { g with context := g.context.cleared } handlers.request d.peer d.request).map
          .ok).after [] [.decided decision d.request.uri, .replayed d.request.uri])
  /-- it was granted, with no application left to have it -/
  | unhandled {d : Delegation} (hn : g.context.pending = some d) (hd : decision = .granted)
      (hh : g.handlers = none) :
      DecisionExit g answers decision
        (((refuse { g with context := g.context.cleared } answers d.peer d.request .unauthorized
          .separate).map .ok).after [] [.decided decision d.request.uri, .noReplayHandler])
  /-- it was denied -/
  | rejected {d : Delegation} (hn : g.context.pending = some d) (hd : decision = .denied) :
      DecisionExit g answers decision
        (((refuse { g with context := g.context.cleared } answers d.peer d.request .unauthorized
          .separate).map .ok).after []
          [.decided decision d.request.uri, .deniedByManager d.request.uri])

theorem onDecision_of_idle (hn : g.context.pending = none) (decision : ManagerDecision) :
    g.onDecision answers decision =
      { result := .error (.internalServerError .nothingPending), next := g,
        entries := [.unexpectedDecision (.internalServerError .nothingPending) decision] } := by
  simp only [onDecision, Engine.resume, engine, hn]
  rfl

@[simp] theorem next_carryOut (handlers : Option Handlers) (answers : Answers) (e : Engine)
    (resumption : Resumption) : (carryOut handlers answers e resumption).next = e := by
  cases resumption with
  | reject d => rfl
  | replay d => cases handlers <;> rfl

/-- The engine that a decision leaves has nothing more to drop. -/
theorem carryOut_reset {α : Type} {e : Engine} (handlers : Option Handlers) (answers : Answers)
    (resumption : Resumption) (f : Outcome → α) :
    ((carryOut handlers answers e.cleared resumption).andThen fun e outcome =>
      e.reset.map fun _ => f outcome) =
      (carryOut handlers answers e.cleared resumption).map f := by
  have h : e.cleared.reset = { result := (), next := e.cleared } := rfl
  simp [Reaction.andThen, Reaction.map, h]

theorem onDecision_of_parked {d : Delegation} (hn : g.context.pending = some d)
    (decision : ManagerDecision) :
    g.onDecision answers decision =
      (((carryOut g.handlers answers g.engine.cleared (match decision with
          | .granted => .replay d
          | .denied => .reject d)).map .ok).within g.withEngine).after []
        [.decided decision d.request.uri] := by
  rw [← carryOut_reset]
  simp only [onDecision, Engine.resume, engine, hn]
  rfl

theorem onDecision_exit (g : Guard) (answers : Answers) (decision : ManagerDecision) :
    DecisionExit g answers decision (g.onDecision answers decision) := by
  cases hn : g.context.pending with
  | none =>
    rw [onDecision_of_idle hn]
    exact .unexpected hn
  | some d =>
    rw [onDecision_of_parked hn]
    cases hd : decision with
    | denied => exact .rejected hn rfl
    | granted =>
      cases hh : g.handlers with
      | none => exact .unhandled hn rfl hh
      | some handlers => exact .replayed hn rfl hh

/-- Which way a decision ends settles the whole reaction. -/
theorem DecisionExit.eq_onDecision {decision : ManagerDecision}
    {r : Reaction Guard (Except AccessError Outcome)} (h : DecisionExit g answers decision r) :
    r = g.onDecision answers decision := by
  cases h with
  | unexpected hn => exact (onDecision_of_idle hn decision).symm
  | replayed hn hd hh | unhandled hn hd hh =>
    rw [onDecision_of_parked hn, hd]
    obtain ⟨_, _, _, handlers, _, _⟩ := g
    cases hh
    rfl
  | rejected hn hd =>
    rw [onDecision_of_parked hn, hd]
    rfl

theorem pending_onDecision (g : Guard) (answers : Answers) (decision : ManagerDecision) :
    (g.onDecision answers decision).next.context.pending = none := by
  have hexit := onDecision_exit g answers decision
  generalize g.onDecision answers decision = r at hexit
  cases hexit with
  | unexpected hn => exact hn
  | replayed | unhandled | rejected => rfl

/-- A decision is accepted exactly while something is parked. -/
theorem onDecision_ok_iff (g : Guard) (answers : Answers) (decision : ManagerDecision) :
    (∃ outcome, (g.onDecision answers decision).result = .ok outcome) ↔
      g.context.pending.isSome = true := by
  have hexit := onDecision_exit g answers decision
  generalize g.onDecision answers decision = r at hexit
  cases hexit with
  | unexpected hn => simp [hn]
  | replayed hn | unhandled hn | rejected hn => simp [hn]

theorem onDecision_of_error {error : AccessError} {decision : ManagerDecision}
    (h : (g.onDecision answers decision).result = .error error) :
    error = .internalServerError .nothingPending ∧ (g.onDecision answers decision).next = g ∧
      (g.onDecision answers decision).contacts = [] := by
  have hexit := onDecision_exit g answers decision
  generalize g.onDecision answers decision = r at h hexit
  cases hexit with
  | unexpected hn => exact ⟨(Except.error.inj h).symm, rfl, rfl⟩
  | replayed | unhandled | rejected => cases h

end Guard

end ResourceGuard
