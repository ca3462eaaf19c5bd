import ResourceGuard.Engine.Call
import ResourceGuard.Proofs.Exits

/-! # The engine by itself

An engine does not rely on being used as the guard uses it. `EngineExit` lists every way in
which an operation can end, sensible or not, each with what was found and the whole
reaction; an operation that fails leaves the engine as it was. A moment of the engine is a
turn together with the engine that it found. -/
namespace ResourceGuard

/-- What is to be done with the parked request, by this decision. -/
def ManagerDecision.resumption : ManagerDecision → Delegation → Resumption
  | .granted, d => .replay d
  | .denied, d => .reject d

namespace Engine

variable {e : Engine} {answers : Answers}

/-! ## One operation -/

/-- Every way in which an operation ends. -/
inductive EngineExit (e : Engine) (answers : Answers) :
    EngineCall → Reaction Engine EngineReturn → Prop where
  /-- a check while a decision is open -/
  | busy {subject : SubjectId} {path : String} {permission : Permission}
      (hp : e.context.phase = .processingDelegation) :
      EngineExit e answers (.check subject path permission)
        { result := .decision .error, next := e,
          entries := [.checkedWhileBusy .processingDelegation path] }
  /-- a check of a path that is too long -/
  | overlong {subject : SubjectId} {path : String} {permission : Permission}
      (hp : e.context.phase = .awaitingRequest)
      (hl : Config.exceeds e.maxUriLength path = true) :
      EngineExit e answers (.check subject path permission)
        { result := .decision .error, next := e,
          entries := [.overlongPath path.utf8ByteSize e.maxUriLength] }
  /-- a check that comes to a question to the list -/
  | asked {query : AccessQuery} (hp : e.context.phase = .awaitingRequest)
      (hl : Config.exceeds e.maxUriLength query.path = false)
      (hq : query.resource = VirtualResource.classify query.path) :
      EngineExit e answers (.check query.subject query.path query.permission)
        { result := .decision (answers.verdict query).decision,
          next := e.asked query (answers.verdict query).phase,
          contacts := [.resolve query],
          entries := .resolved query (answers.verdict query) ::
            (answers.verdict query).notes query.path }
  /-- nothing was left to the access manager -/
  | undeferred {peer : Endpoint} {request : Request}
      (hp : e.context.phase = .awaitingRequest) :
      EngineExit e answers (.delegate peer request)
        { result := .error (.internalServerError .nothingDeferred), next := e }
  /-- another request is parked -/
  | occupied {peer : Endpoint} {request : Request}
      (hp : e.context.phase = .processingDelegation)
      (hn : e.context.pending.isSome = true) :
      EngineExit e answers (.delegate peer request)
        { result := .error (.internalServerError .alreadyPending), next := e }
  /-- the access manager could not be asked -/
  | unqueried {peer : Endpoint} {request : Request} {fault : DecisionFault}
      (hp : e.context.phase = .processingDelegation) (hn : e.context.pending = none)
      (hm : answers.managerFault e.hasManager request.query = some fault) :
      EngineExit e answers (.delegate peer request)
        { result := .error (.internalServerError fault), next := e,
          contacts := managerContacts e.hasManager request.query }
  /-- the access manager has the question, and the request is parked -/
  | delegated {peer : Endpoint} {request : Request}
      (hp : e.context.phase = .processingDelegation) (hn : e.context.pending = none)
      (hm : answers.managerFault e.hasManager request.query = none) :
      EngineExit e answers (.delegate peer request)
        { result := .delegated, next := e.holding ⟨peer, request⟩,
          contacts := managerContacts e.hasManager request.query,
          entries := [.parked request.query peer.id] }
  /-- nothing is parked -/
  | unresumed {decision : ManagerDecision} (hn : e.context.pending = none) :
      EngineExit e answers (.resume decision)
        { result := .error (.internalServerError .nothingPending), next := e }
  /-- the parked request is taken up -/
  | resumed {decision : ManagerDecision} {d : Delegation}
      (hn : e.context.pending = some d) :
      EngineExit e answers (.resume decision)
        { result := .resumed (decision.resumption d), next := e.cleared,
          entries := [.decided decision d.request.uri] }
  /-- whatever was open is dropped -/
  | reset :
      EngineExit e answers .reset
        { result := .done, next := e.cleared,
          entries := e.context.pending.toList.map fun d => .abandoned d.peer.id d.request.uri }

theorem check_exit (e : Engine) (answers : Answers) (subject : SubjectId) (path : String)
    (permission : Permission) :
    EngineExit e answers (.check subject path permission)
      (e.step answers (.check subject path permission)) := by
  rw [step]
  cases hp : e.context.phase with
  | processingDelegation =>
    rw [check, if_pos (by simp [hp]), hp]
    exact .busy hp
  | awaitingRequest =>
    cases hl : Config.exceeds e.maxUriLength path with
    | true =>
      rw [check, if_neg (by simp [hp]), if_pos hl]
      exact .overlong hp hl
    | false =>
      rw [check_of_idle hp hl rfl]
      let query : AccessQuery := ⟨subject, path, permission, VirtualResource.classify path⟩
      exact @EngineExit.asked e answers query hp hl rfl

theorem delegate_exit (e : Engine) (answers : Answers) (peer : Endpoint) (request : Request) :
    EngineExit e answers (.delegate peer request)
      (e.step answers (.delegate peer request)) := by
  rw [step]
  cases hp : e.context.phase with
  | awaitingRequest =>
    rw [delegate, if_pos (by simp [hp])]
    exact .undeferred hp
  | processingDelegation =>
    cases hn : e.context.pending with
    | some d =>
      rw [delegate, if_neg (by simp [hp]), if_pos (by simp [hn])]
      exact .occupied hp (by simp [hn])
    | none =>
      rw [delegate_of_deferred hp hn]
      cases hm : answers.managerFault e.hasManager request.query with
      | none => exact .delegated hp hn hm
      | some fault =>
        have hexit : EngineExit e answers (.delegate peer request) _ := .unqueried hp hn hm
        simpa [Reaction.after, Reaction.map, fail] using hexit

/-- The list above is complete. -/
theorem step_exit (e : Engine) (answers : Answers) (call : EngineCall) :
    EngineExit e answers call (e.step answers call) := by
  cases call with
  | check subject path permission => exact check_exit e answers subject path permission
  | delegate peer request => exact delegate_exit e answers peer request
  | resume decision =>
    rw [step, Engine.resume]
    cases hn : e.context.pending with
    | none => exact .unresumed hn
    | some d =>
      cases decision with
      | granted => exact .resumed hn
      | denied => exact .resumed hn
  | reset =>
    have hexit : EngineExit e answers .reset _ := .reset
    rw [step, Engine.reset]
    cases hn : e.context.pending with
    | none | some =>
      rw [hn] at hexit
      exact hexit

/-! ## Runs, moment by moment -/

/-- A turn of a run, and the engine that it found. -/
structure Moment where
  engine : Engine
  turn : Turn

/-- What the turn brings about. -/
def Moment.reaction (m : Moment) : Reaction Engine EngineReturn :=
  m.engine.step m.turn.answers m.turn.call

/-- The moments of a run, in order. -/
def moments (e : Engine) : List Turn → List Moment
  | [] => []
  | turn :: turns => ⟨e, turn⟩ :: (e.step turn.answers turn.call).next.moments turns

/-- A new engine: idle, with nothing parked. -/
def fresh (maxUriLength : UInt64) (hasManager : Bool) : Engine := { maxUriLength, hasManager }

theorem afterTurns_cons (e : Engine) (turn : Turn) (turns : List Turn) :
    e.afterTurns (turn :: turns) = (e.step turn.answers turn.call).next.afterTurns turns := rfl

end Engine

end ResourceGuard
