import ResourceGuard.Reaction

/-! # The policy engine

The engine decides one request at a time. A check asks the access control list
and grants, denies, or leaves the decision to the access manager; in the last
case the engine is not free again until the request has been parked with
`delegate` and taken up with `resume`, or dropped with `reset`. An operation
that fails leaves the context as it was. -/
namespace ResourceGuard

/-- What a check finds. -/
inductive Decision where
  | granted
  | denied (reason : DenyReason)
  /-- the access manager has to decide -/
  | waiting
  /-- nothing could be asked -/
  | error
  deriving DecidableEq

def Decision.isGranted (d : Decision) : Bool := d == .granted

/-- What to do with a request that the access manager has decided on. -/
inductive Resumption where
  | replay (delegation : Delegation)
  | reject (delegation : Delegation)
  deriving DecidableEq

/-- The decision core: its limits and its context. -/
structure Engine where
  /-- The longest path that is looked at, in bytes. -/
  maxUriLength : UInt64
  hasManager : Bool
  context : Context := {}
  deriving DecidableEq

namespace Engine

/-- The context that a question to the access control list leaves. -/
def asked (e : Engine) (query : AccessQuery) (phase : Phase) : Engine :=
  { e with context :=
      { e.context with
        phase := phase
        resource := query.resource
        subject := query.subject
        permission := query.permission } }

/-- Decide whether the subject has the permission on the path, unless a decision
is open or the path is too long. -/
def check (e : Engine) (answers : Answers) (subject : SubjectId) (path : String)
    (permission : Permission) : Reaction Engine Decision :=
  if e.context.phase ≠ .awaitingRequest then
    { result := .error, next := e, entries := [.checkedWhileBusy e.context.phase path] }
  else if Config.exceeds e.maxUriLength path then
    { result := .error, next := e,
      entries := [.overlongPath path.utf8ByteSize e.maxUriLength] }
  else
    let query : AccessQuery :=
      { subject, path, permission, resource := VirtualResource.classify path }
    match answers.verdict query with
    | .granted =>
      { result := .granted, next := e.asked query .awaitingRequest,
        contacts := [.resolve query], entries := [.resolved query .granted] }
    | .denied reason =>
      { result := .denied reason, next := e.asked query .awaitingRequest,
        contacts := [.resolve query], entries := [.resolved query (.denied reason)] }
    | .requiresManager =>
      { result := .waiting, next := e.asked query .processingDelegation,
        contacts := [.resolve query],
        entries := [.resolved query .requiresManager, .deferred path] }

def fail {α : Type} (e : Engine) (fault : DecisionFault) :
    Reaction Engine (Except AccessError α) :=
  { result := .error (.internalServerError fault), next := e }

/-- Ask the access manager about a request and park it. -/
def delegate (e : Engine) (answers : Answers) (peer : Endpoint) (request : Request) :
    Reaction Engine (Except AccessError Unit) :=
  if e.context.phase ≠ .processingDelegation then e.fail .nothingDeferred
  else if e.context.pending.isSome then e.fail .alreadyPending
  else if !e.hasManager then e.fail .noAccessManager
  else
    match answers.manager request.query with
    | .error fault => (e.fail (.queryFailed fault)).after [.delegate request.query] []
    | .ok () =>
      { result := .ok (),
        next := { e with context := { e.context with pending := some ⟨peer, request⟩ } },
        contacts := [.delegate request.query],
        entries := [.parked request.query peer.id] }

/-- Take up the parked request again, now that the access manager has decided. -/
def resume (e : Engine) (decision : ManagerDecision) :
    Reaction Engine (Except AccessError Resumption) :=
  match e.context.pending with
  | none => e.fail .nothingPending
  | some delegation =>
    { result := .ok (match decision with
        | .granted => .replay delegation
        | .denied => .reject delegation),
      next := { e with context :=
        { e.context with phase := .awaitingRequest, pending := none } },
      entries := [.decided decision delegation.request.uri] }

/-- Be free for the next request, whatever was open. -/
def reset (e : Engine) : Reaction Engine Unit :=
  { result := (),
    next := { e with context := { e.context with phase := .awaitingRequest, pending := none } },
    entries := match e.context.pending with
      | none => []
      | some delegation => [.abandoned delegation.peer.id delegation.request.uri] }

def shown [Uuid.Library] (e : Engine) : String :=
  Inspect.openRecord "PolicyEngine"
    [("context", e.context.shown), ("max_uri_length", toString e.maxUriLength.toNat)]

end Engine

end ResourceGuard
