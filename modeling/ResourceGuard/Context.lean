import ResourceGuard.Access

/-! # The one open decision

At any time at most one request is parked, waiting for the access manager. The
context holds it, together with what the last question to the access control
list was about. -/
namespace ResourceGuard

/-- Whether a decision is open. -/
inductive Phase where
  /-- none is: a request can be evaluated -/
  | awaitingRequest
  /-- the list has left one to the access manager -/
  | processingDelegation
  deriving DecidableEq, Inhabited

instance : Vocabulary Phase where
  all := [.awaitingRequest, .processingDelegation]
  name
    | .awaitingRequest => "AwaitingRequest"
    | .processingDelegation => "ProcessingDelegation"
  mem_all a := by cases a <;> decide
  name_injective a b := by cases a <;> cases b <;> decide

/-- A parked request and where it came from. -/
structure Delegation where
  peer : Endpoint
  request : Request
  deriving DecidableEq

/-- What the access manager is asked about a request: the same as the list was,
taken from the request that is parked. -/
def Request.query (r : Request) : AccessQuery where
  subject := r.identity
  path := r.path
  permission := r.method.requiredPermission
  resource := VirtualResource.classify r.path

/-- The open decision, and the subject, permission and kind of resource that
were last asked about. -/
structure Context where
  phase : Phase := .awaitingRequest
  resource : Option VirtualResource := none
  subject : SubjectId := SubjectId.anonymous
  permission : Permission := Permission.none
  pending : Option Delegation := none
  deriving DecidableEq

end ResourceGuard
