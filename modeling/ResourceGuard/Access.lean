import ResourceGuard.Fault

/-! # Questions and answers about access

The guard owns none of the data it decides on. It asks: a directory for the
properties of a resource, an access control list for a verdict, an access
manager for a decision that comes later, a transport to carry a response, a
matcher whether a response is its own. `Answers` is what all of them say within
one call; `Contact` is one use made of any of them, or of the application. -/
namespace ResourceGuard

/-- What an access decision is about. -/
structure AccessQuery where
  subject : SubjectId
  /-- The path asked for; a guard has taken the query off. -/
  path : String
  permission : Permission
  resource : Option VirtualResource
  deriving DecidableEq

/-- Why an access control list denies. -/
inductive DenyReason where
  /-- no list covers the resource -/
  | noAclFound
  /-- no entry names the subject -/
  | subjectNotFound
  /-- an entry matches but does not give the permission -/
  | insufficientPermission
  /-- the matching entry does not cover the resource -/
  | resourceNotFound
  /-- an access manager is needed and cannot be reached -/
  | amsUnavailable
  deriving DecidableEq

instance : Vocabulary DenyReason where
  all := [.noAclFound, .subjectNotFound, .insufficientPermission, .resourceNotFound,
    .amsUnavailable]
  name
    | .noAclFound => "NoAclFound"
    | .subjectNotFound => "SubjectNotFound"
    | .insufficientPermission => "InsufficientPermission"
    | .resourceNotFound => "ResourceNotFound"
    | .amsUnavailable => "AmsUnavailable"
  mem_all a := by cases a <;> decide
  name_injective a b := by cases a <;> cases b <;> decide

/-- What an access control list says. -/
inductive Verdict where
  | granted
  | denied (reason : DenyReason)
  | requiresManager
  deriving DecidableEq

/-- What an access manager says in the end. -/
inductive ManagerDecision where
  | granted
  | denied
  deriving DecidableEq

instance : Vocabulary ManagerDecision where
  all := [.granted, .denied]
  name
    | .granted => "Granted"
    | .denied => "Denied"
  mem_all a := by cases a <;> decide
  name_injective a b := by cases a <;> cases b <;> decide

abbrev AppName := String

abbrev MatcherName := String

abbrev StoreName := String

/-- What the collaborators say to whatever they are asked within one call. -/
structure Answers where
  /-- the directory: how the resource at a path is registered, if it is -/
  properties : String → Option ResourceProperties
  verdict : AccessQuery → Verdict
  /-- the access manager: whether it took the question -/
  manager : AccessQuery → Except Fault Unit
  /-- the transport: whether it took the response -/
  transport : Endpoint → Response → Except Fault Unit
  /-- a matcher: whether the response is one it waits for -/
  claims : MatcherName → Endpoint → Response → Bool

/-- One use of a collaborator or of the application. -/
inductive Contact where
  | lookup (path : String)
  | resolve (query : AccessQuery)
  | delegate (query : AccessQuery)
  | send (peer : Endpoint) (response : Response)
  | handRequest (app : AppName) (peer : Endpoint) (request : Request)
  | handResponse (app : AppName) (peer : Endpoint) (response : Response)
  | handError (app : AppName) (peer : Endpoint) (error : TransportError)
  | offer (matcher : MatcherName) (peer : Endpoint) (response : Response)
  deriving DecidableEq

end ResourceGuard
