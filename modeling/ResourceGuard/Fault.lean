import ResourceGuard.Message

/-! # What can go wrong

A `Fault` is what a collaborator or the configuration reports; its wording is
the reporter's. An `AccessError` is what the guard answers its caller, one
constructor a cause; `AccessError.message` words each of them, and
`AccessError.code` is what a peer may learn of it. -/
namespace ResourceGuard

inductive FaultKind where
  | invalid
  | notFound
  | transport
  | storage
  | internal
  deriving DecidableEq, Inhabited

instance : Vocabulary FaultKind where
  all := [.invalid, .notFound, .transport, .storage, .internal]
  name
    | .invalid => "Invalid"
    | .notFound => "NotFound"
    | .transport => "Transport"
    | .storage => "Storage"
    | .internal => "Internal"
  mem_all a := by cases a <;> decide
  name_injective a b := by cases a <;> cases b <;> decide

/-- How the text of a fault opens. -/
def FaultKind.label : FaultKind → String
  | .invalid => "Invalid"
  | .notFound => "Not found"
  | .transport => "Transport error"
  | .storage => "Storage error"
  | .internal => "Internal error"

/-- A failure and the words of whoever reports it. -/
structure Fault where
  kind : FaultKind
  message : String
  deriving DecidableEq, Inhabited

/-- The kind and the message as one text. -/
def Fault.text (f : Fault) : String := f.kind.label ++ ": " ++ f.message

/-- What makes a registration unacceptable. -/
inductive ParameterFault where
  | incompleteHandlers
  | missingStorage
  | other (description : String)
  deriving DecidableEq

def ParameterFault.text : ParameterFault → String
  | incompleteHandlers => "request, response and error handlers are all required"
  | missingStorage => "persistent storage handler is required"
  | other description => description

/-- What keeps a decision from being made. -/
inductive DecisionFault where
  /-- no check has deferred its decision -/
  | nothingDeferred
  | alreadyPending
  | noAccessManager
  | queryFailed (fault : Fault)
  | nothingPending
  | other (description : String)
  deriving DecidableEq

def DecisionFault.text : DecisionFault → String
  | nothingDeferred => "no deferred decision to delegate"
  | alreadyPending => "delegation already pending"
  | noAccessManager => "no access management service configured"
  | queryFailed fault => "AMS query failed: " ++ fault.text
  | nothingPending => "no pending delegation"
  | other description => description

/-- Why the guard refuses a call. -/
inductive AccessError where
  | invalidParameter (fault : ParameterFault)
  | forbidden
  | unauthorized
  | internalServerError (fault : DecisionFault)
  /-- there was no room for a copy of the request -/
  | outOfMemory
  deriving DecidableEq

namespace AccessError

def message : AccessError → String
  | invalidParameter fault => "Invalid parameter: " ++ fault.text
  | forbidden => "Forbidden: secure resource requires an authenticated channel"
  | unauthorized => "Unauthorized"
  | internalServerError fault => "Internal server error: " ++ fault.text
  | outOfMemory => "Out of memory"

/-- What a peer is told. -/
def code : AccessError → ResponseCode
  | forbidden => .forbidden
  | unauthorized => .unauthorized
  | _ => .internalServerError

end AccessError

end ResourceGuard
