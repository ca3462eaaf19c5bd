import ResourceGuard.Access
import ResourceGuard.Config
import ResourceGuard.Inspect
import ResourceGuard.Subject.Uuid

/-! # The audit log

Everything the guard does leaves an entry. `AuditEntry` says what happened, one
constructor a kind of event; `AuditEntry.record` words it: a level, a message
that is always the same for that kind, and named fields. Bodies, tokens and
message ids have no place in any entry. -/
namespace ResourceGuard

/-- How serious an entry is. -/
inductive AuditLevel where
  | error
  | warn
  | info
  | debug
  deriving DecidableEq

instance : Vocabulary AuditLevel where
  all := [.error, .warn, .info, .debug]
  name
    | .error => "ERROR"
    | .warn => "WARN"
    | .info => "INFO"
    | .debug => "DEBUG"
  mem_all a := by cases a <;> decide
  name_injective a b := by cases a <;> cases b <;> decide

/-- What happened. -/
inductive AuditEntry where
  | started (config : Config)
  | stopped
  | handlersRegistered
  | handlersIncomplete
  | handlersUnregistered
  | storageMissing
  | requestReceived
  | overlongPath (length : Nat) (limit : UInt64)
  | channelSecure
  | channelRefused
  | noRequestHandler
  | busy (phase : Phase)
  | checkedWhileBusy (phase : Phase) (path : String)
  | resolved (query : AccessQuery) (verdict : Verdict)
  | deferred (path : String)
  | granted
  | denied (reason : DenyReason)
  | parked (query : AccessQuery) (peer : EndpointId)
  | slowReply
  | delegationFailed (error : AccessError)
  | sent (code : ResponseCode)
  | sendFailed (fault : Fault) (code : ResponseCode)
  | unexpectedDecision (error : AccessError) (decision : ManagerDecision)
  | decided (decision : ManagerDecision) (uri : String)
  | replayed (uri : String)
  | noReplayHandler
  | deniedByManager (uri : String)
  | abandoned (peer : EndpointId) (uri : String)
  | responseReceived (peer : EndpointId) (code : ResponseCode)
  | responseClaimed
  | responseDropped
  | errorReceived (peer : EndpointId) (reason : String) (uri : String)
  deriving DecidableEq

/-- An entry in words. -/
structure AuditRecord where
  level : AuditLevel
  message : String
  fields : List (String × String) := []
  deriving DecidableEq

/-- A verdict in words. -/
def Verdict.text : Verdict → String
  | .granted => "Granted"
  | .denied reason => "Denied(" ++ Vocabulary.name reason ++ ")"
  | .requiresManager => "RequiresAms"

namespace AuditEntry

/-- The wording of each kind of entry. -/
def record [Uuid.Library] : AuditEntry → AuditRecord
  | started config => ⟨.debug, "Policy engine initialised", [("config", config.shown)]⟩
  | stopped => ⟨.debug, "Policy engine shut down", []⟩
  | handlersRegistered => ⟨.debug, "Application handlers registered", []⟩
  | handlersIncomplete => ⟨.error, "Callback handlers are invalid", []⟩
  | handlersUnregistered => ⟨.debug, "Application handlers unregistered", []⟩
  | storageMissing => ⟨.error, "The persistent storage handler is invalid", []⟩
  | requestReceived => ⟨.debug, "Received request from remote device", []⟩
  | overlongPath length limit => ⟨.error, "Incorrect URI length",
      [("length", toString length), ("max", toString limit.toNat)]⟩
  | channelSecure => ⟨.debug, "Request over secure channel", []⟩
  | channelRefused =>
    ⟨.info, "Rejecting request for secure resource over unauthenticated channel", []⟩
  | noRequestHandler => ⟨.error, "No request handler registered", []⟩
  | busy phase => ⟨.info, "Ignoring request while a delegation is pending",
      [("state", Vocabulary.name phase)]⟩
  | checkedWhileBusy phase path => ⟨.warn, "check_permission called while busy",
      [("state", Vocabulary.name phase), ("uri", path)]⟩
  | resolved query verdict => ⟨.debug, "ACL lookup complete",
      [("subject", query.subject.uuid), ("uri", query.path),
        ("permission", query.permission.text), ("resource_type", resourceText query.resource),
        ("verdict", verdict.text)]⟩
  | deferred path => ⟨.info, "Access decision deferred to access management service",
      [("uri", path)]⟩
  | granted => ⟨.debug, "Access granted, passing request to application layer", []⟩
  | denied reason => ⟨.info, "Access denied", [("reason", Vocabulary.name reason)]⟩
  | parked query peer => ⟨.debug, "Delegation parked",
      [("subject", query.subject.uuid), ("uri", query.path), ("endpoint", peer.text)]⟩
  | slowReply => ⟨.info, "Sending slow response", []⟩
  | delegationFailed error => ⟨.error, "Could not start delegation", [("err", error.message)]⟩
  | sent code => ⟨.debug, "Response sent", [("result", code.text)]⟩
  | sendFailed fault code => ⟨.error, "Failed in sending response",
      [("err", fault.text), ("result", code.text)]⟩
  | unexpectedDecision error decision => ⟨.error, "AMS decision without pending delegation",
      [("err", error.message), ("decision", Vocabulary.name decision)]⟩
  | decided decision uri => ⟨.info, "Delegation resolved",
      [("decision", Vocabulary.name decision), ("uri", uri)]⟩
  | replayed uri => ⟨.info, "Access granted. Passing request to application layer",
      [("uri", uri)]⟩
  | noReplayHandler => ⟨.error, "No request handler registered for granted delegation", []⟩
  | deniedByManager uri => ⟨.info, "Access denied by access management service", [("uri", uri)]⟩
  | abandoned peer uri => ⟨.warn, "Abandoning pending delegation",
      [("endpoint", peer.text), ("uri", uri)]⟩
  | responseReceived peer code => ⟨.debug, "Received response from remote device",
      [("endpoint", peer.text), ("result", code.text)]⟩
  | responseClaimed => ⟨.debug, "Response claimed by provisioning client", []⟩
  | responseDropped => ⟨.warn, "No response handler registered, dropping response", []⟩
  | errorReceived peer reason uri => ⟨.info, "Received error from remote device",
      [("endpoint", peer.text), ("reason", reason), ("uri", uri)]⟩

end AuditEntry

end ResourceGuard
