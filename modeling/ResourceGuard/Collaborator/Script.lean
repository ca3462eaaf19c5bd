import ResourceGuard.Access
import Std.Data.HashMap

/-! # Scripted collaborators

A script fixes what the access control list, the directory, the access manager
and the transport say until it is changed: verdicts and properties by path, a
verdict for all other paths, and whether questions and responses get through. -/
namespace ResourceGuard

/-- What scripted collaborators say. -/
structure Script where
  /-- what the list says of a path -/
  verdicts : Std.HashMap String Verdict := {}
  /-- what the list says of every other path -/
  fallback : Verdict := .denied .noAclFound
  /-- the resources in the directory -/
  resources : Std.HashMap String ResourceProperties := {}
  /-- the access manager cannot be reached -/
  unreachable : Bool := false
  /-- the access manager answers every question with this fault -/
  managerFault : Option Fault := none
  sendsFail : Bool := false

/-- One change to a script. -/
inductive Setting where
  | verdict (path : String) (verdict : Verdict)
  | fallback (verdict : Verdict)
  | host (path : String) (properties : ResourceProperties)
  | unreachable (on : Bool)
  | managerFault (fault : Option Fault)
  | sendsFail (on : Bool)

namespace Setting

/-- Host a discoverable resource that is only to be reached over an authenticated
channel. -/
def hostSecure (path : String) : Setting := .host path (.union .discoverable .secure)

end Setting

namespace Script

def set (s : Script) : Setting → Script
  | .verdict path verdict => { s with verdicts := s.verdicts.insert path verdict }
  | .fallback verdict => { s with fallback := verdict }
  | .host path properties => { s with resources := s.resources.insert path properties }
  | .unreachable on => { s with unreachable := on }
  | .managerFault fault => { s with managerFault := fault }
  | .sendsFail on => { s with sendsFail := on }

/-- What the access manager does with a question: a fault of its own comes before
its being out of reach. -/
def manager (s : Script) : Except Fault Unit :=
  match s.managerFault with
  | some fault => .error fault
  | none =>
    if s.unreachable then .error ⟨.transport, "access management service unreachable"⟩
    else .ok ()

def transport (s : Script) : Except Fault Unit :=
  if s.sendsFail then .error ⟨.transport, "simulated send failure"⟩ else .ok ()

/-- The answers that the script gives, with the matchers speaking for themselves. -/
def answers (s : Script) (claims : MatcherName → Endpoint → Response → Bool) : Answers where
  properties path := s.resources[path]?
  verdict query := s.verdicts[query.path]?.getD s.fallback
  manager _ := s.manager
  transport _ _ := s.transport
  claims

end Script

end ResourceGuard
