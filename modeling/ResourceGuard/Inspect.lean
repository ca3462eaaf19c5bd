import ResourceGuard.Config
import ResourceGuard.Context
import ResourceGuard.Subject.Uuid
import ResourceGuard.Text.Signs

/-! # State in words

The text form of settings and state, for people who look into a running guard:
a record is its name and its fields in braces, a wrapped value its name and the
value in parentheses, and a text stands in quotes with everything unprintable
escaped. A record that keeps fields to itself ends with two dots. The texts
that occur are ASCII. -/
namespace ResourceGuard

namespace Inspect

/-- The fields of a record, and whatever comes after them, in braces. -/
def braced (fields : List (String × String)) (after : String) : String :=
  openBrace.toString ++ " " ++
    ", ".intercalate (fields.map fun (label, value) => label ++ ": " ++ value) ++ after ++ " " ++
      closeBrace.toString

/-- A record with all its fields. -/
def record (name : String) (fields : List (String × String)) : String :=
  name ++ " " ++ braced fields ""

/-- A record that keeps some fields to itself. -/
def openRecord (name : String) (fields : List (String × String)) : String :=
  name ++ " " ++ braced fields ", .."

/-- A value in its wrapping. -/
def wrapped (name value : String) : String := name ++ "(" ++ value ++ ")"

/-- A value that may be missing. -/
def optional : Option String → String
  | some value => wrapped "Some" value
  | none => "None"

/-- Bytes as a list of numbers. -/
def bytes (data : List UInt8) : String :=
  "[" ++ ", ".intercalate (data.map fun b => toString b.toNat) ++ "]"

/-- One character of a quoted text. -/
def escape (c : Char) : List Char :=
  if c = '\t' then ['\\', 't']
  else if c = '\r' then ['\\', 'r']
  else if c = '\n' then ['\\', 'n']
  else if c = '\x00' then ['\\', '0']
  else if c = '\\' ∨ c = quote then ['\\', c]
  else if c.toNat < 32 ∨ c.toNat = 127 then
    ['\\', 'u', openBrace] ++ Nat.toDigits 16 c.toNat ++ [closeBrace]
  else [c]

/-- A text in quotes. -/
def quoted (s : String) : String :=
  String.ofList (quote :: s.toList.flatMap escape ++ [quote])

end Inspect

open Inspect

def BusyPolicy.shown : BusyPolicy → String
  | .rejectUnauthorized => "RejectUnauthorized"
  | .rejectUnavailable => "RejectUnavailable"

def Config.shown (c : Config) : String :=
  record "SrmConfig"
    [("max_uri_length", toString c.maxUriLength.toNat), ("busy_request_policy", c.busyPolicy.shown)]

def Endpoint.shown (e : Endpoint) : String :=
  record "Endpoint"
    [("id", wrapped "EndpointId" (toString e.id.handle.toNat)),
      ("adapter", Vocabulary.name e.adapter),
      ("address", quoted e.address),
      ("port", toString e.port.toNat)]

section Subjects

variable [Uuid.Library]

def SubjectId.shown (s : SubjectId) : String := wrapped "SubjectId" s.uuid

def Request.shown (r : Request) : String :=
  record "Request"
    [("identity", r.identity.shown),
      ("method", Vocabulary.name r.method),
      ("resource_uri", quoted r.uri),
      ("payload", bytes r.payload),
      ("token", wrapped "Token" (bytes r.token.bytes)),
      ("message_id", toString r.messageId.toNat),
      ("message_type", Vocabulary.name r.messageType)]

def Delegation.shown (d : Delegation) : String :=
  record "PendingDelegation" [("endpoint", d.peer.shown), ("request", d.request.shown)]

def Context.shown (c : Context) : String :=
  record "PolicyEngineContext"
    [("state", Vocabulary.name c.phase),
      ("resource_type", resourceName c.resource),
      ("subject", c.subject.shown),
      ("permission", wrapped "Permission" (toString c.permission.bits.toNat)),
      ("pending", optional (c.pending.map Delegation.shown))]

end Subjects

end ResourceGuard
