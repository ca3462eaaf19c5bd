import ResourceGuard.Endpoint
import ResourceGuard.Permission
import ResourceGuard.Subject
import ResourceGuard.VirtualResource

/-! # Messages

What the transport hands over and takes back: requests, responses, and reports
of messages that could not be delivered. -/
namespace ResourceGuard

inductive Method where
  | get
  | post
  | put
  | delete
  deriving DecidableEq, Inhabited

instance : Vocabulary Method where
  all := [.get, .post, .put, .delete]
  name
    | .get => "Get"
    | .post => "Post"
    | .put => "Put"
    | .delete => "Delete"
  mem_all a := by cases a <;> decide
  name_injective a b := by cases a <;> cases b <;> decide

/-- The permission that a method needs; posting is an update, as putting is. -/
def Method.requiredPermission : Method → Permission
  | .get => .read
  | .post => .write
  | .put => .write
  | .delete => .delete

/-- How a message takes part in an exchange. -/
inductive MessageType where
  /-- wants an acknowledgement -/
  | confirmable
  /-- wants none -/
  | nonConfirmable
  /-- is an acknowledgement -/
  | acknowledge
  /-- refuses a message -/
  | reset
  deriving DecidableEq, Inhabited

instance : Vocabulary MessageType where
  all := [.confirmable, .nonConfirmable, .acknowledge, .reset]
  name
    | .confirmable => "Confirmable"
    | .nonConfirmable => "NonConfirmable"
    | .acknowledge => "Acknowledge"
    | .reset => "Reset"
  mem_all a := by cases a <;> decide
  name_injective a b := by cases a <;> cases b <;> decide

/-- Bytes that the requester chose to know the answer by. -/
structure Token where
  bytes : List UInt8
  deriving DecidableEq, Inhabited

structure Request where
  identity : SubjectId
  method : Method
  /-- The URI as sent, with its query if it has one. -/
  uri : String
  payload : List UInt8
  token : Token
  messageId : UInt16
  messageType : MessageType
  deriving DecidableEq, Inhabited

def Request.path (r : Request) : String := pathOf r.uri

inductive ResponseCode where
  | ok
  /-- a secure resource was asked for over a plain channel -/
  | forbidden
  | unauthorized
  | internalServerError
  /-- another decision is still open -/
  | serviceUnavailable
  /-- no code: a bare acknowledgement -/
  | empty
  deriving DecidableEq, Inhabited

instance : Vocabulary ResponseCode where
  all := [.ok, .forbidden, .unauthorized, .internalServerError, .serviceUnavailable, .empty]
  name
    | .ok => "Ok"
    | .forbidden => "Forbidden"
    | .unauthorized => "Unauthorized"
    | .internalServerError => "InternalServerError"
    | .serviceUnavailable => "ServiceUnavailable"
    | .empty => "Empty"
  mem_all a := by cases a <;> decide
  name_injective a b := by cases a <;> cases b <;> decide

/-- The dotted code: class and detail. -/
def ResponseCode.text : ResponseCode → String
  | .ok => "2.05"
  | .forbidden => "4.03"
  | .unauthorized => "4.01"
  | .internalServerError => "5.00"
  | .serviceUnavailable => "5.03"
  | .empty => "0.00"

/-- A response, to a peer or from one. -/
structure Response where
  code : ResponseCode
  messageType : MessageType
  token : Token
  messageId : UInt16
  uri : String
  /-- An absent body is not the same as an empty one. -/
  payload : Option (List UInt8)
  deriving DecidableEq, Inhabited

structure TransportError where
  reason : String
  token : Token
  uri : String
  deriving DecidableEq, Inhabited

end ResourceGuard
