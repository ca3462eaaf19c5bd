import ResourceGuard.Message

/-! # Replies made on the guard's own account

A refusal and the promise of a later answer have no body. Token, message id and
full URI are the request's own, so that the peer can tell what is answered. -/
namespace ResourceGuard

/-- Whether a reply still belongs to the request's own exchange. -/
inductive Delivery where
  /-- within the exchange -/
  | piggybacked
  /-- after the exchange was acknowledged -/
  | separate
  deriving DecidableEq

/-- Only a confirmable request is owed an acknowledgement, or, when it already
had that, a confirmable answer. -/
def replyType : MessageType → Delivery → MessageType
  | .confirmable, .piggybacked => .acknowledge
  | .confirmable, .separate => .confirmable
  | _, _ => .nonConfirmable

/-- A reply to `r` without a body. -/
def Request.reply (r : Request) (code : ResponseCode) (delivery : Delivery) : Response where
  code
  messageType := replyType r.messageType delivery
  token := r.token
  messageId := r.messageId
  uri := r.uri
  payload := none

/-- The response turns this request down with this code: token, message id and URI are the
request's own, the query included, and there is no body. -/
structure Response.Refuses (response : Response) (request : Request) (reason : ResponseCode) :
    Prop where
  code : response.code = reason
  token : response.token = request.token
  messageId : response.messageId = request.messageId
  uri : response.uri = request.uri
  payload : response.payload = none

theorem refuses_reply (request : Request) (code : ResponseCode) (delivery : Delivery) :
    (request.reply code delivery).Refuses request code := ⟨rfl, rfl, rfl, rfl, rfl⟩

/-- The empty acknowledgement: the answer comes later. -/
def Request.slowReply (r : Request) : Response :=
  { r.reply .empty .piggybacked with messageType := .acknowledge }

end ResourceGuard
