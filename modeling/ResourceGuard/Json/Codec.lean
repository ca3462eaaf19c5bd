import ResourceGuard.Config
import ResourceGuard.Json.Value
import ResourceGuard.Subject.Uuid
import ResourceGuard.Unsigned

/-! # Messages and settings as JSON

`Codec` pairs an encoding with its decoding. A record is an object with one
member a field; decoding takes an object whose other members it does not look
at, or an array of the fields in order. A name is a string, or an object with
that one name and null. Numbers outside the range of their type are refused. -/
namespace ResourceGuard.Json

/-- A type whose values travel as JSON. -/
class Codec (α : Type) where
  encode : α → Value
  decode? : Value → Option α

export Codec (encode decode?)

variable [Unsigned.Library] [Uuid.Library] [Library]

def write {α : Type} [Codec α] (a : α) : String := print (encode a)

def read? {α : Type} [Codec α] (text : String) : Option α := (parse? text).bind decode?

/-! ## Numbers, texts and bytes -/

/-- What a place for so many values makes of a value. -/
def below? (size : Nat) : Value → Option Nat
  | .number numeral => (integer? numeral).bind (Unsigned.ofInt? size)
  | _ => none

instance : Codec UInt8 where
  encode n := .natural n.toNat
  decode? v := (below? UInt8.size v).map UInt8.ofNat

instance : Codec UInt16 where
  encode n := .natural n.toNat
  decode? v := (below? UInt16.size v).map UInt16.ofNat

instance : Codec UInt64 where
  encode n := .natural n.toNat
  decode? v := (below? UInt64.size v).map UInt64.ofNat

instance : Codec String where
  encode := .text
  decode? := Value.text?

instance : Codec (List UInt8) where
  encode bytes := .array (bytes.map encode)
  decode?
    | .array items => items.mapM decode?
    | _ => none

/-- Bytes that may be absent, which null stands for. -/
instance : Codec (Option (List UInt8)) where
  encode
    | some bytes => encode bytes
    | none => .null
  decode?
    | .null => some none
    | v => (decode? v).map some

/-! ## Names -/

/-- The name that a value of a closed set travels under. -/
def encodeName {α : Type} [Vocabulary α] (a : α) : Value := .text (Vocabulary.name a)

/-- A name on its own, or as the one key of an object, with null. -/
def decodeName? {α : Type} [Vocabulary α] : Value → Option α
  | .string (some name) => Vocabulary.ofName? name
  | .object [(some name, .null)] => Vocabulary.ofName? name
  | _ => none

instance : Codec Adapter := ⟨encodeName, decodeName?⟩
instance : Codec Method := ⟨encodeName, decodeName?⟩
instance : Codec MessageType := ⟨encodeName, decodeName?⟩
instance : Codec ResponseCode := ⟨encodeName, decodeName?⟩
instance : Codec BusyPolicy := ⟨encodeName, decodeName?⟩

/-! ## Wrapped values -/

instance : Codec SubjectId where
  encode s := .text s.uuid
  decode? v := v.text?.bind SubjectId.ofUuid?

instance : Codec EndpointId where
  encode id := encode id.handle
  decode? v := (decode? v).map EndpointId.mk

instance : Codec Permission where
  encode p := encode p.bits
  decode? v := (decode? v).map Permission.mk

instance : Codec ResourceProperties where
  encode p := encode p.bits
  decode? v := (decode? v).map ResourceProperties.mk

instance : Codec Token where
  encode t := encode t.bytes
  decode? v := (decode? v).map Token.mk

/-! ## Records -/

/-- The members with these names; `none` when a key has no text or one of the
names occurs twice. -/
def namedMembers? (names : List String) :
    List (Option String × Value) → Option (List (String × Value))
  | [] => some []
  | (none, _) :: _ => none
  | (some key, value) :: members =>
    match namedMembers? names members with
    | none => none
    | some found =>
      if key ∉ names then some found
      else if found.any (·.1 == key) then none
      else some ((key, value) :: found)

/-- The fields of a record, from an object or from an array of all of them. -/
def fields? (names : List String) : Value → Option (List (String × Value))
  | .object members => namedMembers? names members
  | .array items => if items.length = names.length then some (names.zip items) else none
  | _ => none

/-- The fields of a record that may be incomplete: the array may break off. -/
def someFields? (names : List String) : Value → Option (List (String × Value))
  | .array items => if items.length ≤ names.length then some (names.zip items) else none
  | v => fields? names v

/-- A field that has to be there. -/
def field? {α : Type} [Codec α] (fields : List (String × Value)) (name : String) : Option α :=
  (fields.lookup name).bind decode?

/-- A field with a value to fall back on. -/
def fieldOr? {α : Type} [Codec α] (fields : List (String × Value)) (name : String) (default : α) :
    Option α :=
  match fields.lookup name with
  | some v => decode? v
  | none => some default

def record (fields : List (String × Value)) : Value :=
  .object (fields.map fun (name, v) => (some name, v))

instance : Codec Endpoint where
  encode e := record
    [("id", encode e.id), ("adapter", encode e.adapter), ("address", encode e.address),
      ("port", encode e.port)]
  decode? v := do
    let fields ← fields? ["id", "adapter", "address", "port"] v
    return { id := ← field? fields "id", adapter := ← field? fields "adapter",
             address := ← field? fields "address", port := ← field? fields "port" }

instance : Codec Request where
  encode r := record
    [("identity", encode r.identity), ("method", encode r.method),
      ("resource_uri", encode r.uri), ("payload", encode r.payload), ("token", encode r.token),
      ("message_id", encode r.messageId), ("message_type", encode r.messageType)]
  decode? v := do
    let fields ← fields? ["identity", "method", "resource_uri", "payload", "token",
      "message_id", "message_type"] v
    return { identity := ← field? fields "identity", method := ← field? fields "method",
             uri := ← field? fields "resource_uri", payload := ← field? fields "payload",
             token := ← field? fields "token", messageId := ← field? fields "message_id",
             messageType := ← field? fields "message_type" }

/-- The body of a response may be left out of an object. -/
instance : Codec Response where
  encode r := record
    [("result", encode r.code), ("message_type", encode r.messageType),
      ("token", encode r.token), ("message_id", encode r.messageId),
      ("resource_uri", encode r.uri), ("payload", encode r.payload)]
  decode? v := do
    let fields ← fields? ["result", "message_type", "token", "message_id", "resource_uri",
      "payload"] v
    return { code := ← field? fields "result", messageType := ← field? fields "message_type",
             token := ← field? fields "token", messageId := ← field? fields "message_id",
             uri := ← field? fields "resource_uri",
             payload := ← fieldOr? fields "payload" none }

instance : Codec TransportError where
  encode e := record
    [("reason", encode e.reason), ("token", encode e.token), ("resource_uri", encode e.uri)]
  decode? v := do
    let fields ← fields? ["reason", "token", "resource_uri"] v
    return { reason := ← field? fields "reason", token := ← field? fields "token",
             uri := ← field? fields "resource_uri" }

/-- A setting that is left out has its usual value. -/
instance : Codec Config where
  encode c := record
    [("max_uri_length", encode c.maxUriLength), ("busy_request_policy", encode c.busyPolicy)]
  decode? v := do
    let fields ← someFields? ["max_uri_length", "busy_request_policy"] v
    return { maxUriLength := ← fieldOr? fields "max_uri_length" ({} : Config).maxUriLength,
             busyPolicy := ← fieldOr? fields "busy_request_policy" ({} : Config).busyPolicy }

/-- A fault is an object with its kind for the one key. -/
instance : Codec Fault where
  encode f := .object [(some (Vocabulary.name f.kind), record [("message", encode f.message)])]
  decode?
    | .object [(some name, v)] => do
      let kind ← Vocabulary.ofName? name
      let fields ← fields? ["message"] v
      return ⟨kind, ← field? fields "message"⟩
    | _ => none

end ResourceGuard.Json
