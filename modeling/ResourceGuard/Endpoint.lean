import ResourceGuard.Text.Vocabulary

/-! # Endpoints

An endpoint is the far end of a connection: where a request came from and where
its response goes. The transport's own handle tells two connections apart, even
when they share an address. -/
namespace ResourceGuard

/-- The handle a transport gives a connection. -/
structure EndpointId where
  handle : UInt64
  deriving DecidableEq, Inhabited

/-- The adapter that carries a connection. -/
inductive Adapter where
  /-- UDP or TCP -/
  | ip
  /-- Bluetooth LE -/
  | bleGatt
  /-- relayed through the cloud -/
  | remoteAccess
  deriving DecidableEq, Inhabited

instance : Vocabulary Adapter where
  all := [.ip, .bleGatt, .remoteAccess]
  name
    | .ip => "Ip"
    | .bleGatt => "BleGatt"
    | .remoteAccess => "RemoteAccess"
  mem_all a := by cases a <;> decide
  name_injective a b := by cases a <;> cases b <;> decide

/-- The far end of a connection. -/
structure Endpoint where
  id : EndpointId
  adapter : Adapter
  /-- The address in the adapter's own form; any text. -/
  address : String
  /-- Zero for an adapter without ports. -/
  port : UInt16
  deriving DecidableEq, Inhabited

/-- The handle as text: `endpoint-7`. -/
def EndpointId.text (id : EndpointId) : String := "endpoint-" ++ toString id.handle.toNat

/-- The short tag that opens an endpoint's text. -/
def Adapter.tag : Adapter → String
  | .ip => "ip"
  | .bleGatt => "gatt"
  | .remoteAccess => "ra"

/-- The endpoint as text: `ip:192.168.0.10:5683 (endpoint-7)`. The address stands
in the middle as it is, whatever characters it has. -/
def Endpoint.text (e : Endpoint) : String :=
  e.adapter.tag ++ ":" ++ e.address ++ ":" ++ toString e.port.toNat ++ " (" ++ e.id.text ++ ")"

end ResourceGuard
