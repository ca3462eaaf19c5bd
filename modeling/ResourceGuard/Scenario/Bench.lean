import ResourceGuard.Scenario

/-! # The test bench

A scenario that is ready to use: the access control list grants everything, the
access manager can be reached, and one application is registered unless the
bench is set up bare. Peers and requests come from small numbers. -/
namespace ResourceGuard

namespace Bench

/-- The application of the bench. -/
def application : AppName := "application"

/-- Register the application for requests, responses and errors. -/
def registerApplication : Call :=
  .registerHandlers (some application) (some application) (some application)

/-- A bench on which nobody is registered. -/
def bare (config : Config) : Scenario :=
  Scenario.start config true { fallback := .granted }

/-- A bench with the application registered. -/
def ready (config : Config) : Scenario := ((bare config).call registerApplication).2.2

/-- A peer on an authenticated channel; the number zero would be nobody, so it
counts as one. -/
def secureSubject (seed : UInt8) : SubjectId := SubjectId.replicate (if seed = 0 then 1 else seed)

/-- An endpoint with this handle. Addresses repeat after two hundred and fifty. -/
def endpoint (id : UInt64) : Endpoint where
  id := ⟨id⟩
  adapter := .ip
  address := "192.168.1." ++ toString (id.toNat % 250 + 1)
  port := 5683

/-- A confirmable request without a body whose token and message id come from a
number. -/
def request (identity : SubjectId) (method : Method) (uri : String) (seed : UInt8) : Request where
  identity
  method
  uri
  payload := []
  token := ⟨[seed, seed + 1]⟩
  messageId := seed.toUInt16
  messageType := .confirmable

end Bench

end ResourceGuard
