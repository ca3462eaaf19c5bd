import ResourceGuard.Message

/-! # Matching responses by token

A provisioning client waits for responses with certain tokens. The tokens it
waits for are a multiset: each expectation is used up by one response. -/
namespace ResourceGuard

/-- The expectations still open, and the responses claimed so far. -/
structure TokenMatcher where
  expected : List Token := []
  claimed : List Response := []
  deriving DecidableEq

namespace TokenMatcher

/-- Wait for one more response with this token. -/
def expect (m : TokenMatcher) (token : Token) : TokenMatcher :=
  { m with expected := m.expected ++ [token] }

/-- A response with this token is waited for. -/
def awaits (m : TokenMatcher) (response : Response) : Bool := m.expected.contains response.token

/-- Claim the response if it is waited for. -/
def claim (m : TokenMatcher) (response : Response) : Bool × TokenMatcher :=
  if m.awaits response then
    (true, { expected := m.expected.erase response.token, claimed := m.claimed ++ [response] })
  else (false, m)

end TokenMatcher

end ResourceGuard
