import ResourceGuard.Fault

/-! # Configuration

Two settings: the longest path the guard looks at, counted in bytes, and how it
turns a request away while another decision is open. -/
namespace ResourceGuard

/-- How a request is turned away while a decision is open. -/
inductive BusyPolicy where
  /-- like one that was denied -/
  | rejectUnauthorized
  /-- with a code that invites another try -/
  | rejectUnavailable
  deriving DecidableEq, Inhabited

instance : Vocabulary BusyPolicy where
  all := [.rejectUnauthorized, .rejectUnavailable]
  name
    | .rejectUnauthorized => "reject_unauthorized"
    | .rejectUnavailable => "reject_unavailable"
  mem_all a := by cases a <;> decide
  name_injective a b := by cases a <;> cases b <;> decide

def BusyPolicy.code : BusyPolicy → ResponseCode
  | .rejectUnauthorized => .unauthorized
  | .rejectUnavailable => .serviceUnavailable

structure Config where
  /-- The longest path that is looked at, in bytes, the query not counted. -/
  maxUriLength : UInt64 := 256
  busyPolicy : BusyPolicy := .rejectUnauthorized
  deriving DecidableEq, Inhabited

namespace Config

/-- Why a configuration is refused. -/
inductive Refusal where
  /-- the text is no document, or a setting has a value it cannot take; this is what
  the reader says of it -/
  | malformed (complaint : String)
  /-- a limit of zero would turn every path away -/
  | zeroLength
  deriving DecidableEq

/-- A refusal is always a fault of the invalid kind. -/
def Refusal.fault : Refusal → Fault
  | malformed complaint => ⟨.invalid, "Invalid TOML: " ++ complaint⟩
  | zeroLength => ⟨.invalid, "max_uri_length must be non-zero"⟩

/-- A configuration is valid when its limit lets some path through. -/
def validate (c : Config) : Except Refusal Config :=
  if c.maxUriLength = 0 then .error .zeroLength else .ok c

def exceeds (maxUriLength : UInt64) (path : String) : Bool :=
  decide (maxUriLength.toNat < path.utf8ByteSize)

theorem exceeds_eq_true_iff {limit : UInt64} {path : String} :
    exceeds limit path = true ↔ limit.toNat < path.utf8ByteSize := by
  simp [exceeds]

theorem exceeds_eq_false_iff {limit : UInt64} {path : String} :
    exceeds limit path = false ↔ path.utf8ByteSize ≤ limit.toNat := by
  simp [exceeds]

end Config

end ResourceGuard
