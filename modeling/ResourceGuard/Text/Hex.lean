/-! # Bytes as hexadecimal text

A byte is written as two lower-case digits, the high half first. Reading takes
digits of either case and refuses an odd count. Main statement: reading undoes
writing (`decode?_encode`). -/
namespace ResourceGuard.Hex

/-- The value of one hexadecimal digit of either case. -/
def digitValue? (c : Char) : Option Nat :=
  if '0' ≤ c ∧ c ≤ '9' then some (c.toNat - 48)
  else if 'a' ≤ c ∧ c ≤ 'f' then some (c.toNat - 87)
  else if 'A' ≤ c ∧ c ≤ 'F' then some (c.toNat - 55)
  else none

/-- Two digits a byte. -/
def encode : List UInt8 → List Char
  | [] => []
  | b :: rest =>
    Nat.digitChar (b.toNat / 16) :: Nat.digitChar (b.toNat % 16) :: encode rest

/-- The bytes that a text of digit pairs writes. -/
def decode? : List Char → Option (List UInt8)
  | [] => some []
  | [_] => none
  | high :: low :: rest => do
    let h ← digitValue? high
    let l ← digitValue? low
    let bytes ← decode? rest
    return UInt8.ofNat (16 * h + l) :: bytes

theorem digitValue?_digitChar : ∀ d < 16, digitValue? (Nat.digitChar d) = some d := by
  decide

theorem decode?_encode (bytes : List UInt8) : decode? (encode bytes) = some bytes := by
  induction bytes with
  | nil => rfl
  | cons b rest ih =>
    have hb : b.toNat < 256 := b.toNat_lt
    simp only [encode, decode?, digitValue?_digitChar (b.toNat / 16) (by omega),
      digitValue?_digitChar (b.toNat % 16) (by omega), ih, Option.bind_eq_bind,
      Option.bind_some, Nat.div_add_mod, UInt8.ofNat_toNat]
    rfl

theorem length_encode (bytes : List UInt8) : (encode bytes).length = 2 * bytes.length := by
  induction bytes with
  | nil => rfl
  | cons b rest ih => simp only [encode, List.length_cons, ih]; omega

end ResourceGuard.Hex
