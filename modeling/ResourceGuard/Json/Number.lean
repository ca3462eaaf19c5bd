import ResourceGuard.Text.Numerals

/-! # Numbers of JSON

A number is written with a sign or without, with a fraction or without, and with
an exponent or without. It is kept as it is written, since who reads it decides
what it may be. -/
namespace ResourceGuard.Json

def isDigits (cs : List Char) : Bool := !cs.isEmpty && cs.all Char.isDigit

/-- A whole number without needless zeros in front. -/
def isWhole (cs : List Char) : Bool :=
  isDigits cs && (cs.length == 1 || cs.head? != some '0')

def isExponentMark (c : Char) : Bool := c == 'e' || c == 'E'

def isExponent : List Char → Bool
  | [] => true
  | mark :: sign :: rest =>
    isExponentMark mark &&
      (if sign == '+' || sign == '-' then isDigits rest else isDigits (sign :: rest))
  | [_] => false

/-- Nothing, or a fraction, and then nothing or an exponent. -/
def isTail : List Char → Bool
  | '.' :: rest =>
    isDigits (rest.takeWhile Char.isDigit) && isExponent (rest.dropWhile Char.isDigit)
  | rest => isExponent rest

def isUnsigned (cs : List Char) : Bool :=
  isWhole (cs.takeWhile Char.isDigit) && isTail (cs.dropWhile Char.isDigit)

def isNumber : List Char → Bool
  | '-' :: rest => isUnsigned rest
  | cs => isUnsigned cs

/-- A number as it is written. -/
structure Numeral where
  literal : List Char
  isNumber_literal : isNumber literal = true
  deriving DecidableEq

/-! ## Whole numbers -/

/-- A whole number is digits from end to end. -/
theorem parts_of_isWhole {cs : List Char} (h : isWhole cs = true) :
    cs.takeWhile Char.isDigit = cs ∧ cs.dropWhile Char.isDigit = [] := by
  have hall : ∀ c ∈ cs, c.isDigit = true := by
    rw [isWhole, isDigits, Bool.and_eq_true, Bool.and_eq_true, List.all_eq_true] at h
    exact h.1.2
  have htake : (cs ++ []).takeWhile Char.isDigit = cs ++ [] := List.takeWhile_append_of_pos hall
  have hdrop : (cs ++ []).dropWhile Char.isDigit = [] := List.dropWhile_append_of_pos hall
  rw [List.append_nil] at htake hdrop
  exact ⟨htake, hdrop⟩

theorem isUnsigned_of_isWhole {cs : List Char} (h : isWhole cs = true) :
    isUnsigned cs = true := by
  obtain ⟨htake, hdrop⟩ := parts_of_isWhole h
  rw [isUnsigned, htake, hdrop, h]
  rfl

theorem isWhole_toDigits (n : Nat) : isWhole (Nat.toDigits 10 n) = true := by
  have hdigits : isDigits (Nat.toDigits 10 n) = true := by
    rw [isDigits, Bool.and_eq_true, List.all_eq_true]
    exact ⟨by simp [Nat.toDigits_ne_nil], all_isDigit_toDigits n⟩
  rw [isWhole, hdigits, Bool.true_and, Bool.or_eq_true, bne_iff_ne]
  rcases Nat.eq_zero_or_pos n with rfl | hn
  · exact .inl (by decide)
  · exact .inr (head_toDigits_ne_zero hn)

theorem isNumber_toDigits (n : Nat) : isNumber (Nat.toDigits 10 n) = true := by
  unfold isNumber
  split
  case h_1 rest h =>
    have hminus := all_isDigit_toDigits n '-' (h ▸ List.mem_cons_self)
    cases hminus
  case h_2 => exact isUnsigned_of_isWhole (isWhole_toDigits n)

/-- A whole number in plain decimal. -/
def Numeral.ofNat (n : Nat) : Numeral := ⟨Nat.toDigits 10 n, isNumber_toDigits n⟩

end ResourceGuard.Json
