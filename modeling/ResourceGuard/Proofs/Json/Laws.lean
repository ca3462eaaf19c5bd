import Mathlib.Algebra.Field.Rat
import Mathlib.Algebra.GroupWithZero.Basic
import Mathlib.Algebra.Order.Ring.Rat
import Mathlib.Data.Nat.Cast.Order.Ring
import Mathlib.Tactic.GCongr
import ResourceGuard.Json.Value

/-! # What is relied on of a library of JSON texts

A value that is not nested too deep, and whose numbers are not too large for double
precision, is read back from its text. Of a number, a library need only know whether
it is a whole one: digits alone are, if sixty-four bits can hold them, and whatever
is taken for a whole number amounts to it. `Numeral.quantity` is what a number
amounts to. -/
namespace ResourceGuard.Json

/-! ## What a number amounts to -/

/-- The power of ten that an exponent stands for; no exponent is the power zero. -/
def exponent : List Char → Int
  | _ :: '-' :: digits => -(Nat.ofDigitChars 10 digits 0 : Int)
  | _ :: '+' :: digits => Nat.ofDigitChars 10 digits 0
  | _ :: digits => Nat.ofDigitChars 10 digits 0
  | [] => 0

/-- What a number without a sign amounts to: all its digits as one whole number, times
ten to the exponent less the number of digits of the fraction. -/
def magnitude (cs : List Char) : Rat :=
  match cs.dropWhile Char.isDigit with
  | '.' :: rest =>
    let fraction := rest.takeWhile Char.isDigit
    Nat.ofDigitChars 10 (cs.takeWhile Char.isDigit ++ fraction) 0 *
      10 ^ (exponent (rest.dropWhile Char.isDigit) - fraction.length)
  | rest => Nat.ofDigitChars 10 (cs.takeWhile Char.isDigit) 0 * 10 ^ exponent rest

/-- What a number amounts to. -/
def Numeral.quantity (numeral : Numeral) : Rat :=
  match numeral.literal with
  | '-' :: rest => -magnitude rest
  | cs => magnitude cs

example : Numeral.quantity ⟨"-12.5e1".toList, by decide⟩ = -125 := by decide +kernel
example : Numeral.quantity ⟨"2.56E+2".toList, by decide⟩ = 256 := by decide +kernel

theorem magnitude_of_isWhole {literal : List Char} (h : isWhole literal = true) :
    magnitude literal = Nat.ofDigitChars 10 literal 0 := by
  obtain ⟨htake, hdrop⟩ := parts_of_isWhole h
  rw [magnitude, htake, hdrop]
  simp [exponent]

namespace Numeral

theorem quantity_of_minus {numeral : Numeral} {rest : List Char}
    (h : numeral.literal = '-' :: rest) : numeral.quantity = -magnitude rest := by
  unfold quantity
  rw [h]
  rfl

theorem quantity_of_unsigned {numeral : Numeral} (h : ∀ rest, numeral.literal ≠ '-' :: rest) :
    numeral.quantity = magnitude numeral.literal := by
  unfold quantity
  split
  case h_1 rest hliteral => exact absurd hliteral (h rest)
  case h_2 => rfl

theorem quantity_ofNat (n : Nat) : (ofNat n).quantity = n := by
  have hcount : Nat.ofDigitChars 10 (Nat.toDigits 10 n) 0 = n :=
    Nat.ofDigitChars_toDigits (by decide) (by decide)
  have hunsigned : ∀ rest, (ofNat n).literal ≠ '-' :: rest := by
    intro rest h
    have hdigits : Nat.toDigits 10 n = '-' :: rest := h
    have hminus := all_isDigit_toDigits n '-' (hdigits ▸ List.mem_cons_self)
    cases hminus
  rw [quantity_of_unsigned hunsigned, ofNat, magnitude_of_isWhole (isWhole_toDigits n), hcount]

end Numeral

/-! ## What is read back -/

/-- How large a number may be, or how far below zero, in a text that every library reads. -/
def maxQuantity : Nat := 10 ^ 308

/-- A value in which every key has a text, as every string has, in which arrays and objects
are nested at most this deep, and in which no number is too large. -/
inductive Value.Plain : Nat → Value → Prop
  | null {depth : Nat} : Plain depth null
  | bool {depth : Nat} (value : Bool) : Plain depth (bool value)
  | number {depth : Nat} {numeral : Numeral} (hlower : -(maxQuantity : Rat) ≤ numeral.quantity)
    (hupper : numeral.quantity ≤ maxQuantity) : Plain depth (number numeral)
  | text {depth : Nat} (s : String) : Plain depth (text s)
  | array {depth : Nat} {items : List Value} (hitems : ∀ item ∈ items, Plain depth item) :
    Plain (depth + 1) (array items)
  | object {depth : Nat} {members : List (Option String × Value)}
    (hkeys : ∀ member ∈ members, member.1 ≠ none)
    (hvalues : ∀ member ∈ members, Plain depth member.2) : Plain (depth + 1) (object members)

theorem Value.Plain.mono {shallow deep : Nat} {v : Value} (h : v.Plain shallow)
    (hle : shallow ≤ deep) : v.Plain deep := by
  induction h generalizing deep with
  | null => exact .null
  | bool value => exact .bool value
  | number hlower hupper => exact .number hlower hupper
  | text s => exact .text s
  | array _ ih =>
    obtain ⟨deep, rfl⟩ := Nat.exists_eq_add_one_of_ne_zero (by omega : deep ≠ 0)
    exact .array fun item hitem => ih item hitem (by omega)
  | object hkeys _ ih =>
    obtain ⟨deep, rfl⟩ := Nat.exists_eq_add_one_of_ne_zero (by omega : deep ≠ 0)
    exact .object hkeys fun member hmember => ih member hmember (by omega)

theorem Value.plain_natural {n : Nat} (h : n < 2 ^ 64) : (natural n).Plain 0 := by
  have hpow : 10 ^ 20 ≤ maxQuantity := by
    rw [maxQuantity]
    gcongr <;> decide
  have hmax : n ≤ maxQuantity := Nat.le_trans (by omega) hpow
  have hupper : (n : Rat) ≤ maxQuantity := Nat.cast_le.mpr hmax
  have hlower : -(maxQuantity : Rat) ≤ n :=
    (neg_nonpos.mpr (Nat.cast_nonneg maxQuantity)).trans (Nat.cast_nonneg n)
  rw [← Numeral.quantity_ofNat n] at hlower hupper
  exact .number hlower hupper

/-- How deep arrays and objects may be nested in a text that every library reads. -/
def maxNesting : Nat := 127

/-- What is relied on of a library. -/
class Library.Lawful [Library] : Prop where
  parse?_print : ∀ v : Value, v.Plain maxNesting → parse? (print v) = some v
  integer?_ofNat : ∀ n : Nat, n < 2 ^ 64 → integer? (.ofNat n) = some (n : Int)
  quantity_of_integer? : ∀ (numeral : Numeral) (n : Int), integer? numeral = some n →
    numeral.quantity = n

export Library.Lawful (parse?_print integer?_ofNat quantity_of_integer?)

end ResourceGuard.Json
