import Std.Data.String.ToNat

/-! # Decimal numerals

A numeral is made of digits only, and none but that of zero begins with a zero. -/
namespace ResourceGuard

theorem all_isDigit_toDigits (n : Nat) : ∀ c ∈ Nat.toDigits 10 n, c.isDigit = true :=
  fun _ hc => Nat.isDigit_of_mem_toDigits (by decide) (by decide) hc

/-- No number but zero is written with a zero in front. -/
theorem head_toDigits_ne_zero {n : Nat} (hn : 0 < n) :
    (Nat.toDigits 10 n).head? ≠ some '0' := by
  induction n using Nat.strongRecOn with
  | ind n ih =>
    by_cases hlt : n < 10
    · have hdigit : ∀ d < 10, 0 < d → Nat.digitChar d ≠ '0' := by decide
      rw [Nat.toDigits_of_lt_base hlt, List.head?_cons]
      exact fun h => hdigit n hlt hn (Option.some.inj h)
    · have hle : 10 ≤ n := Nat.le_of_not_lt hlt
      have hrest := ih (n / 10) (by omega) (by omega)
      rw [Nat.toDigits_of_base_le (by decide) hle, List.head?_append]
      cases hdigits : Nat.toDigits 10 (n / 10) with
      | nil => exact absurd hdigits Nat.toDigits_ne_nil
      | cons c digits =>
        rw [hdigits] at hrest
        exact hrest

theorem toList_toString_nat (n : Nat) : (toString n).toList = Nat.toDigits 10 n := by
  rw [Nat.toString_eq_ofList_toDigits, String.toList_ofList]

theorem not_mem_numeral {c : Char} (h : c.isDigit = false) (n : Nat) : c ∉ (toString n).toList := by
  intro hc
  rw [toList_toString_nat] at hc
  rw [all_isDigit_toDigits n c hc] at h
  cases h

/-- The sign of a whole number, and nothing for one that is not negative. -/
def signOf (n : Int) : List Char := if n < 0 then ['-'] else []

theorem toList_toString_int (n : Int) :
    (toString n).toList = signOf n ++ Nat.toDigits 10 n.natAbs := by
  cases n with
  | ofNat n =>
    have hsign : signOf (Int.ofNat n) = [] := if_neg (by simp)
    rw [hsign]
    exact toList_toString_nat n
  | negSucc n =>
    have hsign : signOf (Int.negSucc n) = ['-'] := if_pos (Int.negSucc_lt_zero n)
    have htext : toString (Int.negSucc n) = "-" ++ toString (n + 1) := rfl
    rw [hsign, htext, String.toList_append, toList_toString_nat]
    rfl

end ResourceGuard
