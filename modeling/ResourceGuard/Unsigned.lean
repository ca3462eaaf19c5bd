/-! # Numbers without a sign

A text may hold any whole number where a byte, a port or a length is expected. A
decoding library says what becomes of it. `Unsigned.Library` is what is used of
that library, and `Unsigned.Library.Lawful` what is relied on: a number is taken
as it is or not at all. -/
namespace ResourceGuard.Unsigned

/-- How a decoding library fills a place for a number without a sign. -/
class Library where
  /-- What a place for so many values makes of a whole number. -/
  ofInt? (size : Nat) (n : Int) : Option Nat

export Library (ofInt?)

/-- The values that a place has are taken, and no others. -/
class Library.Lawful [Library] : Prop where
  ofInt?_eq_some_iff : ∀ (size : Nat) (n : Int) (m : Nat),
    ofInt? size n = some m ↔ (m : Int) = n ∧ m < size

export Library.Lawful (ofInt?_eq_some_iff)

/-- A number below the size, if it is not negative. -/
def checked? (size : Nat) (n : Int) : Option Nat :=
  if 0 ≤ n ∧ n < size then some n.toNat else none

/-- A library that checks both bounds. -/
@[reducible] def standard : Library := ⟨checked?⟩

theorem checked?_eq_some_iff (size : Nat) (n : Int) (m : Nat) :
    checked? size n = some m ↔ (m : Int) = n ∧ m < size := by
  rw [checked?, Option.ite_none_right_eq_some, Option.some.injEq]
  omega

theorem lawful_standard : @Library.Lawful standard :=
  @Library.Lawful.mk standard checked?_eq_some_iff

end ResourceGuard.Unsigned
