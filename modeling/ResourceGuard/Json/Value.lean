import ResourceGuard.Json.Number

/-! # JSON values and their texts

Messages and settings are made into values of a few kinds and back. The texts of
these values are written and read by a library. `Json.Library` is what is used of
it, and whatever is said of texts is said for any library. -/
namespace ResourceGuard.Json

/-- A JSON value. Members keep their order, and a key may occur more than once. -/
inductive Value where
  | null
  | bool (value : Bool)
  | number (numeral : Numeral)
  /-- a string, if some text is what it stands for; half a character stands for none -/
  | string (text : Option String)
  | array (items : List Value)
  | object (members : List (Option String × Value))

namespace Value

def text (s : String) : Value := string (some s)

def natural (n : Nat) : Value := number (.ofNat n)

/-- The text of a string that has one. -/
def text? : Value → Option String
  | string text => text
  | _ => none

end Value

/-- What a library of JSON texts does. -/
class Library where
  print : Value → String
  /-- The value that a text is read as. -/
  parse? : String → Option Value
  /-- The whole number that a number is taken for, if it is taken for one. -/
  integer? : Numeral → Option Int

export Library (print parse? integer?)

end ResourceGuard.Json
