import ResourceGuard.Json.Standard.Lexeme
import ResourceGuard.Json.Value

/-! # A library of JSON texts

A value is read from its lexemes one at a time. `Progress` is what has been read
so far: what may come next, and the arrays and objects that are still open. It
moves by one lexeme at a time, so values may nest as deep as they like. A value
is written without blanks. -/
namespace ResourceGuard.Json

namespace Value

/-! ## Reading -/

/-- An array or an object that is still open. What it holds so far is kept with
the last first. -/
inductive Frame where
  | array (items : List Value)
  /-- an object whose next member has this key -/
  | object (members : List (Option String × Value)) (key : Option String)

/-- What may come next, under the arrays and objects that are open. -/
inductive Progress where
  | anyValue (frames : List Frame)
  /-- the first item of an array, or its end -/
  | firstItem (frames : List Frame)
  /-- the first key of an object, or its end -/
  | firstKey (frames : List Frame)
  | nextKey (members : List (Option String × Value)) (frames : List Frame)
  | colonAfter (members : List (Option String × Value)) (key : Option String) (frames : List Frame)
  /-- whatever goes on after a value -/
  | after (value : Value) (frames : List Frame)

/-- Start a value. -/
def Progress.start (frames : List Frame) : Lexeme → Option Progress
  | .null => some (.after .null frames)
  | .bool b => some (.after (.bool b) frames)
  | .number numeral => some (.after (.number numeral) frames)
  | .string text => some (.after (.string text) frames)
  | .openArray => some (.firstItem frames)
  | .openObject => some (.firstKey frames)
  | _ => none

def Progress.take : Progress → Lexeme → Option Progress
  | .anyValue frames, lexeme => start frames lexeme
  | .firstItem frames, .closeArray => some (.after (.array []) frames)
  | .firstItem frames, lexeme => start (.array [] :: frames) lexeme
  | .firstKey frames, .closeObject => some (.after (.object []) frames)
  | .firstKey frames, .string key => some (.colonAfter [] key frames)
  | .nextKey members frames, .string key => some (.colonAfter members key frames)
  | .colonAfter members key frames, .colon => some (.anyValue (.object members key :: frames))
  | .after value (.array items :: frames), .comma =>
    some (.anyValue (.array (value :: items) :: frames))
  | .after value (.array items :: frames), .closeArray =>
    some (.after (.array (value :: items).reverse) frames)
  | .after value (.object members key :: frames), .comma =>
    some (.nextKey ((key, value) :: members) frames)
  | .after value (.object members key :: frames), .closeObject =>
    some (.after (.object ((key, value) :: members).reverse) frames)
  | _, _ => none

/-- Take lexemes until they end or one cannot be taken. -/
def Progress.takeAll : Progress → List Lexeme → Option Progress
  | progress, [] => some progress
  | progress, lexeme :: lexemes => (progress.take lexeme).bind fun next => next.takeAll lexemes

/-- The value of a sequence of lexemes, if it is exactly one. -/
def ofLexemes? (lexemes : List Lexeme) : Option Value :=
  match Progress.takeAll (.anyValue []) lexemes with
  | some (.after value []) => some value
  | _ => none

/-- The value that a text writes, blanks around it allowed. -/
def ofText? (text : String) : Option Value := (lexemes? text.toList).bind ofLexemes?

/-! ## Writing -/

mutual

def lexemes : Value → List Lexeme
  | null => [.null]
  | bool b => [.bool b]
  | number numeral => [.number numeral]
  | string text => [.string text]
  | array items => .openArray :: itemLexemes items
  | object members => .openObject :: memberLexemes members

/-- The items of an array, with the mark that closes it. -/
def itemLexemes : List Value → List Lexeme
  | [] => [.closeArray]
  | [item] => item.lexemes ++ [.closeArray]
  | item :: items => item.lexemes ++ .comma :: itemLexemes items

/-- The members of an object, with the mark that closes it. -/
def memberLexemes : List (Option String × Value) → List Lexeme
  | [] => [.closeObject]
  | [(key, value)] => .string key :: .colon :: (value.lexemes ++ [.closeObject])
  | (key, value) :: members =>
    .string key :: .colon :: (value.lexemes ++ .comma :: memberLexemes members)

end

def toText (v : Value) : String := String.ofList (v.lexemes.flatMap Lexeme.write)

end Value

/-! ## Whole numbers -/

/-- The whole number that digits write, without a fraction or an exponent, if sixty-four
bits can hold it. Zero with a sign is none. -/
def Numeral.toInt? (numeral : Numeral) : Option Int :=
  match numeral.literal with
  | '-' :: digits =>
    let n := Nat.ofDigitChars 10 digits 0
    if isWhole digits ∧ 0 < n ∧ n ≤ Nat.pow 2 63 then some (-(n : Int)) else none
  | digits =>
    let n := Nat.ofDigitChars 10 digits 0
    if isWhole digits ∧ n < Nat.pow 2 64 then some n else none

/-- A library for texts of any nesting. -/
@[reducible] def standard : Library := ⟨Value.toText, Value.ofText?, Numeral.toInt?⟩

end ResourceGuard.Json
