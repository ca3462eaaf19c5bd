import ResourceGuard.Json.Number
import ResourceGuard.Text.Hex
import ResourceGuard.Text.Signs

/-! # Lexemes of JSON

A JSON text is blanks and lexemes: marks, words, numbers and strings. A string
with an escape that stands for half a character has no text; it is a lexeme all
the same, because a member that nobody reads may hold one. -/
namespace ResourceGuard.Json

/-- The smallest parts of a JSON text. -/
inductive Lexeme where
  | openArray
  | closeArray
  | openObject
  | closeObject
  | comma
  | colon
  | null
  | bool (value : Bool)
  | number (numeral : Numeral)
  /-- a string, if some text is what it stands for -/
  | string (text : Option String)
  deriving DecidableEq

/-- What a number can be made of; no other lexeme may touch it. -/
def isNumberPart (c : Char) : Bool := c.isDigit || c == '+' || c == '-' || c == '.' || c.isAlpha

/-! ## Strings -/

/-- The escapes of one letter, and what they stand for. -/
def shortEscapes : List (Char × Char) :=
  [(quote, quote), ('\\', '\\'), ('/', '/'), ('b', '\x08'), ('f', '\x0c'), ('n', '\n'),
    ('r', '\r'), ('t', '\t')]

/-- The number that four hexadecimal digits write. -/
def fourDigits? (a b c d : Char) : Option Nat := do
  let a ← Hex.digitValue? a
  let b ← Hex.digitValue? b
  let c ← Hex.digitValue? c
  let d ← Hex.digitValue? d
  return 4096 * a + 256 * b + 16 * c + d

/-- The code points of a string up to its closing quote, escapes resolved one by
one, and what comes after the quote. -/
def scanString : List Char → Option (List Nat × List Char)
  | [] => none
  | '\\' :: 'u' :: a :: b :: c :: d :: rest =>
    match fourDigits? a b c d with
    | some code => (scanString rest).map fun scanned => (code :: scanned.1, scanned.2)
    | none => none
  | '\\' :: e :: rest =>
    match shortEscapes.lookup e with
    | some c => (scanString rest).map fun scanned => (c.toNat :: scanned.1, scanned.2)
    | none => none
  | c :: rest =>
    if c = quote then some ([], rest)
    else if c = '\\' ∨ c.toNat < 32 then none
    else (scanString rest).map fun scanned => (c.toNat :: scanned.1, scanned.2)

/-- The first half of a character outside the basic plane. -/
def isHighSurrogate (code : Nat) : Bool := 0xD800 ≤ code && code < 0xDC00

/-- The second half of a character outside the basic plane. -/
def isLowSurrogate (code : Nat) : Bool := 0xDC00 ≤ code && code < 0xE000

/-- Put halves together; `none` when one stands alone. -/
def joinHalves? : List Nat → Option (List Char)
  | [] => some []
  | [code] =>
    if isHighSurrogate code || isLowSurrogate code then none else some [Char.ofNat code]
  | code :: next :: rest =>
    if isHighSurrogate code then
      if isLowSurrogate next then
        (joinHalves? rest).map
          (Char.ofNat (0x10000 + 1024 * (code - 0xD800) + (next - 0xDC00)) :: ·)
      else none
    else if isLowSurrogate code then none
    else (joinHalves? (next :: rest)).map (Char.ofNat code :: ·)

/-! ## Reading -/

def isBlank (c : Char) : Bool := c == ' ' || c == '\n' || c == '\t' || c == '\r'

def word? (cs : List Char) : Option Lexeme :=
  if cs = "null".toList then some .null
  else if cs = "true".toList then some (.bool true)
  else if cs = "false".toList then some (.bool false)
  else none

def run? (cs : List Char) : Option Lexeme :=
  if h : isNumber cs = true then some (.number ⟨cs, h⟩) else word? cs

/-- The lexemes that are one mark. -/
def mark? (c : Char) : Option Lexeme :=
  if c = '[' then some .openArray
  else if c = ']' then some .closeArray
  else if c = openBrace then some .openObject
  else if c = closeBrace then some .closeObject
  else if c = ',' then some .comma
  else if c = ':' then some .colon
  else none

theorem length_of_scanString {cs : List Char} {codes : List Nat} {rest : List Char}
    (h : scanString cs = some (codes, rest)) : rest.length < cs.length := by
  fun_induction scanString cs generalizing codes rest <;>
    grind [Option.map_eq_some_iff]

def lexemes? (cs : List Char) : Option (List Lexeme) :=
  match cs with
  | [] => some []
  | c :: rest =>
    if isBlank c then lexemes? rest
    else if c = quote then
      match h : scanString rest with
      | none => none
      | some (codes, after) =>
        have : after.length < rest.length := length_of_scanString h
        (lexemes? after).map (.string ((joinHalves? codes).map String.ofList) :: ·)
    else
      match mark? c with
      | some mark => (lexemes? rest).map (mark :: ·)
      | none =>
        have : (rest.dropWhile isNumberPart).length ≤ rest.length :=
          (List.dropWhile_suffix _).length_le
        do
          let lexeme ← run? (c :: rest.takeWhile isNumberPart)
          let others ← lexemes? (rest.dropWhile isNumberPart)
          return lexeme :: others
termination_by cs.length
decreasing_by all_goals simp_all <;> omega

/-! ## Writing -/

/-- One character of a string, escaped where it has to be. -/
def escape (c : Char) : List Char :=
  if c = quote ∨ c = '\\' then ['\\', c]
  else if c = '\x08' then ['\\', 'b']
  else if c = '\x0c' then ['\\', 'f']
  else if c = '\n' then ['\\', 'n']
  else if c = '\r' then ['\\', 'r']
  else if c = '\t' then ['\\', 't']
  else if c.toNat < 32 then
    ['\\', 'u', '0', '0', Nat.digitChar (c.toNat / 16), Nat.digitChar (c.toNat % 16)]
  else [c]

/-- A lexeme as text. A string without a text is written as half a character. -/
def Lexeme.write : Lexeme → List Char
  | openArray => ['[']
  | closeArray => [']']
  | openObject => [openBrace]
  | closeObject => [closeBrace]
  | comma => [',']
  | colon => [':']
  | null => "null".toList
  | bool true => "true".toList
  | bool false => "false".toList
  | number numeral => numeral.literal
  | string (some text) => quote :: text.toList.flatMap escape ++ [quote]
  | string none => quote :: "\\ud800".toList ++ [quote]

end ResourceGuard.Json
