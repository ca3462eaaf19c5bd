import ResourceGuard.Text.Hex
import ResourceGuard.Toml.Item

/-! # Numbers, dates and truth values of TOML

All of them are runs of letters, digits and a few signs, and nothing that could
lengthen a run may follow it. So a run is read as a whole: it is a value of one
of these kinds, or it is a mistake. -/
namespace ResourceGuard.Toml

/-- What a run can be made of. -/
def isRunPart (c : Char) : Bool := c.isAlphanum || "+-_.:".contains c

/-! ## Digits -/

/-- Digits with single underscores between them, and the underscores left out. -/
def digitRun? (isDigit : Char → Bool) : List Char → Option (List Char)
  | [] => none
  | [c] => if isDigit c then some [c] else none
  | c :: '_' :: rest =>
    if isDigit c then (digitRun? isDigit rest).map (c :: ·) else none
  | c :: rest => if isDigit c then (digitRun? isDigit rest).map (c :: ·) else none

/-- Decimal digits without needless zeros in front. -/
def wholeRun? (cs : List Char) : Option (List Char) :=
  (digitRun? Char.isDigit cs).filter fun digits => digits.length == 1 || digits.head? != some '0'

/-- The number that digits write in a base. -/
def ofDigits (base : Nat) (digits : List Char) : Nat :=
  digits.foldl (fun n c => base * n + (Hex.digitValue? c).getD 0) 0

/-- A number that may have a sign, and whether the sign is a minus. -/
def splitSign : List Char → Bool × List Char
  | '+' :: rest => (false, rest)
  | '-' :: rest => (true, rest)
  | cs => (false, cs)

/-! ## Integers -/

/-- The digits of a base that is given by its letter. -/
def based? : Char → Option (Nat × (Char → Bool))
  | 'x' => some (16, fun c => (Hex.digitValue? c).isSome)
  | 'o' => some (8, fun c => '0' ≤ c && c ≤ '7')
  | 'b' => some (2, fun c => c == '0' || c == '1')
  | _ => none

/-- An integer as written, of any size. -/
def unbounded? : List Char → Option Int
  | '0' :: letter :: rest =>
    match based? letter with
    | some (base, isDigit) =>
      (digitRun? isDigit rest).map fun digits => (ofDigits base digits : Int)
    | none => none
  | cs =>
    let (negative, digits) := splitSign cs
    (wholeRun? digits).map fun digits =>
      if negative then -(ofDigits 10 digits : Int) else (ofDigits 10 digits : Int)

/-- An integer that sixty-four bits with a sign can hold. -/
def integer? (cs : List Char) : Option Int :=
  (unbounded? cs).filter fun n => Int64.minValue.toInt ≤ n && n ≤ Int64.maxValue.toInt

/-! ## Fractional numbers -/

/-- A fractional number: its digits, without a point, and the power of ten that
they are to be multiplied by. -/
structure Decimal where
  digits : List Char
  scale : Int

/-- An exponent with its mark, or nothing at all. -/
def exponent? : List Char → Option Int
  | [] => some 0
  | mark :: rest =>
    if mark == 'e' || mark == 'E' then
      let (negative, digits) := splitSign rest
      (digitRun? Char.isDigit digits).map fun digits =>
        if negative then -(ofDigits 10 digits : Int) else (ofDigits 10 digits : Int)
    else none

def isExponentMark (c : Char) : Bool := c == 'e' || c == 'E'

/-- A number without its sign that has a fraction, an exponent or both. -/
def decimal? (cs : List Char) : Option Decimal := do
  let whole ← wholeRun? (cs.takeWhile fun c => c != '.' && !isExponentMark c)
  match cs.dropWhile fun c => c != '.' && !isExponentMark c with
  | [] => none
  | '.' :: rest =>
    let fraction ← digitRun? Char.isDigit (rest.takeWhile fun c => !isExponentMark c)
    let exponent ← exponent? (rest.dropWhile fun c => !isExponentMark c)
    return ⟨whole ++ fraction, exponent - fraction.length⟩
  | rest => return ⟨whole, ← exponent? rest⟩

/-- The least number that rounds to infinity in double precision: halfway between
the largest finite one and the next power of two. -/
def roundsToInfinity : Nat := (Nat.pow 2 54 - 1) * Nat.pow 2 970

/-- A number is beyond double precision. The count of its digits before the point
settles all cases but those close to the bound. -/
def Decimal.isInfinite (d : Decimal) : Bool :=
  let digits := d.digits.dropWhile (· == '0')
  let places : Int := digits.length + d.scale
  if digits.isEmpty || places < 300 then false
  else if places > 310 then true
  else if 0 ≤ d.scale then roundsToInfinity ≤ ofDigits 10 digits * Nat.pow 10 d.scale.toNat
  else roundsToInfinity * Nat.pow 10 (-d.scale).toNat ≤ ofDigits 10 digits

/-- A fractional number. One that is too large is refused, unless it is negative. -/
def isFloat (cs : List Char) : Bool :=
  let (negative, digits) := splitSign cs
  if digits == "inf".toList || digits == "nan".toList then true
  else match decimal? digits with
    | some d => negative || !d.isInfinite
    | none => false

/-! ## Dates and times -/

/-- A number of exactly so many digits, within bounds, and what follows it. -/
def field? (width low high : Nat) (cs : List Char) : Option (Nat × List Char) :=
  let digits := cs.take width
  if digits.length = width ∧ digits.all Char.isDigit then
    let n := ofDigits 10 digits
    if low ≤ n ∧ n ≤ high then some (n, cs.drop width) else none
  else none

/-- What follows a sign that has to be there. -/
def sign? (sign : Char) : List Char → Option (List Char)
  | c :: rest => if c = sign then some rest else none
  | [] => none

/-- A year with twenty-nine days in February. -/
def isLeapYear (year : Nat) : Bool :=
  year % 4 == 0 && (year % 100 != 0 || year % 400 == 0)

/-- How many days a month has. -/
def daysIn (year month : Nat) : Nat :=
  if month = 2 then if isLeapYear year then 29 else 28
  else if month = 4 ∨ month = 6 ∨ month = 9 ∨ month = 11 then 30
  else 31

/-- What follows a date. -/
def date? (cs : List Char) : Option (List Char) := do
  let (year, cs) ← field? 4 0 9999 cs
  let (month, cs) ← field? 2 1 12 (← sign? '-' cs)
  let (_, cs) ← field? 2 1 (daysIn year month) (← sign? '-' cs)
  return cs

/-- What follows a time of day, its seconds with a fraction or without. -/
def time? (cs : List Char) : Option (List Char) := do
  let (_, cs) ← field? 2 0 23 cs
  let (_, cs) ← field? 2 0 59 (← sign? ':' cs)
  let (_, cs) ← field? 2 0 60 (← sign? ':' cs)
  match cs with
  | '.' :: rest =>
    if (rest.takeWhile Char.isDigit).isEmpty then none else some (rest.dropWhile Char.isDigit)
  | _ => return cs

/-- Nothing, or the distance from universal time. -/
def isOffset (cs : List Char) : Bool :=
  match cs with
  | [] => true
  | ['Z'] | ['z'] => true
  | sign :: rest =>
    (sign == '+' || sign == '-') &&
      (do
        let (_, cs) ← field? 2 0 23 rest
        let (_, cs) ← field? 2 0 59 (← sign? ':' cs)
        return cs) == some []

/-- A date and nothing else. -/
def isDate (cs : List Char) : Bool := date? cs == some []

/-- A time of day with or without its distance from universal time. -/
def isZonedTime (cs : List Char) : Bool :=
  match time? cs with
  | some rest => isOffset rest
  | none => false

/-- A date, a time, or both with a letter between them. -/
def isDatetime (cs : List Char) : Bool :=
  match date? cs with
  | some [] => true
  | some (mark :: rest) => (mark == 'T' || mark == 't') && isZonedTime rest
  | none => time? cs == some []

/-! ## Runs -/

/-- The value that a run is. -/
def ofRun? (run : List Char) : Option Item :=
  if run = "true".toList then some (.boolean true)
  else if run = "false".toList then some (.boolean false)
  else if isDatetime run then some .datetime
  else if isFloat run then some .float
  else (integer? run).map .integer

/-- The value at the start of a text, and what follows it. A blank may stand
between a date and its time. -/
def scalar? (cs : List Char) : Option (Item × List Char) :=
  let run := cs.takeWhile isRunPart
  let rest := cs.dropWhile isRunPart
  match rest with
  | ' ' :: after =>
    if isDate run && (after.head?.any Char.isDigit) then
      if isZonedTime (after.takeWhile isRunPart) then
        some (.datetime, after.dropWhile isRunPart)
      else none
    else (ofRun? run).map (·, rest)
  | _ => (ofRun? run).map (·, rest)

end ResourceGuard.Toml
