import ResourceGuard.Text.Hex
import ResourceGuard.Text.Signs

/-! # Texts and keys of TOML

A basic text has escapes, a literal one has none; either may run over several
lines when its quotes are tripled. A key is bare, or a text on one line, and keys
joined by dots make a path. -/
namespace ResourceGuard.Toml

def isBlank (c : Char) : Bool := c == ' ' || c == '\t'

/-- What may stand in a line as it is: all but control characters, a tab being
none. -/
def isPlain (c : Char) : Bool := c == '\t' || (32 ≤ c.toNat && c.toNat != 127)

/-- The text after the blanks at its start. -/
def skipBlanks (cs : List Char) : List Char := cs.dropWhile isBlank

def newline? : List Char → Option (List Char)
  | '\n' :: rest => some rest
  | '\r' :: '\n' :: rest => some rest
  | _ => none

/-! ## Texts -/

/-- The escapes of one letter, and what they stand for. -/
def shortEscapes : List (Char × Char) :=
  [('b', '\x08'), ('t', '\t'), ('n', '\n'), ('f', '\x0c'), ('r', '\r'), (quote, quote),
    ('\\', '\\')]

/-- The character with the number that hexadecimal digits write, if there is one. -/
def codePoint? (digits : List Char) : Option Char := do
  let values ← digits.mapM Hex.digitValue?
  let n := values.foldl (fun n d => 16 * n + d) 0
  if n.isValidChar then some (Char.ofNat n) else none

/-- A text with one more character in front. -/
def withChar (c : Char) : Option (List Char × List Char) → Option (List Char × List Char)
  | some (text, rest) => some (c :: text, rest)
  | none => none

/-- An escape after its backslash, and what follows it. -/
def escape? : List Char → Option (Char × List Char)
  | 'u' :: rest =>
    if rest.length < 4 then none else (codePoint? (rest.take 4)).map (·, rest.drop 4)
  | 'U' :: rest =>
    if rest.length < 8 then none else (codePoint? (rest.take 8)).map (·, rest.drop 8)
  | c :: rest => (shortEscapes.lookup c).map (·, rest)
  | [] => none

theorem length_of_escape {cs rest : List Char} {c : Char} (h : escape? cs = some (c, rest)) :
    rest.length < cs.length := by
  unfold escape? at h
  split at h <;> grind [Option.map_eq_some_iff]

/-- A basic text on one line, after its opening quote, and what follows it. -/
def basic? (cs : List Char) : Option (List Char × List Char) :=
  match cs with
  | [] => none
  | c :: rest =>
    if c = quote then some ([], rest)
    else if c = '\\' then
      match h : escape? rest with
      | none => none
      | some (escaped, after) =>
        have : after.length < rest.length := length_of_escape h
        withChar escaped (basic? after)
    else if isPlain c then withChar c (basic? rest)
    else none
termination_by cs.length

/-- A literal text on one line, after its opening quote, and what follows it. -/
def literal? : List Char → Option (List Char × List Char)
  | [] => none
  | c :: rest =>
    if c = apostrophe then some ([], rest)
    else if isPlain c then withChar c (literal? rest)
    else none

/-- The end of a text over several lines: three quotes, and up to two more before
them that belong to the text. -/
def tripled? (mark : Char) (cs : List Char) : Option (List Char × List Char) :=
  let count := (cs.takeWhile (· == mark)).length
  if count < 3 then none
  else
    let own := min (count - 3) 2
    some (List.replicate own mark, cs.drop (own + 3))

/-- The text after the blanks and line breaks at its start. -/
def skipSpace : List Char → List Char
  | '\n' :: rest => skipSpace rest
  | '\r' :: '\n' :: rest => skipSpace rest
  | ' ' :: rest => skipSpace rest
  | '\t' :: rest => skipSpace rest
  | cs => cs

theorem length_skipSpace (cs : List Char) : (skipSpace cs).length ≤ cs.length := by
  fun_induction skipSpace cs <;> grind

/-- What follows a line break that a backslash takes back: blanks before it, and
all space after it. -/
def continuation? (cs : List Char) : Option (List Char) :=
  (newline? (skipBlanks cs)).map skipSpace

theorem length_of_newline {cs rest : List Char} (h : newline? cs = some rest) :
    rest.length < cs.length := by
  unfold newline? at h
  split at h <;> grind

theorem length_skipBlanks (cs : List Char) : (skipBlanks cs).length ≤ cs.length :=
  (List.dropWhile_suffix _).length_le

theorem length_of_continuation {cs rest : List Char} (h : continuation? cs = some rest) :
    rest.length < cs.length := by
  obtain ⟨after, hnew, rfl⟩ := Option.map_eq_some_iff.1 h
  have := length_of_newline hnew
  have := length_skipBlanks cs
  have := length_skipSpace after
  omega

/-- A basic text over several lines, after its opening quotes and the line break
that may follow them. Every line break counts as one character. -/
def multilineBasic? (cs : List Char) : Option (List Char × List Char) :=
  match tripled? quote cs with
  | some ended => some ended
  | none =>
    match cs with
    | [] => none
    | '\r' :: '\n' :: rest => withChar '\n' (multilineBasic? rest)
    | c :: rest =>
      if c = '\\' then
        match hc : continuation? rest with
        | some after =>
          have : after.length < rest.length := length_of_continuation hc
          multilineBasic? after
        | none =>
          match he : escape? rest with
          | none => none
          | some (escaped, after) =>
            have : after.length < rest.length := length_of_escape he
            withChar escaped (multilineBasic? after)
      else if c = '\n' ∨ isPlain c then withChar c (multilineBasic? rest)
      else none
termination_by cs.length

/-- A literal text over several lines, after its opening quotes and the line break
that may follow them. Every line break counts as one character. -/
def multilineLiteral? (cs : List Char) : Option (List Char × List Char) :=
  match tripled? apostrophe cs with
  | some ended => some ended
  | none =>
    match cs with
    | [] => none
    | '\r' :: '\n' :: rest => withChar '\n' (multilineLiteral? rest)
    | c :: rest =>
      if c = '\n' ∨ isPlain c then withChar c (multilineLiteral? rest) else none
termination_by cs.length

/-- The text without the line break at its start, if there is one. -/
def afterBreak (cs : List Char) : List Char := (newline? cs).getD cs

/-- A text of any of the four forms, and what follows it. -/
def text? : List Char → Option (List Char × List Char)
  | [] => none
  | c :: rest =>
    if c = quote then
      if [quote, quote].isPrefixOf rest then multilineBasic? (afterBreak (rest.drop 2))
      else basic? rest
    else if c = apostrophe then
      if [apostrophe, apostrophe].isPrefixOf rest then multilineLiteral? (afterBreak (rest.drop 2))
      else literal? rest
    else none

/-! ## Keys -/

/-- What a bare key is made of. -/
def isBare (c : Char) : Bool := c.isAlphanum || c == '_' || c == '-'

/-- A bare key, and what follows it. -/
def bareKey? (cs : List Char) : Option (String × List Char) :=
  let bare := cs.takeWhile isBare
  if bare.isEmpty then none else some (String.ofList bare, cs.dropWhile isBare)

/-- One key, and what follows it. -/
def key? : List Char → Option (String × List Char)
  | [] => none
  | c :: rest =>
    if c = quote then (basic? rest).map fun (text, rest) => (String.ofList text, rest)
    else if c = apostrophe then (literal? rest).map fun (text, rest) => (String.ofList text, rest)
    else bareKey? (c :: rest)

/-- The parts of a dotted key before the last one, the last one, and what follows
the key. A key may have so many parts and no more. -/
def path? : Nat → List Char → Option ((List String × String) × List Char)
  | 0, _ => none
  | parts + 1, cs =>
    match key? (skipBlanks cs) with
    | none => none
    | some (name, rest) =>
      match skipBlanks rest with
      | '.' :: rest =>
        (path? parts rest).map fun ((names, last), rest) => ((name :: names, last), rest)
      | rest => some (([], name), rest)

/-- How many parts a dotted key may have. -/
def maxParts : Nat := 79

end ResourceGuard.Toml
