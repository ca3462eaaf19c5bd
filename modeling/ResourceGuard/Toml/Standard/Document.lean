import ResourceGuard.Toml.Standard.Entries
import ResourceGuard.Toml.Standard.Scalar
import ResourceGuard.Toml.Standard.Text

/-! # A library of TOML texts

A document is read line by line into its entries: blank lines and comments,
headers, and keys with their values. A header says which table the keys after it
go to. Arrays and inline tables may nest, but not without end. -/
namespace ResourceGuard.Toml

/-- The text after blanks, line breaks and comments, which may all stand between
the items of an array. A comment has to end with its line. -/
def skipFiller? (inComment : Bool) : List Char → Option (List Char)
  | [] => if inComment then none else some []
  | '\n' :: rest => skipFiller? false rest
  | '\r' :: '\n' :: rest => skipFiller? false rest
  | c :: rest =>
    if inComment then if isPlain c then skipFiller? true rest else none
    else if isBlank c then skipFiller? false rest
    else if c = '#' then skipFiller? true rest
    else some (c :: rest)

/-- The items of an array after its opening bracket, and what follows the closing
one. A comma may stand after the last item. -/
def items? (value? : List Char → Option (Item × List Char)) (cs : List Char) :
    Option (List Item × List Char) :=
  match skipFiller? false cs with
  | none => none
  | some (']' :: rest) => some ([], rest)
  | some start =>
    match value? start with
    | none => none
    | some (item, rest) =>
      match skipFiller? false rest with
      | some (']' :: rest) => some ([item], rest)
      | some (',' :: rest) =>
        if rest.length < cs.length then
          (items? value? rest).map fun (items, rest) => (item :: items, rest)
        else none
      | _ => none
termination_by cs.length

/-- The entries of an inline table that has some, added to those before them, and
what follows the closing brace. -/
def inlineEntries? (value? : List Char → Option (Item × List Char)) (entries : Entries)
    (cs : List Char) : Option (Entries × List Char) :=
  match path? maxParts cs with
  | some ((path, key), '=' :: rest) =>
    match value? (skipBlanks rest) with
    | none => none
    | some (item, rest) =>
      match entries.assign? key item path with
      | none => none
      | some entries =>
        match skipBlanks rest with
        | ',' :: rest =>
          if rest.length < cs.length then inlineEntries? value? entries rest else none
        | rest => (sign? closeBrace rest).map (entries, ·)
  | _ => none
termination_by cs.length

/-- A value, and what follows it; arrays and inline tables nest to this depth. -/
def value? (depth : Nat) (cs : List Char) : Option (Item × List Char) :=
  match cs with
  | [] => none
  | c :: rest =>
    if c = '[' then
      match depth with
      | 0 => none
      | depth + 1 =>
        (items? (value? depth) rest).map fun (items, rest) => (.array items, rest)
    else if c = openBrace then
      match depth with
      | 0 => none
      | depth + 1 =>
        match sign? closeBrace (skipBlanks rest) with
        | some rest => some (.inlineTable [], rest)
        | none =>
          (inlineEntries? (value? depth) [] (skipBlanks rest)).map fun (entries, rest) =>
            (.inlineTable entries, rest)
    else if c = quote ∨ c = apostrophe then
      (text? (c :: rest)).map fun (text, rest) => (.string (String.ofList text), rest)
    else scalar? (c :: rest)

/-- How deep arrays and inline tables may nest. -/
def maxDepth : Nat := 79

/-! ## Lines -/

/-- What follows the end of a line, or of the document. -/
def lineBreak? (cs : List Char) : Option (List Char) :=
  if cs.isEmpty then some [] else newline? cs

/-- What follows the rest of a line on which nothing but a comment is left. -/
def endLine? (cs : List Char) : Option (List Char) :=
  match skipBlanks cs with
  | '#' :: rest => lineBreak? (rest.dropWhile isPlain)
  | rest => lineBreak? rest

/-- What has been read of a document: its entries, and the path of the table that
the last header names. -/
structure Document where
  entries : Entries := []
  header : List String := []

namespace Document

/-- A header: the keys after it go to a table of its own. -/
def table? (d : Document) (cs : List Char) : Option (Document × List Char) := do
  let ((path, key), rest) ← path? maxParts cs
  let rest ← (sign? ']' rest).bind endLine?
  let entries ← d.entries.change? (Entries.declare? key) path
  return (⟨entries, path ++ [key]⟩, rest)

/-- A header in two brackets: the keys after it go to a new table of an array. -/
def tableArray? (d : Document) (cs : List Char) : Option (Document × List Char) := do
  let ((path, key), rest) ← path? maxParts cs
  let rest ← ((sign? ']' rest).bind (sign? ']')).bind endLine?
  let entries ← d.entries.change? (Entries.extend? key) path
  return (⟨entries, path ++ [key]⟩, rest)

/-- A key and its value. -/
def assignment? (d : Document) (cs : List Char) : Option (Document × List Char) := do
  let ((path, key), rest) ← path? maxParts cs
  let (item, rest) ← value? maxDepth (skipBlanks (← sign? '=' rest))
  let rest ← endLine? rest
  let entries ← d.entries.change? (Entries.assign? key item path) d.header
  return ({ d with entries }, rest)

/-- One line with something on it, or the blank rest of one. -/
def line? (d : Document) (cs : List Char) : Option (Document × List Char) :=
  match cs with
  | '[' :: '[' :: rest => d.tableArray? rest
  | '[' :: rest => d.table? rest
  | '#' :: _ | '\n' :: _ | '\r' :: _ => (endLine? cs).map (d, ·)
  | _ => d.assignment? cs

/-- Line after line until the text ends. -/
def lines? (d : Document) (cs : List Char) : Option Document :=
  match skipBlanks cs with
  | [] => some d
  | start =>
    match d.line? start with
    | none => none
    | some (d, rest) => if rest.length < cs.length then d.lines? rest else none
termination_by cs.length

end Document

/-- The entries of a document. A byte order mark at its start is passed over. -/
def ofText? (text : String) : Option Entries :=
  let cs := match text.toList with
    | '\ufeff' :: rest => rest
    | cs => cs
  (Document.lines? {} cs).map Document.entries

def isEmptyItem : Item → Bool
  | .array [] | .inlineTable [] | .table _ [] => true
  | _ => false

/-- A library that has nothing to say of what it refuses. -/
@[reducible] def standard : Library := ⟨ofText?, fun _ => "", isEmptyItem⟩

end ResourceGuard.Toml
