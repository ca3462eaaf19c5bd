import Mathlib.Algebra.Group.Int.Defs
import ResourceGuard.Text.Signs
import ResourceGuard.Toml.Item

/-! # What is relied on of a library of TOML texts

Only the plainest documents count: every line gives one name one value, a whole
number in decimal or a name between quotes, and no two lines the same name. Such a
document has these names with these values, in their order. Numbers are those of
sixty-four bits with a sign; a document with any other is refused. -/
namespace ResourceGuard.Toml

/-- A name of letters, digits and underscores. -/
structure PlainName where
  text : String
  plain : ∀ c ∈ text.toList, c.isAlphanum = true ∨ c = '_'

/-- A text that needs no escape, between quotes. -/
def quoted (text : String) : String := String.ofList (quote :: text.toList ++ [quote])

/-- A value that is written plainly. -/
inductive PlainValue where
  | integer (n : Int)
  | string (name : PlainName)

namespace PlainValue

def written : PlainValue → String
  | integer n => toString n
  | string name => quoted name.text

/-- What the value is read as, if it is a value at all. -/
def item? : PlainValue → Option Item
  | integer n => if -2 ^ 63 ≤ n ∧ n < 2 ^ 63 then some (.integer n) else none
  | string name => some (.string name.text)

end PlainValue

/-- A line that gives a name a value. -/
structure Line where
  key : PlainName
  value : PlainValue
  key_ne_nil : key.text.toList ≠ []

namespace Line

def text (line : Line) : String := line.key.text ++ " = " ++ line.value.written

def pair? (line : Line) : Option (String × Item) := line.value.item?.map (line.key.text, ·)

end Line

/-- How a line may end. -/
inductive Newline where
  | lf
  | crlf
  deriving DecidableEq

def Newline.text : Newline → String
  | lf => "\n"
  | crlf => "\r\n"

/-- Lines one after another; the last one may end with the text. -/
def ofLines (newline : Newline) (ended : Bool) (lines : List String) : String :=
  newline.text.intercalate lines ++ if ended then newline.text else ""

/-- What is relied on of a library. -/
class Library.Lawful [Library] : Prop where
  read?_ofLines : ∀ (newline : Newline) (ended : Bool) (lines : List Line),
    (lines.map (·.key.text)).Nodup →
      read? (ofLines newline ended (lines.map Line.text)) = lines.mapM Line.pair?

export Library.Lawful (read?_ofLines)

end ResourceGuard.Toml
