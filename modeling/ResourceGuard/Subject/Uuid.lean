import ResourceGuard.Subject
import ResourceGuard.Text.Hex

/-! # Subjects as UUID text

A subject travels as the text of a UUID: thirty-two hexadecimal digits in five
groups with hyphens between them. A library writes and reads these texts.
`Uuid.Library` is what is used of it, and whatever is said of texts of subjects
is said for any library. `Uuid.Library.Lawful` is what is relied on: that it writes the
hyphenated form and reads that form back. Other forms it may take as well. -/
namespace ResourceGuard

namespace Uuid

/-- Digits in each of the five groups. -/
def groupWidths : List Nat := [8, 4, 4, 4, 12]

/-- Cut the digits into groups and put hyphens between them. -/
def hyphenate : List Nat → List Char → List Char
  | [], _ => []
  | [width], digits => digits.take width
  | width :: widths, digits =>
    digits.take width ++ '-' :: hyphenate widths (digits.drop width)

/-- The hyphenated form of sixteen bytes, in lower case. -/
def hyphenated (s : SubjectId) : String :=
  String.ofList (hyphenate groupWidths (Hex.encode s.bytes))

/-- What a library of UUIDs does. -/
class Library where
  write : SubjectId → String
  read? : String → Option SubjectId

/-- A library keeps to the hyphenated form. -/
class Library.Lawful [Library] : Prop where
  write_eq : ∀ s, Library.write s = hyphenated s
  read?_hyphenated : ∀ s, Library.read? (hyphenated s) = some s

end Uuid

namespace SubjectId

variable [Uuid.Library]

/-- The text of a subject. -/
def uuid (s : SubjectId) : String := Uuid.Library.write s

/-- The subject of a text. -/
def ofUuid? (text : String) : Option SubjectId := Uuid.Library.read? text

theorem ofUuid?_uuid [Uuid.Library.Lawful] (s : SubjectId) : ofUuid? s.uuid = some s := by
  rw [ofUuid?, uuid, Uuid.Library.Lawful.write_eq, Uuid.Library.Lawful.read?_hyphenated]

theorem uuid_injective [Uuid.Library.Lawful] : Function.Injective uuid := by
  intro a b h
  have hread := ofUuid?_uuid a
  rw [h, ofUuid?_uuid b] at hread
  exact (Option.some.inj hread).symm

end SubjectId

end ResourceGuard
