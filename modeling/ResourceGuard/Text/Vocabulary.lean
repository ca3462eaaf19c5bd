/-! # Closed sets of named values

Methods, message types, result codes and the like are small closed sets whose
members travel under fixed names. `Vocabulary` lists the members and names them;
its two laws make reading a name the inverse of writing it (`ofName?_name`). -/
namespace ResourceGuard

/-- A closed set of values, each under a name of its own. -/
class Vocabulary (α : Type) where
  /-- Every value of the set. -/
  all : List α
  /-- The name a value travels under. -/
  name : α → String
  /-- No value is left out of the list. -/
  mem_all : ∀ a, a ∈ all
  /-- No two values share a name. -/
  name_injective : ∀ a b, name a = name b → a = b

namespace Vocabulary

variable {α : Type} [Vocabulary α]

/-- The value of an exact name. -/
def ofName? (s : String) : Option α :=
  (all (α := α)).find? fun a => name a == s

theorem ofName?_name (a : α) : ofName? (name a) = some a := by
  unfold ofName?
  cases h : List.find? (fun b => name b == name a) (all (α := α)) with
  | none => simpa using List.find?_eq_none.1 h a (mem_all a)
  | some b => rw [name_injective b a (by simpa using List.find?_some h)]

theorem name_of_ofName? {s : String} {a : α} (h : ofName? s = some a) : name a = s := by
  simpa using List.find?_some h

end Vocabulary

end ResourceGuard
