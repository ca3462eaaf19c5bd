import ResourceGuard.Toml.Item

/-! # Adding to a TOML document

What may still be added to a table depends on how it came to be, so every table
keeps its origin. An inline table is finished where it stands. -/
namespace ResourceGuard.Toml.Entries

/-- Put another item under a key that is there. -/
def replace (entries : Entries) (key : String) (item : Item) : Entries :=
  entries.map fun entry => if entry.1 == key then (key, item) else entry

/-- Put an item under a key that is not there yet. -/
def add? (entries : Entries) (key : String) (item : Item) : Option Entries :=
  match entries.lookup key with
  | none => some (entries ++ [(key, item)])
  | some _ => none

/-- Put an item under a dotted key. The tables on the way are made as needed; one
with a header of its own, or an item that is no table, is in the way, and so is
a last table that no dotted key has made. -/
def assign? (key : String) (item : Item) : List String → Entries → Option Entries
  | [], entries => entries.add? key item
  | name :: path, entries =>
    match entries.lookup name with
    | none =>
      (assign? key item path []).map fun inner => entries ++ [(name, .table .dotted inner)]
    | some (.table .dotted inner) =>
      (assign? key item path inner).map fun inner => entries.replace name (.table .dotted inner)
    | some (.table .implied inner) =>
      if path.isEmpty then none
      else (assign? key item path inner).map fun inner =>
        entries.replace name (.table .implied inner)
    | some (.tables earlier latest) =>
      if path.isEmpty then none
      else (assign? key item path latest).map fun latest =>
        entries.replace name (.tables earlier latest)
    | some _ => none

/-- Change the table that a header's path leads to. The tables on the way are made
as needed. -/
def change? (f : Entries → Option Entries) : List String → Entries → Option Entries
  | [], entries => f entries
  | name :: path, entries =>
    match entries.lookup name with
    | none => (change? f path []).map fun inner => entries ++ [(name, .table .implied inner)]
    | some (.table origin inner) =>
      (change? f path inner).map fun inner => entries.replace name (.table origin inner)
    | some (.tables earlier latest) =>
      (change? f path latest).map fun latest => entries.replace name (.tables earlier latest)
    | some _ => none

/-- Give a table its own header, which it may have once. -/
def declare? (key : String) (entries : Entries) : Option Entries :=
  match entries.lookup key with
  | none => some (entries ++ [(key, .table .declared [])])
  | some (.table .implied inner) => some (entries.replace key (.table .declared inner))
  | some _ => none

/-- Begin another table of an array of tables. -/
def extend? (key : String) (entries : Entries) : Option Entries :=
  match entries.lookup key with
  | none => some (entries ++ [(key, .tables [] [])])
  | some (.tables earlier latest) => some (entries.replace key (.tables (earlier ++ [latest]) []))
  | some _ => none

end ResourceGuard.Toml.Entries
