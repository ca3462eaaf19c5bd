/-! # TOML documents and their texts

A document is a table: entries under keys, in their order. The texts of documents
are read by a library. `Toml.Library` is what is used of it, and whatever is said
of texts is said for any library. -/
namespace ResourceGuard.Toml

/-- How a table came to be. -/
inductive Origin where
  | declared
  /-- by the header of a table inside it -/
  | implied
  | dotted
  deriving DecidableEq

/-- What can stand under a key. Of fractional numbers and of dates only that they
are there is kept. -/
inductive Item where
  | string (text : String)
  | integer (value : Int)
  | float
  | boolean (value : Bool)
  | datetime
  | array (items : List Item)
  | inlineTable (entries : List (String × Item))
  | table (origin : Origin) (entries : List (String × Item))
  /-- an array of tables made by headers; headers and keys add to the latest -/
  | tables (earlier : List (List (String × Item))) (latest : List (String × Item))

abbrev Entries := List (String × Item)

/-- What a library of TOML texts does. -/
class Library where
  /-- The entries of a document. -/
  read? : String → Option Entries
  /-- What is said of a text that is refused. -/
  complaint : String → String
  /-- The item stands for nothing, where nothing is expected. -/
  isNothing : Item → Bool

export Library (read? complaint isNothing)

end ResourceGuard.Toml
