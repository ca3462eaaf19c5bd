import ResourceGuard.Config
import ResourceGuard.Toml.Item
import ResourceGuard.Unsigned

/-! # Configuration from text and from files

Settings are read from a TOML document. Keys that are no setting are not looked
at, and a setting that is left out has its usual value. A file that cannot be
read is a fault of its own. -/
namespace ResourceGuard

namespace Config

variable [Unsigned.Library] [Toml.Library]

/-- A limit is a number without a sign. -/
def limitOf? : Toml.Item → Option UInt64
  | .integer n => (Unsigned.ofInt? UInt64.size n).map UInt64.ofNat
  | _ => none

/-- A policy is named by a text, or by the one key of a table, with nothing under
it. -/
def policyOf? : Toml.Item → Option BusyPolicy
  | .string name => Vocabulary.ofName? name
  | .inlineTable [(name, item)] | .table _ [(name, item)] =>
    if Toml.isNothing item then Vocabulary.ofName? name else none
  | _ => none

/-- A setting from the entries of a document, or its usual value. -/
def setting? {α : Type} (entries : Toml.Entries) (key : String) (read : Toml.Item → Option α)
    (usual : α) : Option α :=
  match entries.lookup key with
  | some item => read item
  | none => some usual

/-- The settings in the entries of a document. -/
def ofEntries? (entries : Toml.Entries) : Option Config := do
  let usual : Config := {}
  return { maxUriLength := ← setting? entries "max_uri_length" limitOf? usual.maxUriLength,
           busyPolicy := ← setting? entries "busy_request_policy" policyOf? usual.busyPolicy }

/-- A valid configuration from a TOML text. -/
def ofToml (text : String) : Except Refusal Config :=
  match (Toml.read? text).bind ofEntries? with
  | some config => config.validate
  | none => .error (.malformed (Toml.complaint text))

end Config

/-- A file that could not be read. -/
structure FileFailure where
  absent : Bool
  message : String
  deriving DecidableEq

namespace FileFailure

/-- The path leads nowhere. -/
def noSuchFile : FileFailure := ⟨true, "No such file or directory (os error 2)"⟩

/-- The path leads to a directory. -/
def isDirectory : FileFailure := ⟨false, "Is a directory (os error 21)"⟩

/-- The bytes of the file are no text. -/
def notText : FileFailure := ⟨false, "stream did not contain valid UTF-8"⟩

/-- A file that is not there is not found; any other failure is the storage's. -/
def fault (f : FileFailure) : Fault := ⟨if f.absent then .notFound else .storage, f.message⟩

end FileFailure

namespace Config

/-- A configuration from what reading a file gave. -/
def ofFile [Unsigned.Library] [Toml.Library] (content : Except FileFailure (List UInt8)) :
    Except Fault Config :=
  match content with
  | .error failure => .error failure.fault
  | .ok bytes =>
    match String.fromUTF8? ⟨bytes.toArray⟩ with
    | none => .error FileFailure.notText.fault
    | some text => (ofToml text).mapError Refusal.fault

end Config

end ResourceGuard
