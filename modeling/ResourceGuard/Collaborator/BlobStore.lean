import ResourceGuard.Fault
import Std.Data.HashMap

/-! # Named blobs

A store keeps the last bytes written under each name. Reading or removing a
name that holds nothing is a fault that carries the name. -/
namespace ResourceGuard

/-- Bytes by name. -/
structure BlobStore where
  blobs : Std.HashMap String (List UInt8) := {}

namespace BlobStore

/-- What is said of a name that holds nothing. -/
def absent (name : String) : Fault := ⟨.notFound, name⟩

/-- The bytes under a name. -/
def read (s : BlobStore) (name : String) : Except Fault (List UInt8) :=
  match s.blobs[name]? with
  | some data => .ok data
  | none => .error (absent name)

/-- Put bytes under a name, over whatever was there. -/
def write (s : BlobStore) (name : String) (data : List UInt8) : BlobStore :=
  ⟨s.blobs.insert name data⟩

/-- Remove a name and its bytes. -/
def unlink (s : BlobStore) (name : String) : Except Fault BlobStore :=
  match s.blobs[name]? with
  | some _ => .ok ⟨s.blobs.erase name⟩
  | none => .error (absent name)

end BlobStore

end ResourceGuard
