/-! # Permissions and resource properties

Both are bit sets. A permission says which of create, read, update, delete and
notify a subject holds or wants; properties say how a resource was registered.
Bits without a meaning are kept when a set is taken as it is and dropped by
`Permission.truncate`. -/
namespace ResourceGuard

/-- A set of the five operations on a resource. -/
structure Permission where
  bits : UInt16
  deriving DecidableEq, Inhabited

namespace Permission

def none : Permission := ⟨0⟩
def create : Permission := ⟨1⟩
def read : Permission := ⟨2⟩
def write : Permission := ⟨4⟩
def delete : Permission := ⟨8⟩
def observe : Permission := ⟨16⟩
def full : Permission := ⟨31⟩

/-- The set of these bits, those without a meaning left out. -/
def truncate (bits : UInt16) : Permission := ⟨bits &&& full.bits⟩

/-- Every member of `q` is one of `p`. -/
def contains (p q : Permission) : Bool := p.bits &&& q.bits == q.bits

/-- The members of either set. -/
def union (p q : Permission) : Permission := ⟨p.bits ||| q.bits⟩

/-- The letter of each operation, in the order in which they are written. -/
def letters : List (Permission × Char) :=
  [(create, 'C'), (read, 'R'), (write, 'U'), (delete, 'D'), (observe, 'N')]

/-- Five characters, a letter for an operation that is in the set and a dash for
one that is not. -/
def text (p : Permission) : String :=
  String.ofList (letters.map fun (flag, letter) => if p.contains flag then letter else '-')

end Permission

/-- How a resource was registered. -/
structure ResourceProperties where
  bits : UInt8
  deriving DecidableEq, Inhabited

namespace ResourceProperties

def none : ResourceProperties := ⟨0⟩
def discoverable : ResourceProperties := ⟨1⟩
def observable : ResourceProperties := ⟨2⟩
def active : ResourceProperties := ⟨4⟩
def slow : ResourceProperties := ⟨8⟩
/-- Only to be reached over an authenticated channel. -/
def secure : ResourceProperties := ⟨16⟩
def explicitlyDiscoverable : ResourceProperties := ⟨32⟩

/-- Every property in `q` is one in `p`. -/
def contains (p q : ResourceProperties) : Bool := p.bits &&& q.bits == q.bits

/-- The properties of either set. -/
def union (p q : ResourceProperties) : ResourceProperties := ⟨p.bits ||| q.bits⟩

/-- The resource is only to be reached over an authenticated channel. -/
def isSecure (p : ResourceProperties) : Bool := p.contains secure

end ResourceProperties

end ResourceGuard
