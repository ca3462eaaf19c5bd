import ResourceGuard.Text.Hex

/-! # Subjects

A subject is the sixteen-byte identity that a peer presented when its channel
was set up. All sixteen bytes zero means that no identity was presented: the
channel is a plain one, and the subject is anonymous. Subjects are ordered by
their bytes. -/
namespace ResourceGuard

/-- The identity of a peer: exactly sixteen bytes. -/
structure SubjectId where
  bytes : List UInt8
  length_bytes : bytes.length = 16
  deriving DecidableEq

namespace SubjectId

/-- The subject of these bytes, provided that there are sixteen of them. -/
def ofBytes? (bytes : List UInt8) : Option SubjectId :=
  if h : bytes.length = 16 then some ⟨bytes, h⟩ else none

theorem ofBytes?_bytes (s : SubjectId) : ofBytes? s.bytes = some s := by
  simp [ofBytes?, s.length_bytes]

/-- One byte, sixteen times over. -/
def replicate (b : UInt8) : SubjectId := ⟨List.replicate 16 b, by simp⟩

/-- The subject of a channel on which no identity was presented. -/
def anonymous : SubjectId := replicate 0

instance : Inhabited SubjectId := ⟨anonymous⟩

/-- No identity was presented. -/
def isAnonymous (s : SubjectId) : Bool := s == anonymous

/-- The request came over an authenticated channel. -/
def onSecureChannel (s : SubjectId) : Bool := !s.isAnonymous

theorem isAnonymous_iff (s : SubjectId) : s.isAnonymous = true ↔ s = anonymous := by
  simp [isAnonymous]

/-- Comparison by bytes, the first byte first. -/
def precedes (a b : SubjectId) : Bool := decide (a.bytes ≤ b.bytes)

/-- Ascending order; equal subjects all stay. -/
def sort (subjects : List SubjectId) : List SubjectId := subjects.mergeSort precedes

end SubjectId

end ResourceGuard
