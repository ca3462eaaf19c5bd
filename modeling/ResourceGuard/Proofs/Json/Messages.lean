import ResourceGuard.Proofs.Json.Ranges
import ResourceGuard.Proofs.Json.Standard.Values
import ResourceGuard.Subject.Uuid.Standard

/-! # Messages and settings survive as JSON

Everything that has a JSON form comes back from it as it was, from the value and
from the text, and a form with a number out of range comes back as nothing. This
holds with any libraries that can be relied on. Main statement: `survivesAsJson`. -/
namespace ResourceGuard.Json

/-! ## The text of a subject -/

/-- The digits are cut into groups of these widths, with hyphens between them. -/
theorem hyphenate_eq_intercalate : ∀ (widths : List Nat) (digits : List Char),
    digits.length = widths.foldr (· + ·) 0 →
      ∃ groups, Uuid.hyphenate widths digits = ['-'].intercalate groups ∧
        groups.map List.length = widths ∧ groups.flatten = digits
  | [], digits, h => ⟨[], rfl, rfl, (List.eq_nil_of_length_eq_zero h).symm⟩
  | [width], digits, h => by
    have hwidth : digits.length = width := h
    refine ⟨[digits], ?_, ?_, List.append_nil digits⟩
    · simp [Uuid.hyphenate, ← hwidth, List.intercalate]
    · rw [List.map_singleton, hwidth]
  | width :: next :: widths, digits, h => by
    rw [List.foldr_cons] at h
    obtain ⟨groups, htext, hlengths, hflatten⟩ :=
      hyphenate_eq_intercalate (next :: widths) (digits.drop width) (by
        rw [List.length_drop]; omega)
    refine ⟨digits.take width :: groups, ?_, ?_, ?_⟩
    · cases groups with
      | nil => cases hlengths
      | cons group groups =>
        rw [Uuid.hyphenate, htext]
        · simp [List.intercalate]
        · exact List.cons_ne_nil next widths
    · rw [List.map_cons, hlengths, List.length_take_of_le (by omega)]
    · rw [List.flatten_cons, hflatten, List.take_append_drop]

/-- The form of a subject is text: its bytes in hexadecimal, in five groups with hyphens
between them. -/
structure IsUuidText [Uuid.Library] (s : SubjectId) : Prop where
  text : encode s = .text s.uuid
  groups : ∃ groups : List (List Char), s.uuid.toList = ['-'].intercalate groups ∧
    groups.map List.length = [8, 4, 4, 4, 12] ∧ groups.flatten = Hex.encode s.bytes

theorem isUuidText [Uuid.Library] [Uuid.Library.Lawful] (s : SubjectId) : IsUuidText s where
  text := rfl
  groups := by
    have hlen : (Hex.encode s.bytes).length = 32 := by
      rw [Hex.length_encode, s.length_bytes]
    rw [SubjectId.uuid, Uuid.Library.Lawful.write_eq, Uuid.hyphenated, String.toList_ofList]
    exact hyphenate_eq_intercalate Uuid.groupWidths _ hlen

/-! ## All types -/

section Types

variable [Library] (α : Type) [Codec α]

/-- Values of the type come back from their JSON form as they were. -/
structure Survives : Prop where
  decoded : ∀ a : α, decode? (encode a) = some a
  reread : ∀ a : α, read? (write a) = some a

/-- No form with a number out of range comes back as a value of the type. -/
structure Refuses [Ranged α] : Prop where
  refused : ∀ v, OutOfRange α v → (decode? v : Option α) = none
  refusedText : ∀ text v, parse? text = some v → OutOfRange α v → (read? text : Option α) = none
  refusedPrint : ∀ v : Value, v.Plain maxNesting → OutOfRange α v →
    (read? (print v) : Option α) = none

end Types

/-- What holds of everything that travels as JSON. -/
structure AllSurvive [Unsigned.Library] [Uuid.Library] [Library] : Prop where
  subjectId : Survives SubjectId
  endpointId : Survives EndpointId ∧ Refuses EndpointId
  adapter : Survives Adapter
  endpoint : Survives Endpoint ∧ Refuses Endpoint
  method : Survives Method
  permission : Survives Permission ∧ Refuses Permission
  resourceProperties : Survives ResourceProperties ∧ Refuses ResourceProperties
  messageType : Survives MessageType
  token : Survives Token ∧ Refuses Token
  request : Survives Request ∧ Refuses Request
  responseCode : Survives ResponseCode
  response : Survives Response ∧ Refuses Response
  transportError : Survives TransportError ∧ Refuses TransportError
  config : Survives Config ∧ Refuses Config
  busyPolicy : Survives BusyPolicy
  fault : Survives Fault
  /-- A response without a body is not written like one with an empty body. -/
  bodies : ∀ r : Response,
    write { r with payload := none } ≠ write { r with payload := some [] }
  /-- A subject is written as UUID text. -/
  subjectText : ∀ s : SubjectId, IsUuidText s

section Laws

variable [Library] [Library.Lawful] {α : Type} [Codec α] {depth : Nat}

theorem survives [Lawful depth α] (h : depth ≤ maxNesting) : Survives α where
  decoded := decode?_encode
  reread := read?_write h

theorem refuses_all [Ranged α] [Strict α] : Refuses α := by
  have htext : ∀ text v, parse? text = some v → OutOfRange α v →
      (read? text : Option α) = none := by
    intro text v hread hrange
    rw [read?, hread, Option.bind_some, refuses v hrange]
  exact ⟨refuses, htext, fun v hplain => htext (print v) v (parse?_print v hplain)⟩

theorem survives_and_refuses [Lawful depth α] [Ranged α] [Strict α] (h : depth ≤ maxNesting) :
    Survives α ∧ Refuses α :=
  ⟨survives h, refuses_all⟩

theorem write_injective [Lawful depth α] (hdepth : depth ≤ maxNesting) {a b : α}
    (h : write a = write b) : a = b := by
  have hread := read?_write hdepth a
  rw [h, read?_write hdepth b] at hread
  exact (Option.some.inj hread).symm

end Laws

/-- **Decoding undoes encoding, and nothing wraps around.** Every message and every setting
comes back from its JSON form as it was, whatever texts, bytes and numbers it holds. An
absent body and an empty one stay apart, and a subject is carried as the hyphenated text of
its sixteen bytes. Where a byte, a port, an identifier, a set of bits or a length is a number
that its type does not have, be it negative, too large or no whole number, the whole form is
refused. All this rests on what the libraries that read and write numbers, UUIDs and JSON
texts can be relied on for, and on nothing else about them. -/
theorem survivesAsJson [Unsigned.Library] [Unsigned.Library.Lawful] [Uuid.Library]
    [Uuid.Library.Lawful] [Library] [Library.Lawful] : AllSurvive where
  subjectId := survives (by decide)
  endpointId := survives_and_refuses (by decide)
  adapter := survives (by decide)
  endpoint := survives_and_refuses (by decide)
  method := survives (by decide)
  permission := survives_and_refuses (by decide)
  resourceProperties := survives_and_refuses (by decide)
  messageType := survives (by decide)
  token := survives_and_refuses (by decide)
  request := survives_and_refuses (by decide)
  responseCode := survives (by decide)
  response := survives_and_refuses (by decide)
  transportError := survives_and_refuses (by decide)
  config := survives_and_refuses (by decide)
  busyPolicy := survives (by decide)
  fault := survives (by decide)
  bodies r h := by
    have hpayload := congrArg Response.payload (write_injective (by decide) h)
    cases hpayload
  subjectText := isUuidText

/-- The standard libraries can be relied on. -/
theorem survivesAsJson_standard :
    @AllSurvive Unsigned.standard Uuid.standard Json.standard :=
  @survivesAsJson Unsigned.standard Unsigned.lawful_standard Uuid.standard Uuid.lawful_standard
    Json.standard Json.lawful_standard

end ResourceGuard.Json
