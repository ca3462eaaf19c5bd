import ResourceGuard.Json.Codec
import ResourceGuard.Proofs.Json.Laws

/-! # Decoding undoes encoding

A codec is lawful when its decoding undoes its encoding and what it encodes is a
plain value of a known depth. Every codec is lawful, a record because its fields
are. Main statement: what is written of a value is read as that value
(`read?_write`). -/
namespace ResourceGuard.Json

/-- A codec that gets back what it gave away. -/
class Lawful (depth : outParam Nat) (α : Type) [Codec α] : Prop where
  decode?_encode : ∀ a : α, decode? (encode a) = some a
  plain_encode : ∀ a : α, (encode a).Plain depth

export Lawful (decode?_encode plain_encode)

theorem plain_encode_of_le {α : Type} [Codec α] {depth deep : Nat} [Lawful depth α]
    (h : depth ≤ deep) (a : α) : (encode a).Plain deep :=
  (plain_encode a).mono h

/-- **What is written of a value is read as that value.** -/
theorem read?_write [Library] [Library.Lawful] {α : Type} [Codec α] {depth : Nat}
    [Lawful depth α] (h : depth ≤ maxNesting) (a : α) : read? (write a) = some a := by
  rw [read?, write, parse?_print _ (plain_encode_of_le h a), Option.bind_some, decode?_encode]

/-! ## Numbers -/

section Numbers

variable [Unsigned.Library] [Unsigned.Library.Lawful] [Library] [Library.Lawful]

theorem below?_natural {size n : Nat} (hsize : size ≤ 2 ^ 64) (h : n < size) :
    below? size (.natural n) = some n := by
  rw [Value.natural, below?, integer?_ofNat n (Nat.lt_of_lt_of_le h hsize), Option.bind_some,
    Unsigned.ofInt?_eq_some_iff]
  exact ⟨rfl, h⟩

/-- A number of some width is taken for the number that was written. -/
theorem map_below?_natural {α : Type} {ofNat : Nat → α} {size n : Nat} {a : α}
    (hsize : size ≤ 2 ^ 64) (h : n < size) (ha : ofNat n = a) :
    (below? size (.natural n)).map ofNat = some a := by
  rw [below?_natural hsize h, Option.map_some, ha]

instance : Lawful 0 UInt8 where
  decode?_encode n := map_below?_natural (by decide) n.toNat_lt UInt8.ofNat_toNat
  plain_encode n := Value.plain_natural (Nat.lt_of_lt_of_le n.toNat_lt (by decide))

instance : Lawful 0 UInt16 where
  decode?_encode n := map_below?_natural (by decide) n.toNat_lt UInt16.ofNat_toNat
  plain_encode n := Value.plain_natural (Nat.lt_of_lt_of_le n.toNat_lt (by decide))

instance : Lawful 0 UInt64 where
  decode?_encode n := map_below?_natural (by decide) n.toNat_lt UInt64.ofNat_toNat
  plain_encode n := Value.plain_natural n.toNat_lt

end Numbers

/-! ## Texts and bytes -/

instance : Lawful 0 String where
  decode?_encode _ := rfl
  plain_encode := .text

theorem mapM_decode?_encode {α : Type} [Codec α] {depth : Nat} [Lawful depth α] (as : List α) :
    (as.map encode).mapM decode? = some as := by
  induction as with
  | nil => rfl
  | cons a as ih =>
    rw [List.map_cons, List.mapM_cons, decode?_encode, ih]
    rfl

section Bytes

variable [Unsigned.Library] [Unsigned.Library.Lawful] [Library] [Library.Lawful]

instance : Lawful 1 (List UInt8) where
  decode?_encode := mapM_decode?_encode
  plain_encode bytes := by
    refine .array fun item hitem => ?_
    obtain ⟨b, -, rfl⟩ := List.mem_map.mp hitem
    exact plain_encode b

/-- Bytes are never encoded as null, so null is free to stand for their absence. -/
instance : Lawful 1 (Option (List UInt8)) where
  decode?_encode
    | none => rfl
    | some bytes => congrArg (Option.map some) (decode?_encode bytes)
  plain_encode
    | none => .null
    | some bytes => plain_encode bytes

end Bytes

/-! ## Names and wrapped values -/

section Names

variable {α : Type} [Vocabulary α]

theorem decodeName?_encodeName (a : α) : decodeName? (encodeName a) = some a :=
  Vocabulary.ofName?_name a

theorem plain_encodeName (a : α) : (encodeName a).Plain 0 := .text (Vocabulary.name a)

end Names

instance : Lawful 0 Adapter := ⟨decodeName?_encodeName, plain_encodeName⟩
instance : Lawful 0 Method := ⟨decodeName?_encodeName, plain_encodeName⟩
instance : Lawful 0 MessageType := ⟨decodeName?_encodeName, plain_encodeName⟩
instance : Lawful 0 ResponseCode := ⟨decodeName?_encodeName, plain_encodeName⟩
instance : Lawful 0 BusyPolicy := ⟨decodeName?_encodeName, plain_encodeName⟩

instance [Uuid.Library] [Uuid.Library.Lawful] : Lawful 0 SubjectId where
  decode?_encode := SubjectId.ofUuid?_uuid
  plain_encode s := .text s.uuid

section Wrapped

variable [Unsigned.Library] [Unsigned.Library.Lawful] [Library] [Library.Lawful]

instance : Lawful 0 EndpointId where
  decode?_encode id := congrArg (Option.map EndpointId.mk) (decode?_encode id.handle)
  plain_encode id := plain_encode id.handle

instance : Lawful 0 Permission where
  decode?_encode p := congrArg (Option.map Permission.mk) (decode?_encode p.bits)
  plain_encode p := plain_encode p.bits

instance : Lawful 0 ResourceProperties where
  decode?_encode p := congrArg (Option.map ResourceProperties.mk) (decode?_encode p.bits)
  plain_encode p := plain_encode p.bits

instance : Lawful 1 Token where
  decode?_encode t := congrArg (Option.map Token.mk) (decode?_encode t.bytes)
  plain_encode t := plain_encode t.bytes

end Wrapped

/-! ## Records -/

theorem plain_record {depth : Nat} {fields : List (String × Value)}
    (h : ∀ field ∈ fields, field.2.Plain depth) : (record fields).Plain (depth + 1) := by
  refine .object (fun member hmember => ?_) fun member hmember => ?_
  all_goals obtain ⟨field, hfield, rfl⟩ := List.mem_map.mp hmember
  · exact Option.some_ne_none field.1
  · exact h field hfield

theorem namedMembers?_fields {names : List String} {fields : List (String × Value)}
    (hknown : ∀ field ∈ fields, field.1 ∈ names) (hnodup : (fields.map Prod.fst).Nodup) :
    namedMembers? names (fields.map fun (name, v) => (some name, v)) = some fields := by
  induction fields with
  | nil => rfl
  | cons field fields ih =>
    obtain ⟨hname, hrest⟩ := List.forall_mem_cons.mp hknown
    rw [List.map_cons, List.nodup_cons] at hnodup
    obtain ⟨hnew, hnodup⟩ := hnodup
    have honce : fields.any (·.1 == field.1) = false := by
      rw [List.any_eq_false]
      intro other hother heq
      exact hnew (List.mem_map.mpr ⟨other, hother, eq_of_beq heq⟩)
    rw [List.map_cons, namedMembers?, ih hrest hnodup]
    simp only [hname, not_true_eq_false, if_false, honce, Bool.false_eq_true]

theorem fields?_record {names : List String} {fields : List (String × Value)}
    (hnames : fields.map Prod.fst = names) (hnodup : names.Nodup) :
    fields? names (record fields) = some fields := by
  subst hnames
  exact namedMembers?_fields (fun _ => List.mem_map_of_mem) hnodup

theorem lookup_cons_of_ne {name other : String} (h : name ≠ other) (v : Value)
    (fields : List (String × Value)) :
    ((other, v) :: fields).lookup name = fields.lookup name := by
  simp only [List.lookup_cons, beq_false_of_ne h]

section Fields

variable {α : Type} [Codec α]

@[simp] theorem field?_cons_self {depth : Nat} [Lawful depth α] (name : String) (a : α)
    (fields : List (String × Value)) : field? ((name, encode a) :: fields) name = some a := by
  rw [field?, List.lookup_cons_self, Option.bind_some, decode?_encode]

@[simp] theorem field?_cons_ne {name other : String} (h : name ≠ other) (v : Value)
    (fields : List (String × Value)) :
    (field? ((other, v) :: fields) name : Option α) = field? fields name := by
  rw [field?, field?, lookup_cons_of_ne h]

@[simp] theorem fieldOr?_cons_self {depth : Nat} [Lawful depth α] (name : String) (a default : α)
    (fields : List (String × Value)) :
    fieldOr? ((name, encode a) :: fields) name default = some a := by
  rw [fieldOr?, List.lookup_cons_self]
  exact decode?_encode a

@[simp] theorem fieldOr?_cons_ne {name other : String} (h : name ≠ other) (v : Value)
    (fields : List (String × Value)) (default : α) :
    fieldOr? ((other, v) :: fields) name default = fieldOr? fields name default := by
  rw [fieldOr?, fieldOr?, lookup_cons_of_ne h]

end Fields

section Records

variable [Unsigned.Library] [Unsigned.Library.Lawful] [Library] [Library.Lawful]

instance : Lawful 1 Endpoint where
  decode?_encode e := by
    refine Option.bind_eq_some_iff.mpr ⟨_, fields?_record rfl (by decide), ?_⟩
    simp
  plain_encode e := plain_record (by simp [plain_encode_of_le])

instance [Uuid.Library] [Uuid.Library.Lawful] : Lawful 2 Request where
  decode?_encode r := by
    refine Option.bind_eq_some_iff.mpr ⟨_, fields?_record rfl (by decide), ?_⟩
    simp
  plain_encode r := plain_record (by simp [plain_encode_of_le])

instance : Lawful 2 Response where
  decode?_encode r := by
    refine Option.bind_eq_some_iff.mpr ⟨_, fields?_record rfl (by decide), ?_⟩
    simp
  plain_encode r := plain_record (by simp [plain_encode_of_le])

instance : Lawful 2 TransportError where
  decode?_encode e := by
    refine Option.bind_eq_some_iff.mpr ⟨_, fields?_record rfl (by decide), ?_⟩
    simp
  plain_encode e := plain_record (by simp [plain_encode_of_le])

instance : Lawful 1 Config where
  decode?_encode c := by
    refine Option.bind_eq_some_iff.mpr ⟨_, fields?_record rfl (by decide), ?_⟩
    simp
  plain_encode c := plain_record (by simp [plain_encode_of_le])

end Records

instance : Lawful 2 Fault where
  decode?_encode f := by
    refine Option.bind_eq_some_iff.mpr ⟨f.kind, Vocabulary.ofName?_name f.kind, ?_⟩
    refine Option.bind_eq_some_iff.mpr ⟨_, fields?_record rfl (by decide), ?_⟩
    simp
  plain_encode f := by
    have hrecord : (record [("message", encode f.message)]).Plain 1 :=
      plain_record (by simp [plain_encode])
    refine .object ?_ ?_
    · simp
    · rwa [List.forall_mem_singleton]

end ResourceGuard.Json
