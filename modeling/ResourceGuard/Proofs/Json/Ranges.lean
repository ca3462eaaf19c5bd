import ResourceGuard.Proofs.Json.Lawful

/-! # Numbers out of range are refused

A number may be written with a sign, a fraction and an exponent, and any such
number may stand where a byte or a port is expected. `OutOfRange` says for each
type whose JSON form has numbers that one of them amounts to none that the place
can hold. Main statement: such a form is refused as a whole, never read as another
value (`refuses`). -/
namespace ResourceGuard.Json

/-- The value is a number, and not one of the whole numbers below the bound. -/
def Stray (bound : Nat) (v : Value) : Prop :=
  ∃ numeral : Numeral, v = .number numeral ∧ ∀ n < bound, numeral.quantity ≠ n

/-! ## Where the numbers are -/

/-- Types whose values have numbers in their form. -/
class Ranged (α : Type) where
  /-- Where a value of the type has a number, this one has a number out of its range. -/
  OutOfRange : Value → Prop

export Ranged (OutOfRange)

/-- What the value holds for a field: any member of an object with its name, or the item of
an array in its place. -/
inductive HasField (names : List String) (name : String) : Value → Value → Prop
  | member {members : List (Option String × Value)} {w : Value} :
    (some name, w) ∈ members → HasField names name (.object members) w
  | item {items : List Value} {w : Value} :
    (name, w) ∈ names.zip items → HasField names name (.array items) w

/-- What the value holds for a field has a number out of range. -/
def FieldOutOfRange (α : Type) [Ranged α] (names : List String) (name : String) (v : Value) :
    Prop :=
  ∃ w, HasField names name v w ∧ OutOfRange α w

instance : Ranged UInt8 := ⟨Stray UInt8.size⟩
instance : Ranged UInt16 := ⟨Stray UInt16.size⟩
instance : Ranged UInt64 := ⟨Stray UInt64.size⟩

instance : Ranged (List UInt8) where
  OutOfRange v := ∃ items, v = .array items ∧ ∃ w ∈ items, OutOfRange UInt8 w

instance : Ranged (Option (List UInt8)) := ⟨OutOfRange (List UInt8)⟩
instance : Ranged EndpointId := ⟨OutOfRange UInt64⟩
instance : Ranged Permission := ⟨OutOfRange UInt16⟩
instance : Ranged ResourceProperties := ⟨OutOfRange UInt8⟩
instance : Ranged Token := ⟨OutOfRange (List UInt8)⟩

def endpointFields : List String := ["id", "adapter", "address", "port"]

instance : Ranged Endpoint where
  OutOfRange v :=
    FieldOutOfRange EndpointId endpointFields "id" v ∨
      FieldOutOfRange UInt16 endpointFields "port" v

def requestFields : List String :=
  ["identity", "method", "resource_uri", "payload", "token", "message_id", "message_type"]

instance : Ranged Request where
  OutOfRange v :=
    FieldOutOfRange (List UInt8) requestFields "payload" v ∨
      FieldOutOfRange Token requestFields "token" v ∨
        FieldOutOfRange UInt16 requestFields "message_id" v

def responseFields : List String :=
  ["result", "message_type", "token", "message_id", "resource_uri", "payload"]

instance : Ranged Response where
  OutOfRange v :=
    FieldOutOfRange Token responseFields "token" v ∨
      FieldOutOfRange UInt16 responseFields "message_id" v ∨
        FieldOutOfRange (Option (List UInt8)) responseFields "payload" v

instance : Ranged TransportError where
  OutOfRange := FieldOutOfRange Token ["reason", "token", "resource_uri"] "token"

instance : Ranged Config where
  OutOfRange := FieldOutOfRange UInt64 ["max_uri_length", "busy_request_policy"] "max_uri_length"

/-! ## What is refused -/

/-- A codec that refuses every number out of range. -/
class Strict (α : Type) [Codec α] [Ranged α] : Prop where
  refuses : ∀ v : Value, OutOfRange α v → (decode? v : Option α) = none

export Strict (refuses)

theorem mapM_decode?_eq_none {α : Type} [Codec α] {items : List Value} {w : Value}
    (hw : w ∈ items) (hnone : (decode? w : Option α) = none) :
    (items.mapM decode? : Option (List α)) = none := by
  induction items with
  | nil => cases hw
  | cons item items ih =>
    rw [List.mapM_cons]
    rcases List.mem_cons.mp hw with rfl | hw
    · rw [hnone]
      rfl
    · rw [ih hw]
      cases (decode? item : Option α) <;> rfl

section Numbers

variable [Unsigned.Library] [Unsigned.Library.Lawful] [Library] [Library.Lawful]

/-- A number that is taken is the one that was written, so it is in range. -/
theorem below?_stray {bound : Nat} {v : Value} (h : Stray bound v) : below? bound v = none := by
  obtain ⟨numeral, rfl, hstray⟩ := h
  refine Option.bind_eq_none_iff.mpr fun n hn => Option.eq_none_iff_forall_ne_some.mpr ?_
  intro m hm
  obtain ⟨hvalue, hlt⟩ := (Unsigned.ofInt?_eq_some_iff bound n m).mp hm
  refine hstray m hlt ?_
  rw [quantity_of_integer? numeral n hn, ← hvalue, Rat.intCast_natCast]

instance : Strict UInt8 where
  refuses _ h := congrArg (Option.map UInt8.ofNat) (below?_stray h)

instance : Strict UInt16 where
  refuses _ h := congrArg (Option.map UInt16.ofNat) (below?_stray h)

instance : Strict UInt64 where
  refuses _ h := congrArg (Option.map UInt64.ofNat) (below?_stray h)

instance : Strict (List UInt8) where
  refuses := by
    rintro v ⟨items, rfl, w, hw, hstray⟩
    exact mapM_decode?_eq_none hw (refuses w hstray)

instance : Strict (Option (List UInt8)) where
  refuses := by
    rintro v ⟨items, rfl, hitems⟩
    have hrange : OutOfRange (List UInt8) (.array items) := ⟨items, rfl, hitems⟩
    exact congrArg (Option.map some) (refuses _ hrange)

instance : Strict EndpointId where
  refuses v h := congrArg (Option.map EndpointId.mk) (refuses v h)

instance : Strict Permission where
  refuses v h := congrArg (Option.map Permission.mk) (refuses v h)

instance : Strict ResourceProperties where
  refuses v h := congrArg (Option.map ResourceProperties.mk) (refuses v h)

instance : Strict Token where
  refuses v h := congrArg (Option.map Token.mk) (refuses v h)

end Numbers

/-! ## What is refused of a record -/

theorem lookup_zip {names : List String} (hnodup : names.Nodup) {items : List Value}
    {name : String} {w : Value} (h : (name, w) ∈ names.zip items) :
    (names.zip items).lookup name = some w := by
  induction names generalizing items with
  | nil => cases h
  | cons first names ih =>
    obtain ⟨hnew, hnodup⟩ := List.nodup_cons.mp hnodup
    cases items with
    | nil => cases h
    | cons item items =>
      rw [List.zip_cons_cons] at h ⊢
      rcases List.mem_cons.mp h with heq | h
      · obtain ⟨rfl, rfl⟩ := Prod.mk.inj heq
        exact List.lookup_cons_self
      · have hne : name ≠ first := fun heq => hnew (heq ▸ (List.of_mem_zip h).1)
        rw [lookup_cons_of_ne hne]
        exact ih hnodup h

/-- A member that is not asked for is passed over; one that is must be the only one. -/
theorem namedMembers?_cons_eq_some {names : List String} {key : String} {value : Value}
    {members : List (Option String × Value)} {found : List (String × Value)}
    (h : namedMembers? names ((some key, value) :: members) = some found) :
    ∃ others, namedMembers? names members = some others ∧
      (key ∉ names ∧ found = others ∨
        others.any (·.1 == key) = false ∧ found = (key, value) :: others) := by
  rw [namedMembers?] at h
  cases hothers : namedMembers? names members with
  | none =>
    rw [hothers] at h
    cases h
  | some others =>
    rw [hothers] at h
    refine ⟨others, rfl, ?_⟩
    by_cases hkey : key ∉ names
    · exact .inl ⟨hkey, (Option.some.inj ((if_pos hkey).symm.trans h)).symm⟩
    · obtain ⟨honce, hfound⟩ := Option.ite_none_left_eq_some.mp ((if_neg hkey).symm.trans h)
      exact .inr ⟨Bool.eq_false_iff.mpr honce, (Option.some.inj hfound).symm⟩

theorem lookup_namedMembers? {names : List String} {name : String} (hname : name ∈ names)
    {members : List (Option String × Value)} {w : Value} (hw : (some name, w) ∈ members)
    {found : List (String × Value)} (h : namedMembers? names members = some found) :
    found.lookup name = some w := by
  induction members generalizing found with
  | nil => cases hw
  | cons member members ih =>
    obtain ⟨key, value⟩ := member
    cases key with
    | none => cases h
    | some key =>
      obtain ⟨others, hothers, halt⟩ := namedMembers?_cons_eq_some h
      rcases List.mem_cons.mp hw with heq | hw
      · obtain ⟨rfl, rfl⟩ : name = key ∧ w = value := by simpa using heq
        rcases halt with ⟨hkey, -⟩ | ⟨-, rfl⟩
        · exact absurd hname hkey
        · exact List.lookup_cons_self
      · have hlookup := ih hw hothers
        rcases halt with ⟨-, rfl⟩ | ⟨honce, rfl⟩
        · exact hlookup
        · have hne : name ≠ key := by
            rintro rfl
            obtain ⟨before, after, rfl, -⟩ := List.lookup_eq_some_iff.mp hlookup
            simp at honce
          rw [lookup_cons_of_ne hne]
          exact hlookup

theorem lookup_fields? {names : List String} (hnodup : names.Nodup) {name : String}
    (hname : name ∈ names) {v w : Value} (hw : HasField names name v w)
    {fields : List (String × Value)} (h : fields? names v = some fields) :
    fields.lookup name = some w := by
  cases hw with
  | member hw => exact lookup_namedMembers? hname hw h
  | item hw =>
    rw [fields?, Option.ite_none_right_eq_some] at h
    obtain rfl := Option.some.inj h.2
    exact lookup_zip hnodup hw

theorem lookup_someFields? {names : List String} (hnodup : names.Nodup) {name : String}
    (hname : name ∈ names) {v w : Value} (hw : HasField names name v w)
    {fields : List (String × Value)} (h : someFields? names v = some fields) :
    fields.lookup name = some w := by
  cases hw with
  | member hw => exact lookup_namedMembers? hname hw h
  | item hw =>
    rw [someFields?, Option.ite_none_right_eq_some] at h
    obtain rfl := Option.some.inj h.2
    exact lookup_zip hnodup hw

section Fields

variable {α : Type} [Codec α] [Ranged α] [Strict α] {names : List String} {name : String}
  {v : Value} {fields : List (String × Value)}

theorem field?_eq_none (hnodup : names.Nodup) (hname : name ∈ names)
    (h : FieldOutOfRange α names name v) (hfields : fields? names v = some fields) :
    (field? fields name : Option α) = none := by
  obtain ⟨w, hw, hrange⟩ := h
  rw [field?, lookup_fields? hnodup hname hw hfields, Option.bind_some, refuses w hrange]

theorem fieldOr?_eq_none (hnodup : names.Nodup) (hname : name ∈ names)
    (h : FieldOutOfRange α names name v)
    (hfields : fields? names v = some fields ∨ someFields? names v = some fields) (default : α) :
    fieldOr? fields name default = none := by
  obtain ⟨w, hw, hrange⟩ := h
  have hlookup : fields.lookup name = some w := by
    rcases hfields with hfields | hfields
    · exact lookup_fields? hnodup hname hw hfields
    · exact lookup_someFields? hnodup hname hw hfields
  rw [fieldOr?, hlookup]
  exact refuses w hrange

end Fields

section Records

variable [Unsigned.Library] [Unsigned.Library.Lawful] [Library] [Library.Lawful]

instance : Strict Endpoint where
  refuses v h := by
    refine Option.bind_eq_none_iff.mpr fun fields hfields => ?_
    rcases h with h | h
    · simp [field?_eq_none (by decide) (by decide) h hfields]
    · simp [field?_eq_none (by decide) (by decide) h hfields]

instance [Uuid.Library] : Strict Request where
  refuses v h := by
    refine Option.bind_eq_none_iff.mpr fun fields hfields => ?_
    rcases h with h | h | h
    · simp [field?_eq_none (by decide) (by decide) h hfields]
    · simp [field?_eq_none (by decide) (by decide) h hfields]
    · simp [field?_eq_none (by decide) (by decide) h hfields]

instance : Strict Response where
  refuses v h := by
    refine Option.bind_eq_none_iff.mpr fun fields hfields => ?_
    rcases h with h | h | h
    · simp [field?_eq_none (by decide) (by decide) h hfields]
    · simp [field?_eq_none (by decide) (by decide) h hfields]
    · simp [fieldOr?_eq_none (by decide) (by decide) h (.inl hfields)]

instance : Strict TransportError where
  refuses v h := by
    refine Option.bind_eq_none_iff.mpr fun fields hfields => ?_
    simp [field?_eq_none (by decide) (by decide) h hfields]

instance : Strict Config where
  refuses v h := by
    refine Option.bind_eq_none_iff.mpr fun fields hfields => ?_
    simp [fieldOr?_eq_none (by decide) (by decide) h (.inr hfields)]

end Records

end ResourceGuard.Json
