import ResourceGuard.Config.Source
import ResourceGuard.Proofs.Toml.Standard.Lines

/-! # What a configuration says is what is configured

A text that gives a limit and a policy, one on each line, in either order and either left
out, is accepted exactly if both are values that a configuration can have, and then these
are its values; what is left out has its usual value. No text at all gives a configuration
that would turn every path away, and a file is as good as its text. What is said of those plain
texts rests on the libraries that read them, and nothing else does. -/
namespace ResourceGuard.Config

open Toml (Line Newline PlainName ofLines)

/-- A document that gives a limit, a policy, both or neither. -/
structure Sheet where
  limit : Option Int
  policy : Option PlainName
  policyFirst : Bool
  newline : Newline
  /-- The last line has a line break too. -/
  ended : Bool

namespace Sheet

def limitLines (s : Sheet) : List String :=
  s.limit.toList.map fun n => "max_uri_length = " ++ toString n

def policyLines (s : Sheet) : List String :=
  s.policy.toList.map fun name => "busy_request_policy = " ++ Toml.quoted name.text

def text (s : Sheet) : String :=
  ofLines s.newline s.ended
    (if s.policyFirst then s.policyLines ++ s.limitLines else s.limitLines ++ s.policyLines)

/-- What the sheet gives can be had. -/
structure Admissible (s : Sheet) : Prop where
  limit : ∀ n ∈ s.limit, 1 ≤ n ∧ n ≤ 2 ^ 63 - 1
  policy : ∀ name ∈ s.policy,
    name.text = "reject_unauthorized" ∨ name.text = "reject_unavailable"

/-- The configuration has what the sheet gives, and the usual values for the rest. -/
structure Describes (s : Sheet) (config : Config) : Prop where
  limit : (config.maxUriLength.toNat : Int) = s.limit.getD 256
  policy : Vocabulary.name config.busyPolicy =
    (s.policy.map PlainName.text).getD "reject_unauthorized"

end Sheet

/-- What a text, or a file, comes to as a configuration. -/
structure ReadsAsSaid [Unsigned.Library] [Toml.Library] : Prop where
  accepted_iff : ∀ sheet : Sheet,
    (∃ config, ofToml sheet.text = .ok config) ↔ sheet.Admissible
  describes : ∀ (sheet : Sheet) config, ofToml sheet.text = .ok config → sheet.Describes config
  /-- Whatever the text, a limit of zero does not come out of it, -/
  limit_pos : ∀ text config, ofToml text = .ok config → 1 ≤ config.maxUriLength.toNat
  /-- and what is refused is refused as invalid, with what the reader says of the text or
  for its limit of zero. -/
  refused : ∀ text fault, (ofToml text).mapError Refusal.fault = .error fault →
    fault.kind = .invalid ∧
      (fault.message = "Invalid TOML: " ++ Toml.complaint text ∨
        fault.message = "max_uri_length must be non-zero")
  /-- A file with this text comes to the same as the text. -/
  file : ∀ text : String,
    ofFile (.ok text.toUTF8.data.toList) = (ofToml text).mapError Refusal.fault
  absent : ∀ failure, failure.absent = true →
    ofFile (.error failure) = .error ⟨.notFound, failure.message⟩
  unreadable : ∀ failure, failure.absent = false →
    ofFile (.error failure) = .error ⟨.storage, failure.message⟩
  /-- A file whose bytes are no text cannot be read. -/
  notText : ∀ bytes, (∀ text : String, text.toUTF8.data.toList ≠ bytes) →
    ofFile (.ok bytes) = .error ⟨.storage, FileFailure.notText.message⟩

/-! ## The lines -/

def limitLine (n : Int) : Line where
  key := ⟨"max_uri_length", by simp⟩
  value := .integer n
  key_ne_nil := by decide

def policyLine (name : PlainName) : Line where
  key := ⟨"busy_request_policy", by simp⟩
  value := .string name
  key_ne_nil := by decide

namespace Sheet

def lines (s : Sheet) : List Line :=
  if s.policyFirst then s.policy.toList.map policyLine ++ s.limit.toList.map limitLine
  else s.limit.toList.map limitLine ++ s.policy.toList.map policyLine

theorem text_eq (s : Sheet) :
    s.text = ofLines s.newline s.ended (s.lines.map Line.text) := by
  have hlimit : s.limitLines = (s.limit.toList.map limitLine).map Line.text := by
    rw [List.map_map]
    rfl
  have hpolicy : s.policyLines = (s.policy.toList.map policyLine).map Line.text := by
    rw [List.map_map]
    rfl
  rw [text, lines, hlimit, hpolicy]
  split <;> rw [List.map_append]

theorem nodup_keys (s : Sheet) : (s.lines.map (·.key.text)).Nodup := by
  rw [lines]
  cases s.limit <;> cases s.policy <;> cases s.policyFirst <;> simp [limitLine, policyLine]

/-- The limit that a sheet gives, or the usual one. -/
def limit? (s : Sheet) : Option UInt64 :=
  s.limit.elim (some 256) fun n =>
    if 0 ≤ n ∧ n < 2 ^ 63 then some (UInt64.ofNat n.toNat) else none

/-- The policy that a sheet gives, or the usual one. -/
def policy? (s : Sheet) : Option BusyPolicy :=
  s.policy.elim (some .rejectUnauthorized) fun name => Vocabulary.ofName? name.text

theorem limit?_eq_some_iff {s : Sheet} {limit : UInt64} :
    (s.limit? = some limit ∧ limit ≠ 0) ↔
      (∀ n ∈ s.limit, 1 ≤ n ∧ n ≤ 2 ^ 63 - 1) ∧ (limit.toNat : Int) = s.limit.getD 256 := by
  have hlt := limit.toNat_lt
  rw [limit?, Ne, ← UInt64.toNat_inj (b := 0)]
  cases s.limit with
  | none =>
    simp only [Option.elim_none, Option.getD_none, Option.some.injEq, ← UInt64.toNat_inj]
    change (256 = limit.toNat ∧ ¬limit.toNat = 0) ↔ _
    have hnone : ∀ n ∈ (none : Option Int), 1 ≤ n ∧ n ≤ 2 ^ 63 - 1 := nofun
    rw [and_iff_right hnone]
    omega
  | some n =>
    simp only [Option.elim_some, Option.getD_some, Option.ite_none_right_eq_some,
      Option.some.injEq, ← UInt64.toNat_inj, UInt64.toNat_ofNat', Option.mem_def, forall_eq']
    change ((0 ≤ n ∧ n < 2 ^ 63) ∧ n.toNat % 2 ^ 64 = limit.toNat) ∧ ¬limit.toNat = 0 ↔ _
    omega

theorem policy?_eq_some_iff {s : Sheet} {policy : BusyPolicy} :
    s.policy? = some policy ↔
      Vocabulary.name policy = (s.policy.map PlainName.text).getD "reject_unauthorized" := by
  rw [policy?]
  cases s.policy with
  | none =>
    rw [Option.elim_none, Option.some_inj]
    cases policy <;> decide
  | some name =>
    rw [Option.elim_some, Option.map_some, Option.getD_some]
    constructor
    · exact Vocabulary.name_of_ofName?
    · intro h
      rw [← h, Vocabulary.ofName?_name]

end Sheet

theorem Sheet.Admissible.exists_describes {s : Sheet} (h : s.Admissible) :
    ∃ config, s.Describes config := by
  have hlimit : ∃ limit : UInt64, (limit.toNat : Int) = s.limit.getD 256 := by
    refine ⟨UInt64.ofNat (s.limit.getD 256).toNat, ?_⟩
    have hrange : 1 ≤ s.limit.getD 256 ∧ s.limit.getD 256 ≤ 2 ^ 63 - 1 := by
      have hgiven := h.limit
      cases hs : s.limit with
      | none => decide
      | some n => exact hgiven n hs
    rw [UInt64.toNat_ofNat']
    omega
  have hpolicy : ∃ policy : BusyPolicy,
      Vocabulary.name policy = (s.policy.map PlainName.text).getD "reject_unauthorized" := by
    have hgiven := h.policy
    cases hs : s.policy with
    | none => exact ⟨.rejectUnauthorized, rfl⟩
    | some name =>
      rcases hgiven name hs with hname | hname
      · exact ⟨.rejectUnauthorized, hname.symm⟩
      · exact ⟨.rejectUnavailable, hname.symm⟩
  obtain ⟨limit, hlimit⟩ := hlimit
  obtain ⟨policy, hpolicy⟩ := hpolicy
  exact ⟨⟨limit, policy⟩, hlimit, hpolicy⟩

/-! ## Any text and any file -/

section Texts

variable [Unsigned.Library] [Toml.Library]

/-- What is accepted is valid, and nothing that is valid is refused. -/
theorem ofToml_eq_ok_iff {text : String} {config : Config} :
    ofToml text = .ok config ↔
      (Toml.read? text).bind ofEntries? = some config ∧ config.maxUriLength ≠ 0 := by
  rw [ofToml]
  cases (Toml.read? text).bind ofEntries? with
  | none => simp
  | some found =>
    simp only [validate, Option.some.injEq]
    split
    case isTrue hzero =>
      simp only [reduceCtorEq, false_iff]
      rintro ⟨rfl, hpos⟩
      exact hpos hzero
    case isFalse hpos =>
      simp only [Except.ok.injEq]
      constructor
      · rintro rfl
        exact ⟨rfl, hpos⟩
      · exact And.left

theorem pos_of_ofToml {text : String} {config : Config} (h : ofToml text = .ok config) :
    1 ≤ config.maxUriLength.toNat := by
  have hpos := (ofToml_eq_ok_iff.mp h).2
  rw [Ne, ← UInt64.toNat_inj] at hpos
  exact Nat.pos_of_ne_zero hpos

/-- A text is refused because it cannot be read as settings or because its limit is zero. -/
theorem ofToml_eq_error {text : String} {refusal : Refusal} (h : ofToml text = .error refusal) :
    refusal = .malformed (Toml.complaint text) ∨ refusal = .zeroLength := by
  rw [ofToml] at h
  cases hread : (Toml.read? text).bind ofEntries? with
  | none =>
    rw [hread] at h
    exact .inl (Except.error.inj h).symm
  | some config =>
    rw [hread] at h
    simp only [validate] at h
    split at h
    · exact .inr (Except.error.inj h).symm
    · cases h

theorem ofFile_text (text : String) :
    ofFile (.ok text.toUTF8.data.toList) = (ofToml text).mapError Refusal.fault := by
  have hread : String.fromUTF8? ⟨text.toUTF8.data.toList.toArray⟩ = some text := by
    rw [Array.toArray_toList, String.fromUTF8?]
    exact dif_pos text.isValidUTF8
  rw [ofFile, hread]

theorem ofFile_notText {bytes : List UInt8}
    (h : ∀ text : String, text.toUTF8.data.toList ≠ bytes) :
    ofFile (.ok bytes) = .error ⟨.storage, FileFailure.notText.message⟩ := by
  have hread : String.fromUTF8? ⟨bytes.toArray⟩ = none := by
    rw [String.fromUTF8?, dif_neg]
    intro hvalid
    exact h (String.fromUTF8 _ hvalid) rfl
  rw [ofFile, hread]
  rfl

end Texts

theorem fault_of_absent {failure : FileFailure} {absent : Bool} (h : failure.absent = absent) :
    failure.fault = ⟨if absent then .notFound else .storage, failure.message⟩ := by
  rw [FileFailure.fault, h]

/-! ## Sheets -/

/-- The entries of a sheet, if all its values are values. -/
theorem read?_text [Toml.Library] [Toml.Library.Lawful] (s : Sheet) :
    Toml.read? s.text = s.lines.mapM Line.pair? := by
  rw [s.text_eq, Toml.read?_ofLines s.newline s.ended s.lines s.nodup_keys]

section Laws

variable [Unsigned.Library] [Unsigned.Library.Lawful]

/-- A number that sixty-four bits with a sign can hold is a limit if it has no sign. -/
theorem limitOf?_integer {n : Int} (hn : n < 2 ^ 63) :
    limitOf? (.integer n) =
      if 0 ≤ n ∧ n < 2 ^ 63 then some (UInt64.ofNat n.toNat) else none := by
  rw [limitOf?]
  split
  case isTrue h =>
    have hlimit : Unsigned.ofInt? UInt64.size n = some n.toNat := by
      rw [Unsigned.ofInt?_eq_some_iff, UInt64.size]
      omega
    rw [hlimit, Option.map_some]
  case isFalse h =>
    have hnone : Unsigned.ofInt? UInt64.size n = none := by
      refine Option.eq_none_iff_forall_ne_some.mpr fun m hm => h ?_
      obtain ⟨rfl, -⟩ := (Unsigned.ofInt?_eq_some_iff _ _ _).mp hm
      exact ⟨Int.natCast_nonneg m, hn⟩
    rw [hnone, Option.map_none]

variable [Toml.Library] [Toml.Library.Lawful]

theorem ofEntries?_text (s : Sheet) :
    (Toml.read? s.text).bind ofEntries? = do
      return { maxUriLength := ← s.limit?, busyPolicy := ← s.policy? } := by
  have hpolicy : ∀ name, (policyLine name).pair? =
      some ("busy_request_policy", .string name.text) := fun _ => rfl
  rw [read?_text, Sheet.lines, Sheet.limit?, Sheet.policy?]
  cases s.limit with
  | none =>
    cases s.policy <;> cases s.policyFirst <;> rfl
  | some n =>
    -- a numeral out of range is no value, so the document is refused as a whole; in range,
    -- the sign is left for the setting to check
    by_cases hn : -2 ^ 63 ≤ n ∧ n < 2 ^ 63
    · have hentry : (limitLine n).pair? = some ("max_uri_length", .integer n) := by
        rw [Line.pair?, limitLine, Toml.PlainValue.item?, if_pos hn, Option.map_some]
      rw [Option.elim_some, ← limitOf?_integer hn.2]
      cases s.policy <;> cases s.policyFirst <;> simp [hentry, hpolicy] <;> rfl
    · have hentry : (limitLine n).pair? = none := by
        rw [Line.pair?, limitLine, Toml.PlainValue.item?, if_neg hn, Option.map_none]
      have hlimit : ¬(0 ≤ n ∧ n < 2 ^ 63) := fun h => hn ⟨by omega, h.2⟩
      rw [Option.elim_some, if_neg hlimit]
      cases s.policy <;> cases s.policyFirst <;> simp [hentry, hpolicy]

theorem ofToml_text_eq_ok_iff {s : Sheet} {config : Config} :
    ofToml s.text = .ok config ↔ s.Admissible ∧ s.Describes config := by
  have hentries : (Toml.read? s.text).bind ofEntries? = some config ↔
      s.limit? = some config.maxUriLength ∧ s.policy? = some config.busyPolicy := by
    rw [ofEntries?_text]
    cases config
    cases s.limit? <;> cases s.policy? <;> simp
  rw [ofToml_eq_ok_iff, hentries, and_right_comm, Sheet.limit?_eq_some_iff,
    Sheet.policy?_eq_some_iff]
  constructor
  · rintro ⟨⟨hlimit, hvalue⟩, hpolicy⟩
    refine ⟨⟨hlimit, fun name hname => ?_⟩, hvalue, hpolicy⟩
    rw [hname, Option.map_some, Option.getD_some] at hpolicy
    rw [← hpolicy]
    cases config.busyPolicy with
    | rejectUnauthorized => exact .inl rfl
    | rejectUnavailable => exact .inr rfl
  · rintro ⟨hadmissible, hdescribes⟩
    exact ⟨⟨hadmissible.limit, hdescribes.limit⟩, hdescribes.policy⟩

end Laws

/-- **A configuration is what its text says,** or it is refused: a text of settings is
accepted just if every setting can be had, a limit of zero never is one, and only what cannot
be read as a text has another fault than that of an invalid one. For the texts of settings
this rests on what the libraries that read documents and numbers can be relied on for. -/
theorem readsAsSaid [Unsigned.Library] [Unsigned.Library.Lawful] [Toml.Library]
    [Toml.Library.Lawful] : ReadsAsSaid where
  accepted_iff sheet := by
    constructor
    · rintro ⟨config, h⟩
      exact (ofToml_text_eq_ok_iff.mp h).1
    · intro h
      obtain ⟨config, hconfig⟩ := h.exists_describes
      exact ⟨config, ofToml_text_eq_ok_iff.mpr ⟨h, hconfig⟩⟩
  describes _ _ h := (ofToml_text_eq_ok_iff.mp h).2
  limit_pos _ _ := pos_of_ofToml
  refused text fault h := by
    cases hread : ofToml text with
    | ok config =>
      rw [hread] at h
      cases h
    | error refusal =>
      rw [hread] at h
      cases h
      rcases ofToml_eq_error hread with rfl | rfl
      · exact ⟨rfl, .inl rfl⟩
      · exact ⟨rfl, .inr rfl⟩
  file := ofFile_text
  absent _ h := congrArg Except.error (fault_of_absent h)
  unreadable _ h := congrArg Except.error (fault_of_absent h)
  notText _ := ofFile_notText

/-- The standard libraries can be relied on. -/
theorem readsAsSaid_standard : @ReadsAsSaid Unsigned.standard Toml.standard :=
  @readsAsSaid Unsigned.standard Unsigned.lawful_standard Toml.standard Toml.lawful_standard

end ResourceGuard.Config
