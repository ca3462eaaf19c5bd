import Mathlib.Algebra.Group.Int.Defs
import Mathlib.Data.List.Basic
import Mathlib.Data.List.TakeWhile
import ResourceGuard.Proofs.Toml.Laws
import ResourceGuard.Text.Numerals
import ResourceGuard.Toml.Standard.Document

/-! # Values at the end of a line

A whole number in plain decimal is read as itself, if sixty-four bits with a sign can hold
it, and is no value otherwise; it is never taken for a date or a fractional number. A text
between two quotes is read as what stands between them, if that needs no escape. -/
namespace ResourceGuard.Toml

/-- Here a line ends, and this is what follows it. -/
inductive LineEnd : List Char → List Char → Prop
  | text : LineEnd [] []
  | lf (more : List Char) : LineEnd ('\n' :: more) more
  | crlf (more : List Char) : LineEnd ('\r' :: '\n' :: more) more

theorem endLine?_of_lineEnd {rest more : List Char} (h : LineEnd rest more) :
    endLine? rest = some more := by
  cases h <;> rfl

/-- At the end of a line this text is read as that value, or refused. -/
def ReadsAs (text : List Char) (value : Option Item) : Prop :=
  ∀ ⦃rest more⦄, LineEnd rest more →
    value? maxDepth (skipBlanks (text ++ rest)) = value.map (·, rest)

/-! ## Digits -/

section Digits
variable {digits : List Char}

theorem digitRun?_of_digits (h : digits ≠ []) (hall : ∀ c ∈ digits, c.isDigit = true) :
    digitRun? Char.isDigit digits = some digits := by
  induction digits with
  | nil => exact absurd rfl h
  | cons c rest ih =>
    obtain ⟨hc, hrest⟩ := List.forall_mem_cons.mp hall
    cases rest with
    | nil => rw [digitRun?, if_pos hc]
    | cons d rest =>
      have hd : d ≠ '_' := by
        rintro rfl
        cases hrest '_' List.mem_cons_self
      rw [digitRun?, if_pos hc, ih (List.cons_ne_nil d rest) hrest, Option.map_some]
      · exact nofun
      · rintro _ ⟨⟩
        exact hd rfl

theorem digitValue?_of_isDigit {c : Char} (h : c.isDigit = true) :
    (Hex.digitValue? c).getD 0 = c.toNat - '0'.toNat := by
  have hrange : '0' ≤ c ∧ c ≤ '9' := by
    simpa [Char.isDigit, Char.le_def, UInt32.le_iff_toNat_le] using h
  rw [Hex.digitValue?, if_pos hrange]
  rfl

theorem ofDigits_toDigits (n : Nat) : ofDigits 10 (Nat.toDigits 10 n) = n := by
  have hvalue : ofDigits 10 (Nat.toDigits 10 n) = Nat.ofDigitChars 10 (Nat.toDigits 10 n) 0 := by
    rw [ofDigits, Nat.ofDigitChars]
    refine List.foldl_ext _ _ _ fun m c hc => ?_
    rw [digitValue?_of_isDigit (all_isDigit_toDigits n c hc)]
  rw [hvalue, Nat.ofDigitChars_toDigits (by decide) (by decide)]

theorem sign?_of_digits (hall : ∀ c ∈ digits, c.isDigit = true) {sign : Char}
    (hsign : sign.isDigit = false) : sign? sign digits = none := by
  cases digits with
  | nil => rfl
  | cons c rest =>
    rw [sign?, if_neg]
    rintro rfl
    rw [hall c List.mem_cons_self] at hsign
    cases hsign

end Digits

/-! ## Numerals -/

theorem splitSign_numeral (n : Int) :
    splitSign (toString n).toList = (decide (n < 0), Nat.toDigits 10 n.natAbs) := by
  have hall := all_isDigit_toDigits n.natAbs
  rw [toList_toString_int, signOf]
  by_cases hn : n < 0
  · rw [if_pos hn, decide_eq_true hn]
    rfl
  · rw [if_neg hn, decide_eq_false hn, List.nil_append]
    unfold splitSign
    split
    case h_1 rest h => cases hall '+' (h ▸ List.mem_cons_self)
    case h_2 rest h => cases hall '-' (h ▸ List.mem_cons_self)
    case h_3 => rfl

/-! ### Numerals are nothing else -/

theorem eq_of_field? {cs rest : List Char} {width low high value : Nat}
    (h : field? width low high cs = some (value, rest)) :
    (∀ c ∈ cs.take width, c.isDigit = true) ∧ rest = cs.drop width := by
  unfold field? at h
  simp only [Option.ite_none_right_eq_some] at h
  obtain ⟨hdigits, -, h⟩ := h
  exact ⟨List.all_eq_true.mp hdigits.2, (Prod.ext_iff.mp (Option.some.inj h)).2.symm⟩

/-- After a field of digits at the start of a numeral there is no mark. -/
theorem sign?_of_field {n : Int} {width low high value : Nat} {rest : List Char} {mark : Char}
    (hmark : mark.isDigit = false)
    (h : field? (width + 1) low high (toString n).toList = some (value, rest)) :
    sign? mark rest = none := by
  obtain ⟨htaken, rfl⟩ := eq_of_field? h
  rw [toList_toString_int, signOf] at htaken ⊢
  by_cases hn : n < 0
  · rw [if_pos hn] at htaken
    cases htaken '-' List.mem_cons_self
  · rw [if_neg hn]
    refine sign?_of_digits (fun c hc => ?_) hmark
    exact all_isDigit_toDigits n.natAbs c (List.mem_of_mem_drop hc)

theorem date?_numeral (n : Int) : date? (toString n).toList = none := by
  unfold date?
  cases h : field? 4 0 9999 (toString n).toList with
  | none => rfl
  | some found =>
    have hmark : sign? '-' found.2 = none := sign?_of_field rfl h
    simp [hmark]

theorem time?_numeral (n : Int) : time? (toString n).toList = none := by
  unfold time?
  cases h : field? 2 0 23 (toString n).toList with
  | none => rfl
  | some found =>
    have hmark : sign? ':' found.2 = none := sign?_of_field rfl h
    simp [hmark]

theorem isDatetime_numeral (n : Int) : isDatetime (toString n).toList = false := by
  rw [isDatetime, date?_numeral, time?_numeral]
  rfl

theorem decimal?_of_digits {digits : List Char} (hall : ∀ c ∈ digits, c.isDigit = true) :
    decimal? digits = none := by
  have hwhole : ∀ c ∈ digits, (c != '.' && !isExponentMark c) = true := by
    intro c hc
    by_contra hmark
    have hcases : c = '.' ∨ c = 'e' ∨ c = 'E' := by
      simpa [isExponentMark, Classical.or_iff_not_imp_left] using hmark
    rcases hcases with rfl | rfl | rfl <;> cases hall _ hc
  rw [decimal?, List.dropWhile_eq_nil_iff.mpr hwhole]
  cases wholeRun? _ <;> rfl

theorem toDigits_ne_word (n : Nat) {c : Char} (h : c.isDigit = false) (word : List Char) :
    Nat.toDigits 10 n ≠ c :: word := by
  intro hdigits
  have hc := all_isDigit_toDigits n c (hdigits ▸ List.mem_cons_self)
  rw [h] at hc
  cases hc

theorem isFloat_numeral (n : Int) : isFloat (toString n).toList = false := by
  have hinf : (Nat.toDigits 10 n.natAbs == "inf".toList) = false :=
    beq_false_of_ne (toDigits_ne_word n.natAbs rfl _)
  have hnan : (Nat.toDigits 10 n.natAbs == "nan".toList) = false :=
    beq_false_of_ne (toDigits_ne_word n.natAbs rfl _)
  rw [isFloat, splitSign_numeral]
  simp only [hinf, hnan, decimal?_of_digits (all_isDigit_toDigits n.natAbs)]
  rfl

/-! ### Numerals are whole numbers -/

theorem wholeRun?_toDigits (n : Nat) :
    wholeRun? (Nat.toDigits 10 n) = some (Nat.toDigits 10 n) := by
  rw [wholeRun?, digitRun?_of_digits Nat.toDigits_ne_nil (all_isDigit_toDigits n),
    Option.filter_some, if_pos]
  rw [Bool.or_eq_true, bne_iff_ne]
  rcases Nat.eq_zero_or_pos n with rfl | hn
  · exact .inl (by decide)
  · exact .inr (head_toDigits_ne_zero hn)

theorem unbounded?_numeral (n : Int) : unbounded? (toString n).toList = some n := by
  have hsplit := splitSign_numeral n
  unfold unbounded?
  split
  · rename_i letter rest h
    rw [h] at hsplit
    have hdigits : '0' :: letter :: rest = Nat.toDigits 10 n.natAbs := congrArg Prod.snd hsplit
    rcases Nat.eq_zero_or_pos n.natAbs with hzero | hpos
    · rw [hzero] at hdigits
      cases hdigits
    · exact absurd (hdigits ▸ rfl) (head_toDigits_ne_zero hpos)
  · rw [hsplit]
    simp only [wholeRun?_toDigits, ofDigits_toDigits, Option.map_some, decide_eq_true_eq]
    split <;> congr 1 <;> omega

theorem integer?_numeral (n : Int) :
    integer? (toString n).toList = if -2 ^ 63 ≤ n ∧ n < 2 ^ 63 then some n else none := by
  have hmin : Int64.minValue.toInt = -2 ^ 63 := by decide
  have hmax : Int64.maxValue.toInt = 2 ^ 63 - 1 := by decide
  rw [integer?, unbounded?_numeral, Option.filter_some, hmin, hmax]
  congr 1
  simp only [Bool.and_eq_true, decide_eq_true_eq, eq_iff_iff]
  omega

/-- What a numeral begins with. -/
theorem exists_numeral_eq_cons (n : Int) :
    ∃ c rest, (toString n).toList = c :: rest ∧
      ∀ other : Char, other.isDigit = false → other ≠ '-' → c ≠ other := by
  rw [toList_toString_int, signOf]
  split
  · exact ⟨'-', _, rfl, fun _ _ h => h.symm⟩
  · cases hdigits : Nat.toDigits 10 n.natAbs with
    | nil => exact absurd hdigits Nat.toDigits_ne_nil
    | cons c rest =>
      have hc := all_isDigit_toDigits n.natAbs c (hdigits ▸ List.mem_cons_self)
      refine ⟨c, rest, rfl, fun other hother _ hsame => ?_⟩
      rw [← hsame, hc] at hother
      cases hother

theorem numeral_ne_word (n : Int) {c : Char} (hdigit : c.isDigit = false) (hminus : c ≠ '-')
    (word : List Char) : (toString n).toList ≠ c :: word := by
  obtain ⟨first, rest, hnumeral, hfirst⟩ := exists_numeral_eq_cons n
  intro h
  exact hfirst c hdigit hminus (List.cons.inj (hnumeral.symm.trans h)).1

theorem ofRun?_numeral (n : Int) :
    ofRun? (toString n).toList =
      if -2 ^ 63 ≤ n ∧ n < 2 ^ 63 then some (.integer n) else none := by
  have htrue : (toString n).toList ≠ "true".toList := numeral_ne_word n rfl (by decide) _
  have hfalse : (toString n).toList ≠ "false".toList := numeral_ne_word n rfl (by decide) _
  rw [ofRun?, if_neg htrue, if_neg hfalse, isDatetime_numeral, isFloat_numeral,
    integer?_numeral]
  simp only [Bool.false_eq_true, if_false]
  split <;> rfl

/-- A run ends with its line. -/
theorem scalar?_of_run {run rest more : List Char} (hrun : ∀ c ∈ run, isRunPart c = true)
    (hrest : LineEnd rest more) : scalar? (run ++ rest) = (ofRun? run).map (·, rest) := by
  have htake : rest.takeWhile isRunPart = [] := by cases hrest <;> simp [isRunPart]
  have hdrop : rest.dropWhile isRunPart = rest := by cases hrest <;> simp [isRunPart]
  unfold scalar?
  rw [List.takeWhile_append_of_pos hrun, List.dropWhile_append_of_pos hrun, htake, hdrop,
    List.append_nil]
  cases hrest <;> rfl

theorem isRunPart_numeral (n : Int) : ∀ c ∈ (toString n).toList, isRunPart c = true := by
  intro c hc
  rw [toList_toString_int, List.mem_append] at hc
  rcases hc with hc | hc
  · have hminus : c = '-' := by
      unfold signOf at hc
      split at hc
      · exact List.mem_singleton.mp hc
      · cases hc
    rw [hminus]
    simp [isRunPart]
  · have hdigit := all_isDigit_toDigits n.natAbs c hc
    simp [isRunPart, Char.isAlphanum, hdigit]

/-- What begins with no bracket, brace or quote is a run. -/
theorem value?_of_plain {c : Char} (h : c ≠ '[' ∧ c ≠ openBrace ∧ c ≠ quote ∧ c ≠ apostrophe)
    (depth : Nat) (cs : List Char) : value? depth (c :: cs) = scalar? (c :: cs) := by
  obtain ⟨hbracket, hbrace, hquote, hapostrophe⟩ := h
  have hneither : ¬ (c = quote ∨ c = apostrophe) := not_or.mpr ⟨hquote, hapostrophe⟩
  rw [value?.eq_def]
  exact (if_neg hbracket).trans ((if_neg hbrace).trans (if_neg hneither))

theorem value?_quote (depth : Nat) (cs : List Char) :
    value? depth (quote :: cs) =
      (text? (quote :: cs)).map fun (text, rest) => (.string (String.ofList text), rest) := by
  have hbracket : quote ≠ '[' := by decide
  have hbrace : quote ≠ openBrace := by decide
  rw [value?.eq_def]
  exact (if_neg hbracket).trans ((if_neg hbrace).trans (if_pos (Or.inl rfl)))

/-- **A whole number is read as itself,** if it is in the range of sixty-four bits with a
sign. -/
theorem readsAs_numeral (n : Int) :
    ReadsAs (toString n).toList
      (if -2 ^ 63 ≤ n ∧ n < 2 ^ 63 then some (.integer n) else none) := by
  intro rest more hrest
  have hscalar := scalar?_of_run (isRunPart_numeral n) hrest
  rw [ofRun?_numeral] at hscalar
  obtain ⟨c, digits, hnumeral, hc⟩ := exists_numeral_eq_cons n
  have hblank : isBlank c = false := by
    simp [isBlank, hc ' ' rfl (by decide), hc '\t' rfl (by decide)]
  have hplain : c ≠ '[' ∧ c ≠ openBrace ∧ c ≠ quote ∧ c ≠ apostrophe :=
    ⟨hc _ rfl (by decide), hc _ rfl (by decide), hc _ rfl (by decide), hc _ rfl (by decide)⟩
  rw [← hscalar, hnumeral, List.cons_append, skipBlanks,
    List.dropWhile_cons_of_neg (by simp [hblank]), value?_of_plain hplain]

/-! ## Texts -/

/-- What stands for itself between two quotes. -/
def isLiteral (c : Char) : Bool := isPlain c && c != quote && c != '\\'

theorem basic?_of_literal {text : List Char} (h : ∀ c ∈ text, isLiteral c = true)
    (rest : List Char) : basic? (text ++ quote :: rest) = some (text, rest) := by
  induction text with
  | nil => rw [List.nil_append, basic?, if_pos rfl]
  | cons c text ih =>
    obtain ⟨hc, htext⟩ := List.forall_mem_cons.mp h
    simp only [isLiteral, Bool.and_eq_true, bne_iff_ne] at hc
    rw [List.cons_append, basic?, if_neg hc.1.2, if_neg hc.2, if_pos hc.1.1, ih htext]
    rfl

theorem readsAs_text {text : List Char} (h : ∀ c ∈ text, isLiteral c = true) :
    ReadsAs (quote :: (text ++ [quote])) (some (.string (String.ofList text))) := by
  intro rest more hrest
  have hbasic := basic?_of_literal h rest
  -- the text is not the beginning of three quotes
  have hsingle : [quote, quote].isPrefixOf (text ++ quote :: rest) = false := by
    cases text with
    | nil => cases hrest <;> rfl
    | cons c text =>
      have hc : (quote == c) = false := by
        refine beq_false_of_ne ?_
        rintro rfl
        cases h quote List.mem_cons_self
      rw [List.cons_append, List.isPrefixOf_cons_cons, hc, Bool.false_and]
  have htext : text? (quote :: (text ++ quote :: rest)) = some (text, rest) := by
    rw [text?, if_pos rfl, hsingle, if_neg Bool.false_ne_true, hbasic]
  rw [List.cons_append, List.append_assoc, skipBlanks, List.dropWhile_cons_of_neg (by decide),
    value?_quote, List.singleton_append, htext]
  rfl

/-! ## Names and plain values -/

theorem toNat_range_of_isAlphanum {c : Char} (h : c.isAlphanum = true) :
    48 ≤ c.toNat ∧ c.toNat ≤ 57 ∨ 65 ≤ c.toNat ∧ c.toNat ≤ 90 ∨ 97 ≤ c.toNat ∧ c.toNat ≤ 122 := by
  have hcodes : c.isAlphanum = (decide (65 ≤ c.val ∧ c.val ≤ 90) ||
      decide (97 ≤ c.val) && decide (c.val ≤ 122) ||
        decide (48 ≤ c.val) && decide (c.val ≤ 57)) := rfl
  simp only [hcodes, Bool.or_eq_true, Bool.and_eq_true, decide_eq_true_eq,
    UInt32.le_iff_toNat_le, UInt32.reduceToNat, Char.toNat_val] at h
  omega

theorem isLiteral_of_plain {c : Char} (h : c.isAlphanum = true ∨ c = '_') :
    isLiteral c = true := by
  rcases h with h | rfl
  · have hrange := toNat_range_of_isAlphanum h
    have hquote : c ≠ quote := by
      rintro rfl
      cases h
    have hbackslash : c ≠ '\\' := by
      rintro rfl
      cases h
    simp only [isLiteral, isPlain, Bool.and_eq_true, Bool.or_eq_true, bne_iff_ne,
      decide_eq_true_eq]
    exact ⟨⟨.inr (by omega), hquote⟩, hbackslash⟩
  · rfl

/-- A value that is written plainly is read as what it is. -/
theorem readsAs_written (value : PlainValue) : ReadsAs value.written.toList value.item? := by
  cases value with
  | integer n => exact readsAs_numeral n
  | string name =>
    have hitem : PlainValue.item? (.string name) =
        some (.string (String.ofList name.text.toList)) := by
      rw [String.ofList_toList]
      rfl
    rw [hitem, PlainValue.written, quoted, String.toList_ofList]
    exact readsAs_text fun c hc => isLiteral_of_plain (name.plain c hc)

end ResourceGuard.Toml
