import Mathlib.Data.List.Basic
import ResourceGuard.Json.Standard.Lexeme

/-! # Lexemes are read as they were written

A written string ends at the first quote that is not escaped, and its escapes
stand for the characters they were written for. A number or a word ends where
something else begins, so two of them must not touch; all other lexemes end by
themselves. Main statement: lexemes written one after another are what reading
finds (`lexemes?_flatMap_write`). -/
namespace ResourceGuard.Json

/-! ## Strings -/

/-- What begins with no backslash begins with no escape. -/
theorem scanString_cons {c : Char} (h : c ≠ '\\') (cs : List Char) :
    scanString (c :: cs) =
      if c = quote then some ([], cs)
      else if c = '\\' ∨ c.toNat < 32 then none
      else (scanString cs).map fun scanned => (c.toNat :: scanned.1, scanned.2) := by
  rw [scanString]
  · rintro _ _ _ _ _ rfl
    exact absurd rfl h
  · rintro _ _ rfl
    exact absurd rfl h

theorem scanString_quote (cs : List Char) : scanString (quote :: cs) = some ([], cs) := by
  rw [scanString_cons (by decide), if_pos rfl]

theorem scanString_plain {c : Char} (hquote : c ≠ quote) (hslash : c ≠ '\\')
    (hcontrol : ¬ c.toNat < 32) (cs : List Char) :
    scanString (c :: cs) =
      (scanString cs).map fun scanned => (c.toNat :: scanned.1, scanned.2) := by
  rw [scanString_cons hslash, if_neg hquote, if_neg (not_or.mpr ⟨hslash, hcontrol⟩)]

theorem scanString_short {e c : Char} (h : shortEscapes.lookup e = some c) (cs : List Char) :
    scanString ('\\' :: e :: cs) =
      (scanString cs).map fun scanned => (c.toNat :: scanned.1, scanned.2) := by
  have he : e ≠ 'u' := by
    rintro rfl
    have hnone : shortEscapes.lookup 'u' = none := by decide
    rw [hnone] at h
    cases h
  rw [scanString, h]
  rintro _ _ _ _ _ rfl
  exact absurd rfl he

theorem fourDigits?_control {n : Nat} (hn : n < 32) :
    fourDigits? '0' '0' (Nat.digitChar (n / 16)) (Nat.digitChar (n % 16)) = some n := by
  have hzero : Hex.digitValue? '0' = some 0 := by decide
  simp only [fourDigits?, hzero, Hex.digitValue?_digitChar (n / 16) (by omega),
    Hex.digitValue?_digitChar (n % 16) (by omega), Option.bind_eq_bind, Option.bind_some]
  exact congrArg some (by omega)

/-- A written character is scanned as itself. -/
theorem scanString_escape (c : Char) (cs : List Char) :
    scanString (escape c ++ cs) =
      (scanString cs).map fun scanned => (c.toNat :: scanned.1, scanned.2) := by
  unfold escape
  split
  case isTrue h => rcases h with rfl | rfl <;> exact scanString_short (by decide) cs
  split
  case isTrue h => subst h; exact scanString_short (by decide) cs
  split
  case isTrue h => subst h; exact scanString_short (by decide) cs
  split
  case isTrue h => subst h; exact scanString_short (by decide) cs
  split
  case isTrue h => subst h; exact scanString_short (by decide) cs
  split
  case isTrue h => subst h; exact scanString_short (by decide) cs
  split
  case isTrue h => simp [scanString, fourDigits?_control h]
  case isFalse hmark _ _ _ _ _ hcontrol =>
    exact scanString_plain (fun h => hmark (.inl h)) (fun h => hmark (.inr h)) hcontrol cs

theorem scanString_flatMap_escape (text rest : List Char) :
    scanString (text.flatMap escape ++ quote :: rest) = some (text.map Char.toNat, rest) := by
  induction text with
  | nil => exact scanString_quote rest
  | cons c text ih =>
    rw [List.flatMap_cons, List.append_assoc, scanString_escape, ih]
    rfl

/-- No character is half of one. -/
theorem not_surrogate (c : Char) :
    isHighSurrogate c.toNat = false ∧ isLowSurrogate c.toNat = false := by
  have hvalid : c.toNat < 0xD800 ∨ 0xDFFF < c.toNat ∧ c.toNat < 0x110000 := c.valid
  simp only [isHighSurrogate, isLowSurrogate, Bool.and_eq_false_iff, decide_eq_false_iff_not]
  omega

theorem joinHalves?_toNat (cs : List Char) : joinHalves? (cs.map Char.toNat) = some cs := by
  induction cs with
  | nil => rfl
  | cons c cs ih =>
    obtain ⟨hhigh, hlow⟩ := not_surrogate c
    cases cs with
    | nil => simp [joinHalves?, hhigh, hlow]
    | cons next cs =>
      rw [List.map_cons, List.map_cons] at *
      simp [joinHalves?, hhigh, hlow, ih]

/-! ## Numbers and words -/

theorem all_isNumberPart_of_isDigits {cs : List Char} (h : isDigits cs = true) :
    cs.all isNumberPart = true := by
  simp only [isDigits, Bool.and_eq_true, List.all_eq_true] at h ⊢
  intro c hc
  simp [isNumberPart, h.2 c hc]

theorem all_isNumberPart_of_isExponent {cs : List Char} (h : isExponent cs = true) :
    cs.all isNumberPart = true := by
  match cs with
  | [] => rfl
  | [_] => simp [isExponent] at h
  | mark :: sign :: rest =>
    simp only [isExponent, Bool.and_eq_true] at h
    obtain ⟨hmark, hrest⟩ := h
    have hpart : isNumberPart mark = true := by
      simp only [isExponentMark, Bool.or_eq_true, beq_iff_eq] at hmark
      rcases hmark with rfl | rfl <;> decide
    rw [List.all_cons, hpart, Bool.true_and]
    split at hrest
    case isTrue hsign =>
      have hsign : isNumberPart sign = true := by
        simp only [Bool.or_eq_true, beq_iff_eq] at hsign
        rcases hsign with rfl | rfl <;> decide
      rw [List.all_cons, hsign, Bool.true_and, all_isNumberPart_of_isDigits hrest]
    case isFalse => exact all_isNumberPart_of_isDigits hrest

theorem all_isNumberPart_of_isTail {cs : List Char} (h : isTail cs = true) :
    cs.all isNumberPart = true := by
  unfold isTail at h
  split at h
  case h_1 rest =>
    rw [Bool.and_eq_true] at h
    rw [List.all_cons, ← List.takeWhile_append_dropWhile (l := rest) (p := Char.isDigit),
      List.all_append, all_isNumberPart_of_isDigits h.1, all_isNumberPart_of_isExponent h.2]
    decide
  case h_2 => exact all_isNumberPart_of_isExponent h

theorem isUnsigned_parts {cs : List Char} (h : isUnsigned cs = true) :
    cs ≠ [] ∧ cs.all isNumberPart = true := by
  simp only [isUnsigned, isWhole, Bool.and_eq_true] at h
  obtain ⟨⟨hdigits, -⟩, htail⟩ := h
  constructor
  · rintro rfl
    simp [isDigits] at hdigits
  · rw [← List.takeWhile_append_dropWhile (l := cs) (p := Char.isDigit), List.all_append,
      all_isNumberPart_of_isDigits hdigits, all_isNumberPart_of_isTail htail]
    rfl

theorem isNumber_parts {cs : List Char} (h : isNumber cs = true) :
    cs ≠ [] ∧ cs.all isNumberPart = true := by
  unfold isNumber at h
  split at h
  case h_1 rest =>
    refine ⟨List.cons_ne_nil _ _, ?_⟩
    rw [List.all_cons, (isUnsigned_parts h).2]
    decide
  case h_2 => exact isUnsigned_parts h

/-- What a number or a word is made of is nothing that opens another lexeme. -/
theorem isNumberPart_apart {c : Char} (h : isNumberPart c = true) :
    isBlank c = false ∧ c ≠ quote ∧ mark? c = none := by
  have hnot : ∀ other, isNumberPart other = false → c ≠ other := by
    rintro other hother rfl
    exact Bool.noConfusion (h.symm.trans hother)
  refine ⟨?_, hnot _ (by decide), ?_⟩
  · simp [isBlank, hnot ' ' (by decide), hnot '\n' (by decide), hnot '\t' (by decide),
      hnot '\r' (by decide)]
  · simp only [mark?, hnot '[' (by decide), hnot ']' (by decide), hnot openBrace (by decide),
      hnot closeBrace (by decide), hnot ',' (by decide), hnot ':' (by decide), if_false]

/-! ## One lexeme -/

/-- A number or a word, whose end is only told by what comes next. -/
def Lexeme.isRun : Lexeme → Bool
  | null | bool _ | number _ => true
  | _ => false

/-- Nothing that would prolong a number or a word comes first. -/
def Apart (cs : List Char) : Prop := ∀ c ∈ cs.head?, isNumberPart c = false

theorem lexemes?_run {run : List Char} (hne : run ≠ [])
    (hparts : run.all isNumberPart = true) {lexeme : Lexeme} (hread : run? run = some lexeme)
    {cs : List Char} (hcs : Apart cs) :
    lexemes? (run ++ cs) = (lexemes? cs).map (lexeme :: ·) := by
  obtain ⟨c, run, rfl⟩ := List.exists_cons_of_ne_nil hne
  rw [List.all_cons, Bool.and_eq_true] at hparts
  obtain ⟨hblank, hquote, hmark⟩ := isNumberPart_apart hparts.1
  have hall : ∀ d ∈ run, isNumberPart d = true := List.all_eq_true.mp hparts.2
  have htake : (run ++ cs).takeWhile isNumberPart = run := by
    rw [List.takeWhile_append_of_pos hall]
    cases cs with
    | nil => simp
    | cons d cs => simp [hcs d rfl]
  have hdrop : (run ++ cs).dropWhile isNumberPart = cs := by
    rw [List.dropWhile_append_of_pos hall]
    cases cs with
    | nil => rfl
    | cons d cs => simp [hcs d rfl]
  rw [List.cons_append, lexemes?]
  simp only [hblank, hquote, hmark, htake, hdrop, hread, if_false, Bool.false_eq_true]
  cases lexemes? cs <;> rfl

theorem lexemes?_mark {c : Char} {mark : Lexeme} (hmark : mark? c = some mark)
    (cs : List Char) : lexemes? (c :: cs) = (lexemes? cs).map (mark :: ·) := by
  have hblank : isBlank c = false := by
    by_contra h
    simp only [isBlank, Bool.or_eq_true, beq_iff_eq, Bool.not_eq_false] at h
    rcases h with ((rfl | rfl) | rfl) | rfl <;> cases hmark
  have hquote : c ≠ quote := by
    rintro rfl
    cases hmark
  rw [lexemes?]
  simp [hblank, hquote, hmark]

theorem lexemes?_quote {body rest : List Char} {codes : List Nat}
    (hscan : scanString body = some (codes, rest)) :
    lexemes? (quote :: body) =
      (lexemes? rest).map (.string ((joinHalves? codes).map String.ofList) :: ·) := by
  rw [lexemes?, if_neg (by decide), if_pos rfl]
  split
  case h_1 h => cases h.symm.trans hscan
  case h_2 h =>
    obtain ⟨rfl, rfl⟩ := Prod.mk.inj (Option.some.inj (h.symm.trans hscan))
    rfl

/-- A lexeme is read as it was written, whatever follows, as long as nothing prolongs it. -/
theorem lexemes?_write {lexeme : Lexeme} {cs : List Char}
    (hcs : lexeme.isRun = true → Apart cs) :
    lexemes? (lexeme.write ++ cs) = (lexemes? cs).map (lexeme :: ·) := by
  cases lexeme with
  | openArray | closeArray | openObject | closeObject | comma | colon =>
    exact lexemes?_mark rfl cs
  | null => exact lexemes?_run (by decide) (by decide) rfl (hcs rfl)
  | bool value =>
    cases value <;> exact lexemes?_run (by decide) (by decide) rfl (hcs rfl)
  | number numeral =>
    obtain ⟨hne, hparts⟩ := isNumber_parts numeral.isNumber_literal
    exact lexemes?_run hne hparts (dif_pos numeral.isNumber_literal) (hcs rfl)
  | string text =>
    cases text with
    | none =>
      have hscan : scanString ("\\ud800".toList ++ quote :: cs) = some ([0xD800], cs) := by
        have hcode : fourDigits? 'd' '8' '0' '0' = some 0xD800 := by decide
        simp [scanString, hcode, scanString_quote]
      rw [Lexeme.write, List.cons_append, List.cons_append, List.append_assoc,
        List.singleton_append]
      exact lexemes?_quote hscan
    | some text =>
      have hscan := scanString_flatMap_escape text.toList cs
      rw [Lexeme.write, List.cons_append, List.cons_append, List.append_assoc,
        List.singleton_append, lexemes?_quote hscan, joinHalves?_toNat, Option.map_some,
        String.ofList_toList]

/-! ## A sequence of lexemes -/

/-- Two lexemes may stand side by side unless the end of the first could not be told. -/
def Lexeme.MayTouch (first second : Lexeme) : Prop := first.isRun = true → second.isRun = false

theorem apart_write {lexeme : Lexeme} (h : lexeme.isRun = false) (cs : List Char) :
    Apart (lexeme.write ++ cs) := by
  cases lexeme with
  | null | bool | number => cases h
  | string text => cases text <;> exact fun c hc => by cases hc; decide
  | _ => exact fun c hc => by cases hc; decide

/-- **Lexemes that do not run into one another are read as they were written.** -/
theorem lexemes?_flatMap_write {lexemes : List Lexeme}
    (hchain : lexemes.IsChain Lexeme.MayTouch) :
    lexemes? (lexemes.flatMap Lexeme.write) = some lexemes := by
  induction lexemes with
  | nil => rw [List.flatMap_nil, lexemes?]
  | cons lexeme lexemes ih =>
    have hrest := ih hchain.of_cons
    have hnext : lexeme.isRun = true → Apart (lexemes.flatMap Lexeme.write) := by
      intro hrun
      cases hchain with
      | singleton => exact fun c hc => by cases hc
      | cons_cons htouch => exact apart_write (htouch hrun) _
    rw [List.flatMap_cons, lexemes?_write hnext, hrest]
    rfl

end ResourceGuard.Json
