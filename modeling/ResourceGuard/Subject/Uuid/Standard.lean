import ResourceGuard.Subject.Uuid
import ResourceGuard.Text.Signs

/-! # The usual forms of a UUID

A library for UUID texts that also reads the digits without hyphens, the
hyphenated form in braces, and the hyphenated form after a `urn:uuid:` heading
whose letters may be of either case. Main statement: it keeps to the hyphenated
form (`lawful_standard`). -/
namespace ResourceGuard.Uuid

/-- Take the hyphens out again; `none` unless they stand exactly between groups. -/
def dehyphenate? : List Nat → List Char → Option (List Char)
  | [], text => if text.isEmpty then some [] else none
  | [width], text => if text.length = width then some text else none
  | width :: widths, text =>
    if (text.drop width).head? = some '-' then
      (dehyphenate? widths (text.drop (width + 1))).map (text.take width ++ ·)
    else none

/-- What stands before the hyphenated form in a URN. -/
def heading : List Char := "urn:uuid:".toList

/-- Does the text start with the heading, each letter in either case? -/
def isHeaded (text : List Char) : Bool :=
  (text.take heading.length).map Char.toLower == heading

/-- The text without its braces or its heading, if it has any. -/
def unwrap (text : List Char) : List Char :=
  if [openBrace].isPrefixOf text ∧ [closeBrace].isSuffixOf text then (text.drop 1).dropLast
  else if isHeaded text then text.drop heading.length
  else text

/-- The thirty-two digits of a UUID text in any of its forms. Only the
hyphenated form may be wrapped. -/
def digits? (text : List Char) : Option (List Char) :=
  if text.length = 32 then some text else dehyphenate? groupWidths (unwrap text)

/-- The subject of a text in any of the forms. -/
def ofForm? (text : String) : Option SubjectId := do
  SubjectId.ofBytes? (← Hex.decode? (← digits? text.toList))

/-- A library that writes the hyphenated form and reads all forms. -/
@[reducible] def standard : Library := ⟨hyphenated, ofForm?⟩

/-! ## Reading undoes writing -/

theorem dehyphenate?_hyphenate : ∀ (widths : List Nat) (digits : List Char),
    digits.length = widths.foldr (· + ·) 0 →
      dehyphenate? widths (hyphenate widths digits) = some digits
  | [], digits, h => by simp_all [hyphenate, dehyphenate?]
  | [width], digits, h => by
    have : digits.length = width := by simpa using h
    simp [hyphenate, dehyphenate?, ← this]
  | width :: next :: widths, digits, h => by
    have hlen : (digits.take width).length = width := by simp_all
    have hrest := dehyphenate?_hyphenate (next :: widths) (digits.drop width) (by
      simp_all only [List.foldr_cons, List.length_drop]; omega)
    have hdrop : (digits.take width ++ '-' :: hyphenate (next :: widths)
        (digits.drop width)).drop (width + 1) =
        hyphenate (next :: widths) (digits.drop width) := by
      rw [List.drop_append, hlen, List.drop_eq_nil_of_le (by omega)]; simp
    have hhead : ((digits.take width ++ '-' :: hyphenate (next :: widths)
        (digits.drop width)).drop width).head? = some '-' := by
      rw [List.drop_append, hlen, List.drop_eq_nil_of_le (by omega)]; simp
    have htake : (digits.take width ++ '-' :: hyphenate (next :: widths)
        (digits.drop width)).take width = digits.take width := by
      rw [List.take_append, hlen]; simp [List.take_take]
    simp only [hyphenate, dehyphenate?, hhead, if_true, hdrop, hrest, htake, Option.map_some,
      List.take_append_drop]

/-- A text that starts with a digit is in no wrapping. -/
theorem unwrap_digit (d : Nat) (hd : d < 16) (text : List Char) :
    unwrap (Nat.digitChar d :: text) = Nat.digitChar d :: text := by
  have h : ∀ d < 16, (openBrace == Nat.digitChar d) = false ∧
      (Nat.digitChar d).toLower ≠ 'u' := by decide
  obtain ⟨hb, hu⟩ := h d hd
  have hheading : heading = 'u' :: "rn:uuid:".toList := by decide
  simp [unwrap, isHeaded, hheading, List.isPrefixOf, hb, hu]

theorem length_hyphenate (digits : List Char) (h : digits.length = 32) :
    (hyphenate groupWidths digits).length = 36 := by
  simp [groupWidths, hyphenate, h]

theorem ofForm?_hyphenated (s : SubjectId) : ofForm? (hyphenated s) = some s := by
  have hlen : (Hex.encode s.bytes).length = 32 := by
    rw [Hex.length_encode, s.length_bytes]
  have hwhole : unwrap (hyphenate groupWidths (Hex.encode s.bytes)) =
      hyphenate groupWidths (Hex.encode s.bytes) := by
    obtain ⟨b, rest, hs⟩ := List.exists_cons_of_length_pos (l := s.bytes) (by
      rw [s.length_bytes]; omega)
    have hb : b.toNat < 256 := b.toNat_lt
    rw [hs]
    exact unwrap_digit _ (by omega) _
  simp [ofForm?, hyphenated, digits?, length_hyphenate _ hlen, hwhole,
    dehyphenate?_hyphenate groupWidths _ (by rw [hlen]; rfl), Hex.decode?_encode,
    SubjectId.ofBytes?_bytes]

theorem lawful_standard : @Library.Lawful standard :=
  @Library.Lawful.mk standard (fun _ => rfl) ofForm?_hyphenated

end ResourceGuard.Uuid
