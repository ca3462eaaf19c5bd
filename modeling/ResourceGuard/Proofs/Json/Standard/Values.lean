import Mathlib.Data.List.Chain
import ResourceGuard.Json.Standard.Text
import ResourceGuard.Proofs.Json.Laws
import ResourceGuard.Proofs.Json.Standard.Text

/-! # Values are read as they were written

The lexemes of a value, taken under whatever is still open, lead from the place
where any value may come to the place after that value. So a value is what reading
finds in its text, however deep it is nested. Main statement: the library can be
relied on (`lawful_standard`). -/
namespace ResourceGuard.Json

namespace Value

/-! ## Taking the lexemes of a value -/

/-- The first item of an array is taken like any value. -/
theorem takeAll_firstItem {items : List Value} (hne : items ≠ []) (frames : List Frame)
    (rest : List Lexeme) :
    Progress.takeAll (.firstItem frames) (itemLexemes items ++ rest) =
      Progress.takeAll (.anyValue (.array [] :: frames)) (itemLexemes items ++ rest) := by
  obtain ⟨item, items, rfl⟩ := List.exists_cons_of_ne_nil hne
  cases items <;> cases item <;> rfl

/-- The first key of an object is taken like any other. -/
theorem takeAll_firstKey {members : List (Option String × Value)} (hne : members ≠ [])
    (frames : List Frame) (rest : List Lexeme) :
    Progress.takeAll (.firstKey frames) (memberLexemes members ++ rest) =
      Progress.takeAll (.nextKey [] frames) (memberLexemes members ++ rest) := by
  obtain ⟨member, members, rfl⟩ := List.exists_cons_of_ne_nil hne
  cases members <;> rfl

mutual

theorem takeAll_lexemes (v : Value) (frames : List Frame) (rest : List Lexeme) :
    Progress.takeAll (.anyValue frames) (v.lexemes ++ rest) =
      Progress.takeAll (.after v frames) rest :=
  match v with
  | null | bool _ | number _ | string _ | array [] | object [] => rfl
  | array (item :: items) =>
    have hne : item :: items ≠ [] := List.cons_ne_nil item items
    (takeAll_firstItem hne frames rest).trans
      (takeAll_itemLexemes (item :: items) hne [] frames rest)
  | object (member :: members) =>
    have hne : member :: members ≠ [] := List.cons_ne_nil member members
    (takeAll_firstKey hne frames rest).trans
      (takeAll_memberLexemes (member :: members) hne [] frames rest)

/-- The items that are left go behind those that are done, of which the last comes first. -/
theorem takeAll_itemLexemes (items : List Value) (hne : items ≠ []) (done : List Value)
    (frames : List Frame) (rest : List Lexeme) :
    Progress.takeAll (.anyValue (.array done :: frames)) (itemLexemes items ++ rest) =
      Progress.takeAll (.after (.array (done.reverse ++ items)) frames) rest :=
  match items, hne with
  | [item], _ => by
    have hitem := takeAll_lexemes item (.array done :: frames) (.closeArray :: rest)
    rw [itemLexemes, List.append_assoc]
    refine Eq.trans hitem ?_
    simp [Progress.takeAll, Progress.take]
  | item :: next :: items, _ => by
    have hitem := takeAll_lexemes item (.array done :: frames)
      (.comma :: itemLexemes (next :: items) ++ rest)
    have ih := takeAll_itemLexemes (next :: items) (List.cons_ne_nil next items) (item :: done)
      frames rest
    rw [List.reverse_cons, List.append_assoc, List.singleton_append] at ih
    rw [itemLexemes, List.append_assoc]
    · exact hitem.trans ih
    · exact List.cons_ne_nil next items

theorem takeAll_memberLexemes (members : List (Option String × Value)) (hne : members ≠ [])
    (done : List (Option String × Value)) (frames : List Frame) (rest : List Lexeme) :
    Progress.takeAll (.nextKey done frames) (memberLexemes members ++ rest) =
      Progress.takeAll (.after (.object (done.reverse ++ members)) frames) rest :=
  match members, hne with
  | [(key, value)], _ => by
    have hvalue := takeAll_lexemes value (.object done key :: frames) (.closeObject :: rest)
    rw [memberLexemes, List.cons_append, List.cons_append, List.append_assoc]
    refine Eq.trans hvalue ?_
    simp [Progress.takeAll, Progress.take]
  | (key, value) :: next :: members, _ => by
    have hvalue := takeAll_lexemes value (.object done key :: frames)
      (.comma :: memberLexemes (next :: members) ++ rest)
    have ih := takeAll_memberLexemes (next :: members) (List.cons_ne_nil next members)
      ((key, value) :: done) frames rest
    rw [List.reverse_cons, List.append_assoc, List.singleton_append] at ih
    rw [memberLexemes, List.cons_append, List.cons_append, List.append_assoc]
    · exact hvalue.trans ih
    · exact List.cons_ne_nil next members

end

theorem ofLexemes?_lexemes (v : Value) : ofLexemes? v.lexemes = some v := by
  have h := takeAll_lexemes v [] []
  rw [List.append_nil] at h
  rw [ofLexemes?, h]
  rfl

/-! ## Numbers and words do not touch -/

theorem isChain_cons_of_not_isRun {mark : Lexeme} (h : mark.isRun = false)
    {lexemes : List Lexeme} (hchain : lexemes.IsChain Lexeme.MayTouch) :
    (mark :: lexemes).IsChain Lexeme.MayTouch :=
  hchain.cons fun _ _ hrun => Bool.noConfusion (h.symm.trans hrun)

theorem isChain_append_of_not_isRun {first rest : List Lexeme} {mark : Lexeme}
    (h : mark.isRun = false) (hfirst : first.IsChain Lexeme.MayTouch)
    (hrest : rest.IsChain Lexeme.MayTouch) :
    (first ++ mark :: rest).IsChain Lexeme.MayTouch := by
  refine hfirst.append (isChain_cons_of_not_isRun h hrest) fun _ _ second hsecond _ => ?_
  obtain rfl : mark = second := Option.some.inj hsecond
  exact h

mutual

theorem isChain_lexemes (v : Value) : v.lexemes.IsChain Lexeme.MayTouch :=
  match v with
  | null | bool _ | number _ | string _ => .singleton _
  | array items => isChain_cons_of_not_isRun rfl (isChain_itemLexemes items)
  | object members => isChain_cons_of_not_isRun rfl (isChain_memberLexemes members)

theorem isChain_itemLexemes (items : List Value) :
    (itemLexemes items).IsChain Lexeme.MayTouch :=
  match items with
  | [] => .singleton _
  | [item] => isChain_append_of_not_isRun rfl (isChain_lexemes item) .nil
  | item :: next :: items =>
    isChain_append_of_not_isRun rfl (isChain_lexemes item) (isChain_itemLexemes (next :: items))

theorem isChain_memberLexemes (members : List (Option String × Value)) :
    (memberLexemes members).IsChain Lexeme.MayTouch :=
  match members with
  | [] => .singleton _
  | [(_, value)] =>
    isChain_cons_of_not_isRun rfl (isChain_cons_of_not_isRun rfl
      (isChain_append_of_not_isRun rfl (isChain_lexemes value) .nil))
  | (_, value) :: next :: members =>
    isChain_cons_of_not_isRun rfl (isChain_cons_of_not_isRun rfl
      (isChain_append_of_not_isRun rfl (isChain_lexemes value)
        (isChain_memberLexemes (next :: members))))

end

/-- **A value is read as it was written.** -/
theorem ofText?_toText (v : Value) : ofText? v.toText = some v := by
  have hlexemes := lexemes?_flatMap_write (isChain_lexemes v)
  rw [ofText?, toText, String.toList_ofList, hlexemes, Option.bind_some, ofLexemes?_lexemes]

end Value

/-! ## Whole numbers -/

theorem toInt?_ofNat {n : Nat} (hn : n < 2 ^ 64) : (Numeral.ofNat n).toInt? = some (n : Int) := by
  have hcount : Nat.ofDigitChars 10 (Nat.toDigits 10 n) 0 = n :=
    Nat.ofDigitChars_toDigits (by decide) (by decide)
  unfold Numeral.toInt? Numeral.ofNat
  split
  case h_1 rest h =>
    have hdigits : Nat.toDigits 10 n = '-' :: rest := h
    have hminus := all_isDigit_toDigits n '-' (hdigits ▸ List.mem_cons_self)
    cases hminus
  case h_2 =>
    simp only [isWhole_toDigits, hcount, true_and]
    exact if_pos hn

theorem quantity_of_toInt? {numeral : Numeral} {n : Int} (h : numeral.toInt? = some n) :
    numeral.quantity = n := by
  unfold Numeral.toInt? at h
  split at h
  case h_1 digits hliteral =>
    obtain ⟨⟨hwhole, -⟩, hn⟩ := Option.ite_none_right_eq_some.mp h
    rw [Numeral.quantity_of_minus hliteral, ← Option.some.inj hn, magnitude_of_isWhole hwhole]
    simp
  case h_2 hplain =>
    obtain ⟨⟨hwhole, -⟩, hn⟩ := Option.ite_none_right_eq_some.mp h
    rw [Numeral.quantity_of_unsigned hplain, ← Option.some.inj hn, magnitude_of_isWhole hwhole]
    simp

theorem lawful_standard : @Library.Lawful standard :=
  @Library.Lawful.mk standard (fun v _ => Value.ofText?_toText v) (fun _ => toInt?_ofNat)
    fun _ _ => quantity_of_toInt?

end ResourceGuard.Json
