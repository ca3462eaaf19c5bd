import ResourceGuard.Endpoint
import ResourceGuard.Text.Numerals

/-! # Endpoints and their texts

An address may be any text, also one that looks like the rest of an endpoint's text. Still
no two endpoints share a text. No tag has a colon in it, so the first colon ends the tag; and
there is none in what follows the address and its colon, so the last one ends the address. -/
namespace ResourceGuard

section Marks
variable {α : Type} {mark : α} {before after before' after' : List α}

/-- Lists that are cut at their first mark. -/
theorem append_cons_inj_of_first (h : mark ∉ before) (h' : mark ∉ before') :
    before ++ mark :: after = before' ++ mark :: after' ↔ before = before' ∧ after = after' := by
  refine ⟨fun heq => ?_, fun ⟨hbefore, hafter⟩ => by rw [hbefore, hafter]⟩
  induction before generalizing before' with
  | nil =>
    cases before' with
    | nil => exact ⟨rfl, (List.cons.inj heq).2⟩
    | cons a before' => exact absurd (List.cons.inj heq).1 (List.ne_of_not_mem_cons h')
  | cons a before ih =>
    cases before' with
    | nil => exact absurd (List.cons.inj heq).1.symm (List.ne_of_not_mem_cons h)
    | cons a' before' =>
      obtain ⟨ha, heq⟩ := List.cons.inj heq
      obtain ⟨hbefore, hafter⟩ :=
        ih (List.not_mem_of_not_mem_cons h) (List.not_mem_of_not_mem_cons h') heq
      exact ⟨by rw [ha, hbefore], hafter⟩

/-- Lists that are cut at their last mark. -/
theorem append_cons_inj_of_last (h : mark ∉ after) (h' : mark ∉ after') :
    before ++ mark :: after = before' ++ mark :: after' ↔ before = before' ∧ after = after' := by
  have hreverse : after.reverse ++ mark :: before.reverse =
      after'.reverse ++ mark :: before'.reverse ↔
        after.reverse = after'.reverse ∧ before.reverse = before'.reverse :=
    append_cons_inj_of_first (mt List.mem_reverse.mp h) (mt List.mem_reverse.mp h')
  rw [← List.reverse_inj]
  simpa [and_comm] using hreverse

end Marks

theorem Adapter.tag_injective : Function.Injective Adapter.tag := by
  intro a b
  cases a <;> cases b <;> decide

theorem Adapter.not_mem_tag (a : Adapter) : ':' ∉ a.tag.toList := by
  cases a <;> decide

theorem EndpointId.text_injective : Function.Injective EndpointId.text := by
  intro a b h
  have hhandle := Nat.repr_injective ((String.append_right_inj "endpoint-").mp h)
  exact congrArg EndpointId.mk (UInt64.toNat_inj.mp hhandle)

theorem EndpointId.not_mem_text (id : EndpointId) : ':' ∉ id.text.toList := by
  rw [EndpointId.text, String.toList_append, List.mem_append, not_or]
  exact ⟨by decide, not_mem_numeral rfl _⟩

namespace Endpoint

/-- What follows the address and its colon. -/
def ending (e : Endpoint) : List Char :=
  (toString e.port.toNat).toList ++ ' ' :: '(' :: (e.id.text.toList ++ [')'])

theorem toList_text (e : Endpoint) :
    e.text.toList = e.adapter.tag.toList ++ ':' :: (e.address.toList ++ ':' :: e.ending) := by
  simp [text, ending]

theorem not_mem_ending (e : Endpoint) : ':' ∉ e.ending := by
  rw [ending, List.mem_append, not_or]
  exact ⟨not_mem_numeral rfl _, by simp [e.id.not_mem_text]⟩

theorem ending_inj {a b : Endpoint} : a.ending = b.ending ↔ a.port = b.port ∧ a.id = b.id := by
  rw [ending, ending, append_cons_inj_of_first (not_mem_numeral rfl _) (not_mem_numeral rfl _)]
  refine and_congr ?_ ?_
  · rw [String.toList_inj, ← UInt16.toNat_inj]
    exact ⟨fun h => Nat.repr_injective h, fun h => by rw [h]⟩
  · rw [List.cons_inj_right, List.append_left_inj, String.toList_inj]
    exact EndpointId.text_injective.eq_iff

/-- **An endpoint's text identifies it.** Whatever characters the addresses have, two
endpoints have the same text just if they agree in handle, adapter, address and port. -/
theorem text_eq_iff (a b : Endpoint) :
    a.text = b.text ↔
      a.id = b.id ∧ a.adapter = b.adapter ∧ a.address = b.address ∧ a.port = b.port := by
  rw [← String.toList_inj, toList_text, toList_text,
    append_cons_inj_of_first a.adapter.not_mem_tag b.adapter.not_mem_tag,
    append_cons_inj_of_last a.not_mem_ending b.not_mem_ending, ending_inj, String.toList_inj,
    String.toList_inj, Adapter.tag_injective.eq_iff]
  constructor
  · rintro ⟨hadapter, haddress, hport, hid⟩
    exact ⟨hid, hadapter, haddress, hport⟩
  · rintro ⟨hid, hadapter, haddress, hport⟩
    exact ⟨hadapter, haddress, hport, hid⟩

end Endpoint

end ResourceGuard
