import ResourceGuard.Audit

/-! # Reactions

A call to the engine or to the guard is a function of the state and of what the
collaborators say. Its reaction is everything it brings about: a result, the
next state, the contacts made and the entries logged, both in order. Reactions
follow one another with `andThen`. -/
namespace ResourceGuard

/-- Everything one call brings about. -/
structure Reaction (σ α : Type) where
  result : α
  next : σ
  contacts : List Contact := []
  entries : List AuditEntry := []
  deriving DecidableEq

namespace Reaction

variable {σ τ α β : Type}

/-- Go on from the state and the result that a reaction leads to. -/
def andThen (r : Reaction σ α) (f : σ → α → Reaction σ β) : Reaction σ β :=
  let s := f r.next r.result
  { result := s.result, next := s.next,
    contacts := r.contacts ++ s.contacts, entries := r.entries ++ s.entries }

/-- The same with contacts and entries that came before it. -/
def after (r : Reaction σ α) (contacts : List Contact) (entries : List AuditEntry) :
    Reaction σ α :=
  { r with contacts := contacts ++ r.contacts, entries := entries ++ r.entries }

/-- The same with another result. -/
def map (f : α → β) (r : Reaction σ α) : Reaction σ β :=
  { r with result := f r.result }

/-- The same as a reaction of a larger whole that the state is a part of. -/
def within (put : σ → τ) (r : Reaction σ α) : Reaction τ α :=
  { r with next := put r.next }

@[simp] theorem result_andThen (r : Reaction σ α) (f : σ → α → Reaction σ β) :
    (r.andThen f).result = (f r.next r.result).result := rfl

@[simp] theorem next_andThen (r : Reaction σ α) (f : σ → α → Reaction σ β) :
    (r.andThen f).next = (f r.next r.result).next := rfl

@[simp] theorem contacts_andThen (r : Reaction σ α) (f : σ → α → Reaction σ β) :
    (r.andThen f).contacts = r.contacts ++ (f r.next r.result).contacts := rfl

@[simp] theorem entries_andThen (r : Reaction σ α) (f : σ → α → Reaction σ β) :
    (r.andThen f).entries = r.entries ++ (f r.next r.result).entries := rfl

@[simp] theorem result_after (r : Reaction σ α) (cs es) : (r.after cs es).result = r.result := rfl

@[simp] theorem next_after (r : Reaction σ α) (cs es) : (r.after cs es).next = r.next := rfl

@[simp] theorem contacts_after (r : Reaction σ α) (cs es) :
    (r.after cs es).contacts = cs ++ r.contacts := rfl

@[simp] theorem entries_after (r : Reaction σ α) (cs es) :
    (r.after cs es).entries = es ++ r.entries := rfl

theorem after_andThen (r : Reaction σ α) (cs es) (f : σ → α → Reaction σ β) :
    (r.after cs es).andThen f = (r.andThen f).after cs es := by
  simp only [andThen, after, List.append_assoc]

theorem after_after (r : Reaction σ α) (cs es cs' es') :
    (r.after cs es).after cs' es' = r.after (cs' ++ cs) (es' ++ es) := by
  simp only [after, List.append_assoc]

theorem within_after (put : σ → τ) (r : Reaction σ α) (cs es) :
    (r.after cs es).within put = (r.within put).after cs es := rfl

@[simp] theorem result_map (f : α → β) (r : Reaction σ α) : (r.map f).result = f r.result := rfl

@[simp] theorem next_map (f : α → β) (r : Reaction σ α) : (r.map f).next = r.next := rfl

@[simp] theorem contacts_map (f : α → β) (r : Reaction σ α) :
    (r.map f).contacts = r.contacts := rfl

@[simp] theorem entries_map (f : α → β) (r : Reaction σ α) : (r.map f).entries = r.entries := rfl

@[simp] theorem result_within (put : σ → τ) (r : Reaction σ α) :
    (r.within put).result = r.result := rfl

@[simp] theorem next_within (put : σ → τ) (r : Reaction σ α) :
    (r.within put).next = put r.next := rfl

@[simp] theorem contacts_within (put : σ → τ) (r : Reaction σ α) :
    (r.within put).contacts = r.contacts := rfl

@[simp] theorem entries_within (put : σ → τ) (r : Reaction σ α) :
    (r.within put).entries = r.entries := rfl

end Reaction

end ResourceGuard
