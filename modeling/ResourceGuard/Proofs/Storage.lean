import ResourceGuard.Proofs.Scenarios

/-! # The last write wins

Stores are registered one after another, and bytes are written, read and removed under keys
of whichever store is registered at the moment. A store returns for a key what was last
written there, unless it was removed since; nothing that is done with another store or
another key, and no other call to the guard, makes a difference to that. -/
namespace ResourceGuard

/-! ## A store by itself -/

namespace BlobStore

variable {b : BlobStore} {key other : String} {data : List UInt8}

def get? (b : BlobStore) (key : String) : Option (List UInt8) := b.blobs[key]?

theorem read_eq (b : BlobStore) (key : String) :
    b.read key = match b.get? key with
      | some data => .ok data
      | none => .error (absent key) := rfl

theorem get?_empty : ({} : BlobStore).get? key = none := Std.HashMap.getElem?_empty

theorem get?_write : (b.write key data).get? other =
    if key = other then some data else b.get? other := by
  simp [get?, write, Std.HashMap.getElem?_insert]

theorem unlink_of_some (h : b.get? key = some data) :
    b.unlink key = .ok ⟨b.blobs.erase key⟩ := by
  rw [get?] at h
  rw [unlink, h]

theorem unlink_of_none (h : b.get? key = none) : b.unlink key = .error (absent key) := by
  rw [get?] at h
  rw [unlink, h]

theorem get?_erase : (⟨b.blobs.erase key⟩ : BlobStore).get? other =
    if key = other then none else b.get? other := by
  simp [get?, Std.HashMap.getElem?_erase]

end BlobStore

/-! ## What is said of a scenario -/

namespace Scenario

section Statement

variable [Uuid.Library]

namespace Moment

/-- This store is registered at this moment. -/
structure Registers (m : Moment) (store : StoreName) : Prop where
  call : m.action.call? = some (.registerStorage (some store))
  result : m.result = .returned .accepted

/-- These bytes are written under this key, and this store is the registered one. -/
structure Writes (m : Moment) (store : StoreName) (key : String) (data : List UInt8) : Prop where
  action : m.action = .write key data
  registered : m.scenario.guard.storage = some store
  result : m.result = .stored

/-- This key is removed, and this store is the registered one. -/
structure Unlinks (m : Moment) (store : StoreName) (key : String) : Prop where
  action : m.action = .unlink key
  registered : m.scenario.guard.storage = some store
  result : m.result = .stored

def Changes (m : Moment) (store : StoreName) (key : String) : Prop :=
  (∃ data, m.Writes store key data) ∨ m.Unlinks store key

end Moment

/-- One of these moments is of the first kind, and none after it of the second. -/
def Last (kind others : Moment → Prop) (past : List Moment) : Prop :=
  ∃ before m between, past = before ++ m :: between ∧ kind m ∧ ∀ n ∈ between, ¬ others n

/-- This store was registered, and since then no other. -/
def RegisteredLast (past : List Moment) (store : StoreName) : Prop :=
  Last (·.Registers store) (fun m => ∃ other, m.Registers other) past

/-- These bytes were written under a key of the store, and since then no others were, nor
was the key removed. -/
def WrittenLast (past : List Moment) (store : StoreName) (key : String) (data : List UInt8) :
    Prop :=
  Last (·.Writes store key data) (·.Changes store key) past

def reading (s : Scenario) (key : String) : Moment := ⟨s, .read key⟩

def writing (s : Scenario) (key : String) (data : List UInt8) : Moment := ⟨s, .write key data⟩

def unlinking (s : Scenario) (key : String) : Moment := ⟨s, .unlink key⟩

/-- What reading the key would return if this store were registered first. -/
def answer (s : Scenario) (store : StoreName) (key : String) : Result :=
  ((s.afterActions [.useStore store]).reading key).result

/-- In the scenario that these moments have led to, every store has what was last written
to it. -/
structure LastWriteWins (past : List Moment) (s : Scenario) : Prop where
  registered_iff : ∀ store, s.guard.storage = some store ↔ RegisteredLast past store
  unregistered_iff : s.guard.storage = none ↔ ∀ m ∈ past, ∀ store, ¬ m.Registers store
  /-- To register nothing fails, and keeps the store that is registered. -/
  refused : (⟨s, .call (.registerStorage none)⟩ : Moment).result =
      .returned (.error (.invalidParameter .missingStorage)) ∧
    (⟨s, .call (.registerStorage none)⟩ : Moment).next.guard.storage = s.guard.storage
  accepted : ∀ store, (⟨s, .useStore store⟩ : Moment).Registers store
  read_iff : ∀ key data, (s.reading key).result = .data data ↔
    ∃ store, RegisteredLast past store ∧ WrittenLast past store key data
  /-- What was never written, or was removed, is not found. -/
  absent_iff : ∀ key, (s.reading key).result = .fault ⟨.notFound, key⟩ ↔
    ∃ store, RegisteredLast past store ∧ ∀ data, ¬ WrittenLast past store key data
  read_next : ∀ key, (s.reading key).next = s
  written_iff : ∀ key data, (s.writing key data).result = .stored ↔
    ∃ store, RegisteredLast past store
  unlinked_iff : ∀ key, (s.unlinking key).result = .stored ↔
    ∃ data, (s.reading key).result = .data data
  /-- To remove a key that cannot be read fails in the same way, and changes nothing. -/
  unlink_failed : ∀ key, (s.unlinking key).result ≠ .stored →
    (s.unlinking key).result = (s.reading key).result ∧ (s.unlinking key).next = s
  /-- Whatever is done in between with other stores and other keys, a store goes on to
  return the same. -/
  undisturbed : ∀ later store key, (∀ m ∈ s.moments later, ¬ m.Changes store key) →
    (s.afterActions later).answer store key = s.answer store key

end Statement

/-! ## The last of its kind -/

theorem last_concat {kind others : Moment → Prop} {past : List Moment} {m : Moment} :
    Last kind others (past ++ [m]) ↔ kind m ∨ ¬ others m ∧ Last kind others past := by
  constructor
  · rintro ⟨before, n, between, hpast, hn, hbetween⟩
    rcases List.eq_nil_or_concat between with rfl | ⟨between, last, rfl⟩
    · obtain ⟨-, hlast⟩ := List.append_inj' hpast rfl
      obtain rfl := List.singleton_inj.mp hlast
      exact .inl hn
    · rw [List.concat_eq_append] at hpast hbetween
      rw [← List.cons_append, ← List.append_assoc] at hpast
      obtain ⟨rfl, hlast⟩ := List.append_inj' hpast rfl
      obtain rfl := List.singleton_inj.mp hlast
      exact .inr ⟨hbetween m List.mem_concat_self, before, n, between, rfl, hn,
        fun k hk => hbetween k (List.mem_append_left _ hk)⟩
  · rintro (hm | ⟨hm, before, n, between, rfl, hn, hbetween⟩)
    · exact ⟨past, m, [], rfl, hm, by simp⟩
    · refine ⟨before, n, between ++ [m], by simp, hn, fun k hk => ?_⟩
      rcases List.mem_append.mp hk with hk | hk
      · exact hbetween k hk
      · rwa [List.mem_singleton.mp hk]

theorem not_last_nil {kind others : Moment → Prop} : ¬ Last kind others [] := by
  rintro ⟨before, m, between, h, -⟩
  simp at h

/-! ## What a store has under a key -/

/-- What a store has under a key. -/
def content (s : Scenario) (store : StoreName) (key : String) : Option (List UInt8) :=
  (s.stores.getD store {}).get? key

variable {s : Scenario} {store : StoreName} {key : String} {data : List UInt8}

theorem content_insert (b : BlobStore) (name : StoreName) :
    ({ s with stores := s.stores.insert name b } : Scenario).content store key =
      if name = store then b.get? key else s.content store key := by
  simp only [content, Std.HashMap.getD_insert, beq_iff_eq]
  split <;> rfl

theorem content_insertIfNew (name : StoreName) :
    ({ s with stores := s.stores.insertIfNew name {} } : Scenario).content store key =
      s.content store key := by
  simp only [content, Std.HashMap.getD_insertIfNew, beq_iff_eq]
  split
  · rename_i h
    rw [Std.HashMap.getD_eq_fallback (h.1 ▸ h.2)]
  · rfl

theorem store?_of_registered (h : s.guard.storage = some store) :
    s.store? = some (store, s.stores.getD store {}) := by
  rw [store?, h]
  rfl

theorem store?_of_unregistered (h : s.guard.storage = none) : s.store? = none := by
  rw [store?, h]
  rfl

theorem stores_noteAll (answers : Answers) (s : Scenario) (contacts : List Contact) :
    (s.noteAll answers contacts).2.stores = s.stores := by
  induction contacts generalizing s with
  | nil => rfl
  | cons contact contacts ih =>
    rw [noteAll]
    exact (ih _).trans (by cases contact <;> rfl)

theorem stores_call (s : Scenario) (call : Call) : (s.call call).2.2.stores = s.stores :=
  stores_noteAll _ _ _

variable [Uuid.Library]

/-! ## The registered store -/

theorem result_of_registerStorage {m : Moment} {store : StoreName}
    (h : m.action.call? = some (.registerStorage (some store))) :
    m.result = .returned .accepted := by
  obtain ⟨s, action⟩ := m
  cases action with
  | call made =>
    obtain rfl := Option.some.inj h
    rfl
  | useStore name => rfl
  | expect | read | write | unlink | describe | set => cases h

theorem registers_iff {m : Moment} {store : StoreName} :
    m.Registers store ↔ m.action.call? = some (.registerStorage (some store)) :=
  ⟨fun h => h.call, fun h => ⟨h, result_of_registerStorage h⟩⟩

theorem storage_of_registers {m : Moment} {store : StoreName} (h : m.Registers store) :
    m.next.guard.storage = some store := by
  rw [Moment.next, guard_perform, h.call]
  rfl

/-- Only a registration changes which store is registered. -/
theorem storage_of_other {m : Moment} (hc : m.scenario.guard.Consistent)
    (h : ∀ store, ¬ m.Registers store) :
    m.next.guard.storage = m.scenario.guard.storage := by
  simp only [registers_iff] at h
  rw [Moment.next, guard_perform]
  cases hcall : m.action.call? with
  | none => rfl
  | some call =>
    rw [hcall] at h
    change (m.scenario.guard.step m.scenario.answers call).next.storage = _
    rw [Guard.next_step hc]
    cases call with
    | registerStorage store =>
      cases store with
      | none => rfl
      | some store => exact absurd rfl (h store)
    | registerHandlers request response error =>
      cases request <;> cases response <;> cases error <;> rfl
    | request | decision | response | transportError | unregisterHandlers | installMatcher
    | shutdown => rfl

theorem storage_next_iff {m : Moment} (hc : m.scenario.guard.Consistent) (store : StoreName) :
    m.next.guard.storage = some store ↔ m.Registers store ∨
      (¬ ∃ other, m.Registers other) ∧ m.scenario.guard.storage = some store := by
  by_cases h : ∃ other, m.Registers other
  · obtain ⟨other, hother⟩ := h
    have hsame : m.Registers store ↔ other = store := by
      rw [registers_iff, hother.call]
      simp
    rw [storage_of_registers hother, hsame, Option.some.injEq]
    exact ⟨.inl, fun h => h.resolve_right fun hnone => hnone.1 ⟨other, hother⟩⟩
  · rw [storage_of_other hc (not_exists.mp h)]
    exact ⟨fun hs => .inr ⟨h, hs⟩, fun hs => (hs.resolve_left fun hm => h ⟨store, hm⟩).2⟩

theorem storage_next_eq_none_iff {m : Moment} (hc : m.scenario.guard.Consistent) :
    m.next.guard.storage = none ↔
      (∀ store, ¬ m.Registers store) ∧ m.scenario.guard.storage = none := by
  by_cases h : ∀ store, ¬ m.Registers store
  · rw [storage_of_other hc h, and_iff_right h]
  · obtain ⟨store, hstore⟩ := not_forall_not.mp h
    rw [storage_of_registers hstore]
    exact iff_of_false nofun fun hnone => h hnone.1

/-! ## Actions on the registered store -/

theorem perform_read (h : s.guard.storage = some store) (key : String) :
    s.perform (.read key) =
      (match s.content store key with
        | some data => .data data
        | none => .fault (BlobStore.absent key), [], s) := by
  rw [perform, store?_of_registered h, content]
  simp only [BlobStore.read_eq]
  cases (s.stores.getD store {}).get? key <;> rfl

theorem perform_write (h : s.guard.storage = some store) (key : String) (data : List UInt8) :
    s.perform (.write key data) = (.stored, [],
      { s with stores := s.stores.insert store ((s.stores.getD store {}).write key data) }) := by
  rw [perform, store?_of_registered h]

theorem perform_unlink_of_some (h : s.guard.storage = some store)
    (hkey : s.content store key = some data) :
    s.perform (.unlink key) = (.stored, [],
      { s with stores := s.stores.insert store ⟨(s.stores.getD store {}).blobs.erase key⟩ }) := by
  rw [perform, store?_of_registered h]
  simp only [BlobStore.unlink_of_some hkey]

theorem perform_unlink_of_none (h : s.guard.storage = some store)
    (hkey : s.content store key = none) :
    s.perform (.unlink key) = (.fault (BlobStore.absent key), [], s) := by
  rw [perform, store?_of_registered h]
  simp only [BlobStore.unlink_of_none hkey]

/-- The actions that need a store. -/
def Action.needsStore : Action → Bool
  | .read _ | .write _ _ | .unlink _ => true
  | _ => false

theorem perform_of_unregistered (h : s.guard.storage = none) {action : Action}
    (ha : action.needsStore = true) : s.perform action = (.noStorage, [], s) := by
  cases action with
  | read | write | unlink => rw [perform, store?_of_unregistered h]
  | _ => cases ha

/-! ## What comes of reading, writing and removing -/

theorem reading_eq_data_iff : (s.reading key).result = .data data ↔
    ∃ store, s.guard.storage = some store ∧ s.content store key = some data := by
  rw [Moment.result, reading]
  cases hs : s.guard.storage with
  | none =>
    rw [perform_of_unregistered hs rfl]
    simp
  | some store =>
    rw [perform_read hs]
    cases hkey : s.content store key <;> simp [hkey]

theorem reading_eq_fault_iff : (s.reading key).result = .fault ⟨.notFound, key⟩ ↔
    ∃ store, s.guard.storage = some store ∧ s.content store key = none := by
  rw [Moment.result, reading]
  cases hs : s.guard.storage with
  | none =>
    rw [perform_of_unregistered hs rfl]
    simp
  | some store =>
    rw [perform_read hs]
    cases hkey : s.content store key <;> simp [hkey, BlobStore.absent]

theorem next_reading (s : Scenario) (key : String) : (s.reading key).next = s := by
  rw [Moment.next, reading]
  cases hs : s.guard.storage with
  | none => rw [perform_of_unregistered hs rfl]
  | some store => rw [perform_read hs]

theorem writing_eq_stored_iff : (s.writing key data).result = .stored ↔
    ∃ store, s.guard.storage = some store := by
  rw [Moment.result, writing]
  cases hs : s.guard.storage with
  | none =>
    rw [perform_of_unregistered hs rfl]
    simp
  | some store =>
    rw [perform_write hs]
    simp

theorem unlinking_eq_stored_iff : (s.unlinking key).result = .stored ↔
    ∃ data store, s.guard.storage = some store ∧ s.content store key = some data := by
  rw [Moment.result, unlinking]
  cases hs : s.guard.storage with
  | none =>
    rw [perform_of_unregistered hs rfl]
    simp
  | some store =>
    cases hkey : s.content store key with
    | none =>
      rw [perform_unlink_of_none hs hkey]
      simp [hkey]
    | some data =>
      rw [perform_unlink_of_some hs hkey]
      simp [hkey]

theorem perform_unlink_of_failed (h : (s.unlinking key).result ≠ .stored) :
    s.perform (.unlink key) = s.perform (.read key) := by
  cases hs : s.guard.storage with
  | none => rw [perform_of_unregistered hs rfl, perform_of_unregistered hs rfl]
  | some store =>
    cases hkey : s.content store key with
    | none => rw [perform_unlink_of_none hs hkey, perform_read hs, hkey]
    | some data => exact absurd (unlinking_eq_stored_iff.mpr ⟨data, store, hs, hkey⟩) h

/-! ## What an action does to it -/

/-- Every other action leaves every store as it was. -/
theorem content_of_other (s : Scenario) {action : Action} (ha : action.needsStore = false)
    (store : StoreName) (key : String) :
    (s.perform action).2.2.content store key = s.content store key := by
  cases action with
  | call call => exact congrArg (fun stores => (stores.getD store {}).get? key) (stores_call s call)
  | useStore name =>
    refine Eq.trans ?_ (content_insertIfNew name)
    exact congrArg (fun stores => (stores.getD store {}).get? key)
      (stores_call { s with stores := s.stores.insertIfNew name {} }
        (.registerStorage (some name)))
  | expect | describe | set => rfl
  | read | write | unlink => cases ha

theorem answer_eq (s : Scenario) (store : StoreName) (key : String) :
    s.answer store key = match s.content store key with
      | some data => .data data
      | none => .fault (BlobStore.absent key) := by
  let next := s.afterActions [.useStore store]
  have hstorage : next.guard.storage = some store :=
    storage_of_registers (m := ⟨s, .useStore store⟩) (registers_iff.mpr rfl)
  have hcontent : next.content store key = s.content store key :=
    content_of_other s rfl store key
  rw [answer, Moment.result, reading, perform_read hstorage, hcontent]

theorem content_of_writes {m : Moment} (h : m.Writes store key data) :
    m.next.content store key = some data := by
  obtain ⟨s, action⟩ := m
  obtain ⟨rfl, hregistered, -⟩ := h
  rw [Moment.next, perform_write hregistered, content_insert, if_pos rfl, BlobStore.get?_write,
    if_pos rfl]

theorem content_of_unlinks {m : Moment} (h : m.Unlinks store key) :
    m.next.content store key = none := by
  obtain ⟨s, action⟩ := m
  obtain ⟨rfl, hregistered, hresult⟩ := h
  cases hkey : s.content store key with
  | none =>
    rw [Moment.result, perform_unlink_of_none hregistered hkey] at hresult
    cases hresult
  | some data =>
    rw [Moment.next, perform_unlink_of_some hregistered hkey, content_insert, if_pos rfl,
      BlobStore.get?_erase, if_pos rfl]

/-- What is done with other stores, and with other keys, leaves this key as it was. -/
theorem content_of_unchanged {m : Moment} (h : ¬ m.Changes store key) :
    m.next.content store key = m.scenario.content store key := by
  obtain ⟨s, action⟩ := m
  cases ha : action.needsStore with
  | false => exact content_of_other s ha store key
  | true =>
    cases hs : s.guard.storage with
    | none => rw [Moment.next, perform_of_unregistered hs ha]
    | some registered =>
      cases action with
      | read other => rw [Moment.next, perform_read hs]
      | write other bytes =>
        rw [Moment.next, perform_write hs, content_insert]
        split
        · rename_i hstore
          subst hstore
          rw [BlobStore.get?_write, if_neg, content]
          rintro rfl
          exact h (.inl ⟨bytes, rfl, hs, congrArg Prod.fst (perform_write hs other bytes)⟩)
        · rfl
      | unlink other =>
        cases hkey : s.content registered other with
        | none => rw [Moment.next, perform_unlink_of_none hs hkey]
        | some bytes =>
          rw [Moment.next, perform_unlink_of_some hs hkey, content_insert]
          split
          · rename_i hstore
            subst hstore
            rw [BlobStore.get?_erase, if_neg, content]
            rintro rfl
            exact h (.inr ⟨rfl, hs, congrArg Prod.fst (perform_unlink_of_some hs hkey)⟩)
          · rfl
      | _ => cases ha

theorem content_next_iff (m : Moment) (store : StoreName) (key : String) (data : List UInt8) :
    m.next.content store key = some data ↔ m.Writes store key data ∨
      ¬ m.Changes store key ∧ m.scenario.content store key = some data := by
  by_cases h : m.Changes store key
  · rw [or_iff_left fun hnot => hnot.1 h]
    rcases h with ⟨other, hother⟩ | hunlinks
    · rw [content_of_writes hother, Option.some.injEq]
      refine ⟨fun hsame => hsame ▸ hother, fun hwrites => ?_⟩
      exact (Action.write.inj (hother.action.symm.trans hwrites.action)).2
    · rw [content_of_unlinks hunlinks]
      refine iff_of_false nofun fun hwrites => ?_
      cases hunlinks.action.symm.trans hwrites.action
  · rw [content_of_unchanged h, or_iff_right fun hwrites => h (.inl ⟨data, hwrites⟩),
      and_iff_right h]

/-! ## Whole scenarios -/

/-- What holds if an action has made it so and none since has ended it, step by step, holds
after any actions if it was made so last. -/
theorem last_afterActions {P : Scenario → Prop} {kind others : Moment → Prop}
    (hstep : ∀ m : Moment, m.scenario.guard.Consistent →
      (P m.next ↔ kind m ∨ ¬ others m ∧ P m.scenario))
    (hc : s.guard.Consistent) (hs : ¬ P s) (actions : List Action) :
    P (s.afterActions actions) ↔ Last kind others (s.moments actions) := by
  induction actions using List.reverseRecOn with
  | nil => exact iff_of_false hs not_last_nil
  | append_singleton actions action ih =>
    rw [afterActions_concat, moments_concat, last_concat, ← ih]
    exact hstep ⟨s.afterActions actions, action⟩ (consistent_afterActions hc actions)

theorem unregistered_afterActions (hc : s.guard.Consistent) (hs : s.guard.storage = none)
    (actions : List Action) :
    (s.afterActions actions).guard.storage = none ↔
      ∀ m ∈ s.moments actions, ∀ store, ¬ m.Registers store := by
  induction actions using List.reverseRecOn with
  | nil => exact iff_of_true hs (by simp [moments])
  | append_singleton actions action ih =>
    rw [afterActions_concat, moments_concat, List.forall_mem_append, List.forall_mem_singleton,
      ← ih, and_comm]
    exact storage_next_eq_none_iff (m := ⟨s.afterActions actions, action⟩)
      (consistent_afterActions hc actions)

theorem content_afterActions (later : List Action)
    (h : ∀ m ∈ s.moments later, ¬ m.Changes store key) :
    (s.afterActions later).content store key = s.content store key := by
  induction later generalizing s with
  | nil => rfl
  | cons action later ih =>
    obtain ⟨hfirst, hrest⟩ := List.forall_mem_cons.mp h
    have hstep := content_of_unchanged hfirst
    exact (ih hrest).trans hstep

theorem lastWriteWins_of_content {past : List Moment}
    (hregistered : ∀ store, s.guard.storage = some store ↔ RegisteredLast past store)
    (hunregistered : s.guard.storage = none ↔ ∀ m ∈ past, ∀ store, ¬ m.Registers store)
    (hcontent : ∀ store key data, s.content store key = some data ↔
      WrittenLast past store key data) : LastWriteWins past s where
  registered_iff := hregistered
  unregistered_iff := hunregistered
  refused := ⟨rfl, rfl⟩
  accepted store := registers_iff.mpr rfl
  read_iff key data := by
    simp only [reading_eq_data_iff, hregistered, hcontent]
  absent_iff key := by
    simp only [reading_eq_fault_iff, Option.eq_none_iff_forall_ne_some, ne_eq, hregistered,
      hcontent]
  read_next := next_reading s
  written_iff key data := by
    simp only [writing_eq_stored_iff, hregistered]
  unlinked_iff key := by
    simp only [unlinking_eq_stored_iff, reading_eq_data_iff]
  unlink_failed key h := by
    have hsame := perform_unlink_of_failed h
    exact ⟨congrArg (·.1) hsame, (congrArg (·.2.2) hsame).trans (next_reading s key)⟩
  undisturbed later store key h := by
    rw [answer_eq, answer_eq, content_afterActions later h]

/-- **The last write wins.** After any actions in a new scenario, the store that was registered
last is the registered one; reading a key of it returns what was last written there, or finds
nothing if nothing was written or it was removed since. A key can be removed exactly if it
can be read, and whatever fails changes nothing. What a store has under a key stays until
that key of that store is written or removed, whichever stores are registered in between. -/
theorem lastWriteWins_afterActions (config : Config) (hasManager : Bool) (script : Script)
    (actions : List Action) :
    LastWriteWins ((start config hasManager script).moments actions)
      ((start config hasManager script).afterActions actions) := by
  have hc := consistent_start config hasManager script
  refine lastWriteWins_of_content (fun store => ?_) (unregistered_afterActions hc rfl actions)
    fun store key data => ?_
  · exact last_afterActions (P := fun s => s.guard.storage = some store)
      (fun m hm => storage_next_iff hm store) hc (by simp [start, Guard.start]) actions
  · refine last_afterActions (P := fun s => s.content store key = some data)
      (fun m _ => content_next_iff m store key data) hc ?_ actions
    simp [content, start, BlobStore.get?_empty]

end Scenario

end ResourceGuard
