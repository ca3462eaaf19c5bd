import Mathlib.Data.List.Forall2
import ResourceGuard.Proofs.SideBySide
import ResourceGuard.Proofs.Surroundings

/-! # Two directions

Requests pass a guard one way, responses and transport errors the other, and both are
handed to the same three handlers. Neither direction is aware of the other: what comes
of the requests is the same if every response, every transport error and every
installation of a matcher or a store is left out of a run, and what comes of the replies
is the same if every request, decision and shutdown is. -/
namespace ResourceGuard.Guard

/-- The calls that remain if only those to be kept are, with whatever the transport does
then. -/
def Remains (keep : Call → Bool) (all rest : List (Transport × Call)) : Prop :=
  rest.map Prod.snd = (all.map Prod.snd).filter keep

/-- In any surroundings, leaving out the other calls makes no difference to the moments
of those that are kept. -/
def Undisturbed (g : Guard) (keep : Call → Bool) (Same : Moment → Moment → Prop) : Prop :=
  ∀ (s : Surroundings) (all rest : List (Transport × Call)), Remains keep all rest →
    List.Forall₂ Same ((g.moments (s.turns g {} all)).filter fun m => keep m.turn.call)
      (g.moments (s.turns g {} rest))

/-- The same happens at both moments, and the engines are the same before and after. -/
structure SameForRequests (m n : Moment) : Prop where
  call : m.turn.call = n.turn.call
  result : m.reaction.result = n.reaction.result
  contacts : m.reaction.contacts = n.reaction.contacts
  before : m.guard.engine = n.guard.engine
  after : m.reaction.next.engine = n.reaction.next.engine

/-- The same happens at both moments. -/
structure SameForReplies (m n : Moment) : Prop where
  call : m.turn.call = n.turn.call
  result : m.reaction.result = n.reaction.result
  contacts : m.reaction.contacts = n.reaction.contacts

/-- This matcher was installed, and since then none was installed or taken away. -/
def InstalledLast (past : List Moment) (matcher : MatcherName) : Prop :=
  ∃ before installing between, past = before ++ installing :: between ∧
    installing.turn.call = .installMatcher (some matcher) ∧
    ∀ n ∈ between, ∀ other, n.turn.call ≠ .installMatcher other

/-- After these moments, a response goes to the matcher first and then to the
application, a transport error to the application, and both as they came. -/
structure PassesBack (past : List Moment) (g : Guard) : Prop where
  matcher_iff : ∀ matcher, g.matcher = some matcher ↔ InstalledLast past matcher
  contacts : ∀ answers peer response,
    (g.step answers (.response peer response)).contacts =
      (g.matcher.toList.map fun matcher => .offer matcher peer response) ++
        if g.claims answers peer response then []
        else g.handlers.toList.map fun handlers => .handResponse handlers.response peer response
  provisioning_iff : ∀ answers peer response,
    (g.step answers (.response peer response)).result = .route .provisioning ↔
      g.claims answers peer response = true
  application_iff : ∀ answers peer response,
    (g.step answers (.response peer response)).result = .route .application ↔
      g.claims answers peer response = false ∧ g.handlers.isSome = true
  dropped_iff : ∀ answers peer response,
    (g.step answers (.response peer response)).result = .route .dropped ↔
      g.claims answers peer response = false ∧ g.handlers = none
  unchanged : ∀ answers peer response, (g.step answers (.response peer response)).next = g
  error : ∀ answers peer error,
    (g.step answers (.transportError peer error)).contacts =
        (g.handlers.toList.map fun handlers => .handError handlers.error peer error) ∧
      (g.step answers (.transportError peer error)).result = .done ∧
      (g.step answers (.transportError peer error)).next = g

/-! ## Leaving calls out -/

/-- What links the guard of a whole run, and the history that it has, to the guard and
the history of what remains: a call that is kept does the same to both, and a call that
is left out does not break the link. -/
structure Unwinding (s : Surroundings) (keep : Call → Bool) (Same : Moment → Moment → Prop)
    (Linked : Guard → History → Guard → History → Prop) : Prop where
  same : ∀ {g past h past' call} transport transport', Linked g past h past' → keep call = true →
    Same ⟨g, s.answers past transport, call⟩ ⟨h, s.answers past' transport', call⟩
  kept : ∀ {g past h past' call} transport transport', Linked g past h past' → keep call = true →
    Linked (g.step (s.answers past transport) call).next
      (past.after (g.step (s.answers past transport) call))
      (h.step (s.answers past' transport') call).next
      (past'.after (h.step (s.answers past' transport') call))
  leftOut : ∀ {g past h past' call} transport, Linked g past h past' → ¬ keep call = true →
    Linked (g.step (s.answers past transport) call).next
      (past.after (g.step (s.answers past transport) call)) h past'

theorem Unwinding.forall₂ {s : Surroundings} {keep : Call → Bool} {Same : Moment → Moment → Prop}
    {Linked : Guard → History → Guard → History → Prop} (hs : Unwinding s keep Same Linked)
    {g h : Guard} {past past' : History} (hlinked : Linked g past h past')
    {all rest : List (Transport × Call)} (hrest : Remains keep all rest) :
    List.Forall₂ Same ((g.moments (s.turns g past all)).filter fun m => keep m.turn.call)
      (h.moments (s.turns h past' rest)) := by
  -- the link is between the points that the two runs have come to
  induction all generalizing g past h past' rest with
  | nil =>
    obtain rfl : rest = [] := List.map_eq_nil_iff.mp hrest
    exact .nil
  | cons first all ih =>
    obtain ⟨transport, call⟩ := first
    rw [Surroundings.moments_turns_cons]
    by_cases hkeep : keep call = true
    · rw [Remains, List.map_cons, List.filter_cons_of_pos hkeep] at hrest
      obtain ⟨⟨transport', _⟩, later, rfl, rfl, hlater⟩ := List.map_eq_cons_iff.mp hrest
      rw [List.filter_cons, if_pos hkeep, Surroundings.moments_turns_cons]
      exact .cons (hs.same transport transport' hlinked hkeep)
        (ih (hs.kept transport transport' hlinked hkeep) hlater)
    · rw [Remains, List.map_cons, List.filter_cons_of_neg hkeep] at hrest
      rw [List.filter_cons, if_neg hkeep]
      exact ih (hs.leftOut transport hlinked hkeep) hrest

/-! ## Requests without replies -/

/-- Two guards that differ in their matchers and stores at most, and have asked the same
about requests. -/
structure AlikeForRequests (g : Guard) (past : History) (h : Guard) (past' : History) : Prop where
  consistent : g.Consistent
  setup : h = { g with matcher := h.matcher, storage := h.storage }
  lookedUp : past.lookedUp = past'.lookedUp
  resolved : past.resolved = past'.resolved
  delegated : past.delegated = past'.delegated

theorem concernsRequests_of_concernsReplies {call : Call} (h : call.concernsReplies = true) :
    call.concernsRequests = false := by
  cases call with
  | response | transportError | installMatcher | registerStorage => rfl
  | request | decision | registerHandlers | unregisterHandlers | shutdown => cases h

theorem next_of_concernsReplies {g : Guard} {call : Call} (answers : Answers)
    (h : call.concernsReplies = true) :
    (g.step answers call).next = { g with
      matcher := (g.step answers call).next.matcher
      storage := (g.step answers call).next.storage } := by
  cases call with
  | response peer response => simp [step]
  | transportError | installMatcher => rfl
  | registerStorage store => cases store <;> rfl
  | request | decision | registerHandlers | unregisterHandlers | shutdown => cases h

variable {g h : Guard} {past past' : History} {call : Call}

theorem AlikeForRequests.unlogged_eq (hlinked : AlikeForRequests g past h past')
    (s : Surroundings) (transport transport' : Transport) (hcall : call.concernsReplies = false) :
    (h.step (s.answers past' transport') call).unlogged =
      ((g.step (s.answers past transport) call).within fun k =>
        { k with matcher := h.matcher, storage := h.storage }).unlogged := by
  have hanswers : s.answers past' transport' =
      { s.answers past transport with
        transport := transport', claims := (s.answers past' transport').claims } := by
    simp only [Surroundings.answers, hlinked.lookedUp, hlinked.resolved, hlinked.delegated]
  rw [hanswers, hlinked.setup]
  exact Guard.unlogged_step _ _ _ _ hlinked.consistent _ hcall

theorem AlikeForRequests.leaveOut (hlinked : AlikeForRequests g past h past')
    (answers : Answers) (hcall : call.concernsReplies = true) :
    AlikeForRequests (g.step answers call).next (past.after (g.step answers call)) h past' := by
  have hother : call.concernsRequests = false := concernsRequests_of_concernsReplies hcall
  have hquiet : (g.step answers call).Quiet := quiet_step (.inl hother)
  refine ⟨consistent_step hlinked.consistent answers call, ?_, ?_, ?_, ?_⟩
  · rw [next_of_concernsReplies answers hcall]
    exact hlinked.setup
  · rw [History.after, lookedUp_of_other (.inl hother), List.append_nil]
    exact hlinked.lookedUp
  · rw [History.after, hquiet.resolved, List.append_nil]
    exact hlinked.resolved
  · rw [History.after, hquiet.delegated, List.append_nil]
    exact hlinked.delegated

theorem AlikeForRequests.keep (hlinked : AlikeForRequests g past h past')
    {r t : Reaction Guard Return} (hr : r.next.Consistent)
    (hsame : t.unlogged =
      (r.within fun k => { k with matcher := h.matcher, storage := h.storage }).unlogged) :
    AlikeForRequests r.next (past.after r) t.next (past'.after t) := by
  obtain ⟨-, hnext, hcontacts⟩ := Reaction.unlogged_eq_iff.mp hsame
  rw [Reaction.contacts_within] at hcontacts
  refine ⟨hr, ?_, ?_, ?_, ?_⟩
  · rw [hnext]
    rfl
  · simp only [History.after, Reaction.view, hlinked.lookedUp, hcontacts]
  · simp only [History.after, Reaction.view, hlinked.resolved, hcontacts]
  · simp only [History.after, Reaction.view, hlinked.delegated, hcontacts]

theorem unwinding_requests (s : Surroundings) :
    Unwinding s (fun call => !call.concernsReplies) SameForRequests AlikeForRequests where
  same transport transport' hlinked hkeep := by
    have hsame := hlinked.unlogged_eq s transport transport' (by simpa using hkeep)
    obtain ⟨hresult, hnext, hcontacts⟩ := Reaction.unlogged_eq_iff.mp hsame
    refine ⟨rfl, hresult.symm, hcontacts.symm, ?_, ?_⟩
    · rw [hlinked.setup]
      rfl
    · rw [Moment.reaction, Moment.reaction, hnext]
      rfl
  kept transport transport' hlinked hkeep := by
    have hsame := hlinked.unlogged_eq s transport transport' (by simpa using hkeep)
    exact hlinked.keep (consistent_step hlinked.consistent _ _) hsame
  leftOut transport hlinked hkeep := hlinked.leaveOut _ (by simpa using hkeep)

/-! ## Replies without requests -/

/-- Two guards that differ in their contexts at most, and have offered the same to the
matchers. -/
structure AlikeForReplies (g : Guard) (past : History) (h : Guard) (past' : History) : Prop where
  consistent : g.Consistent
  setup : h = { g with context := h.context }
  offered : past.offered = past'.offered

theorem AlikeForReplies.step_eq (hlinked : AlikeForReplies g past h past') (s : Surroundings)
    (transport transport' : Transport) (hcall : call.concernsRequests = false) :
    h.step (s.answers past' transport') call =
      (g.step (s.answers past transport) call).within fun k =>
        { k with context := h.context } := by
  have hclaims : (s.answers past transport).claims = (s.answers past' transport').claims := by
    simp only [Surroundings.answers, hlinked.offered]
  rw [step_of_setup hlinked.setup hcall, step_of_claims hcall hclaims]

theorem AlikeForReplies.leaveOut (hlinked : AlikeForReplies g past h past')
    (answers : Answers) (hcall : call.concernsRequests = true) :
    AlikeForReplies (g.step answers call).next (past.after (g.step answers call)) h past' := by
  have hoffered : (g.step answers call).offered = [] := by
    refine List.filterMap_eq_nil_iff.mpr fun c hc => ?_
    have hcontact := concernsRequests_step hlinked.consistent answers hcall c hc
    cases c with
    | offer => cases hcontact
    | _ => rfl
  refine ⟨consistent_step hlinked.consistent answers call, ?_, ?_⟩
  · rw [next_step hlinked.consistent, registering_of_concernsRequests hcall]
    exact hlinked.setup
  · rw [History.after, hoffered, List.append_nil]
    exact hlinked.offered

theorem AlikeForReplies.keep (hlinked : AlikeForReplies g past h past')
    {r : Reaction Guard Return} (hr : r.next.Consistent) :
    AlikeForReplies r.next (past.after r) { r.next with context := h.context } (past'.after r) := by
  refine ⟨hr, rfl, ?_⟩
  rw [History.after, History.after, hlinked.offered]

theorem unwinding_replies (s : Surroundings) :
    Unwinding s (fun call => !call.concernsRequests) SameForReplies AlikeForReplies where
  same transport transport' hlinked hkeep := by
    have hsame := hlinked.step_eq s transport transport' (by simpa using hkeep)
    exact ⟨rfl, (congrArg Reaction.result hsame).symm, (congrArg Reaction.contacts hsame).symm⟩
  kept transport transport' hlinked hkeep := by
    rw [hlinked.step_eq s transport transport' (by simpa using hkeep)]
    exact hlinked.keep (consistent_step hlinked.consistent _ _)
  leftOut transport hlinked hkeep := hlinked.leaveOut _ (by simpa using hkeep)

/-! ## The way back -/

def Moment.installed? (m : Moment) : Option (Option MatcherName) :=
  match m.turn.call with
  | .installMatcher matcher => some matcher
  | _ => none

theorem installed?_eq_some {m : Moment} {matcher : Option MatcherName} :
    m.installed? = some matcher ↔ m.turn.call = .installMatcher matcher := by
  unfold Moment.installed?
  cases m.turn.call <;> simp

theorem installed?_eq_none {m : Moment} :
    m.installed? = none ↔ ∀ matcher, m.turn.call ≠ .installMatcher matcher := by
  unfold Moment.installed?
  cases m.turn.call <;> simp

theorem installedLast_iff {moments : List Moment} {matcher : MatcherName} :
    InstalledLast moments matcher ↔ latest Moment.installed? moments = some (some matcher) := by
  rw [latest_eq_some_iff]
  simp only [InstalledLast, installed?_eq_some, installed?_eq_none]

theorem matcher_step (m : Moment) (hm : m.guard.Consistent) :
    m.reaction.next.matcher = m.installed?.getD m.guard.matcher := by
  rw [Moment.reaction, next_step hm, Moment.installed?]
  cases m.turn.call with
  | registerHandlers request response error =>
    cases request <;> cases response <;> cases error <;> rfl
  | registerStorage store => cases store <;> rfl
  | request | decision | response | transportError | unregisterHandlers | installMatcher
  | shutdown => rfl

theorem matcher_afterTurns (hc : g.Consistent) (hg : g.matcher = none) (turns : List Turn) :
    (g.afterTurns turns).matcher = (latest Moment.installed? (g.moments turns)).join := by
  refine latest_afterTurns (P := fun g installed => g.matcher = installed.join) ?_ hc hg turns
  intro m installed hm hinstalled
  rw [matcher_step m hm, hinstalled]
  cases m.installed? <;> rfl

theorem result_onResponse (g : Guard) (answers : Answers) (peer : Endpoint)
    (response : Response) :
    (g.onResponse answers peer response).result =
      if g.claims answers peer response then .provisioning
      else if g.handlers.isSome then .application
      else .dropped := by
  obtain ⟨_, _, _, handlers, matcher, _⟩ := g
  cases matcher with
  | none => cases handlers <;> rfl
  | some matcher =>
    cases hclaims : answers.claims matcher peer response with
    | true => simp [onResponse, claims, hclaims]
    | false => cases handlers <;> simp [onResponse, passResponse, claims, hclaims]

theorem passesBack_of_matcher {past : List Moment}
    (hg : ∀ matcher, g.matcher = some matcher ↔ InstalledLast past matcher) :
    PassesBack past g where
  matcher_iff := hg
  contacts answers peer response := contacts_onResponse g answers peer response
  provisioning_iff answers peer response := by
    rw [step, Reaction.result_map, Return.route.injEq, result_onResponse]
    cases g.claims answers peer response <;> cases g.handlers <;> simp
  application_iff answers peer response := by
    rw [step, Reaction.result_map, Return.route.injEq, result_onResponse]
    cases g.claims answers peer response <;> cases g.handlers <;> simp
  dropped_iff answers peer response := by
    rw [step, Reaction.result_map, Return.route.injEq, result_onResponse]
    cases g.claims answers peer response <;> cases g.handlers <;> simp
  unchanged answers peer response := next_onResponse g answers peer response
  error answers peer error := ⟨contacts_onError g peer error, rfl, rfl⟩

/-- **The two directions do not interfere.** In every run of a new guard, what comes of
the requests, and the engine, are the same if the calls that concern replies are left
out; and what comes of the replies is the same if the calls that concern requests are.
After every run, busy or idle, responses and transport errors pass to those who are
there for them, and to nobody else. -/
theorem directions_do_not_interfere (config : Config) (hasManager : Bool) :
    (fresh config hasManager).Undisturbed (fun call => !call.concernsReplies) SameForRequests ∧
      (fresh config hasManager).Undisturbed (fun call => !call.concernsRequests)
        SameForReplies ∧
      ∀ turns, PassesBack ((fresh config hasManager).moments turns)
        ((fresh config hasManager).afterTurns turns) := by
  have hc := consistent_fresh config hasManager
  refine ⟨?_, ?_, ?_⟩
  · intro s all rest hrest
    exact (unwinding_requests s).forall₂ ⟨hc, rfl, rfl, rfl, rfl⟩ hrest
  · intro s all rest hrest
    exact (unwinding_replies s).forall₂ ⟨hc, rfl, rfl⟩ hrest
  · intro turns
    refine passesBack_of_matcher fun matcher => ?_
    rw [installedLast_iff, matcher_afterTurns hc rfl, Option.join_eq_some_iff]

end ResourceGuard.Guard
