import ResourceGuard.Proofs.Runs
import ResourceGuard.Scenario

/-! # Scenarios, moment by moment

A moment of a scenario is an action together with the scenario that it found. Whatever is
done in a scenario is done to the guard by one of its calls, so the guard is always one that
some run has led to. Of what is noted of a call, only an offer to a matcher changes anything
but the record. -/
namespace ResourceGuard.Scenario

/-! ## What is noted -/

theorem guard_noteAll (answers : Answers) (s : Scenario) (contacts : List Contact) :
    (s.noteAll answers contacts).2.guard = s.guard := by
  induction contacts generalizing s with
  | nil => rfl
  | cons contact contacts ih =>
    rw [noteAll]
    exact (ih _).trans (by cases contact <;> rfl)

/-- What is not offered to a matcher leaves the matchers as they are. -/
theorem matchers_noteAll (answers : Answers) (s : Scenario) {contacts : List Contact}
    (h : ∀ c ∈ contacts, c.offered? = none) :
    (s.noteAll answers contacts).2.matchers = s.matchers := by
  induction contacts generalizing s with
  | nil => rfl
  | cons contact contacts ih =>
    rw [noteAll]
    refine (ih _ fun c hc => h c (List.mem_cons_of_mem _ hc)).trans ?_
    have hcontact := h contact List.mem_cons_self
    cases contact with
    | offer => simp at hcontact
    | _ => rfl

theorem matcher_note_offer (answers : Answers) (s : Scenario) (name other : MatcherName)
    (peer : Endpoint) (response : Response) :
    (s.note answers (.offer name peer response)).2.matcher other =
      if name = other then ((s.matcher name).claim response).2 else s.matcher other := by
  simp only [note, matcher, Std.HashMap.getD_insert, beq_iff_eq]

theorem guard_call (s : Scenario) (call : Call) :
    (s.call call).2.2.guard = (s.guard.step s.answers call).next :=
  guard_noteAll _ _ _

theorem consistent_start (config : Config) (hasManager : Bool) (script : Script) :
    (start config hasManager script).guard.Consistent :=
  Guard.consistent_fresh config hasManager

/-! ## Moments -/

variable [Uuid.Library]

/-- An action, and the scenario that it found. -/
structure Moment where
  scenario : Scenario
  action : Action

namespace Moment

def result (m : Moment) : Result := (m.scenario.perform m.action).1

def observations (m : Moment) : List Observation := (m.scenario.perform m.action).2.1

/-- The scenario that the action leaves. -/
def next (m : Moment) : Scenario := (m.scenario.perform m.action).2.2

end Moment

def afterActions (s : Scenario) (actions : List Action) : Scenario :=
  actions.foldl (fun s action => (s.perform action).2.2) s

/-- The moments of a scenario, in order. -/
def moments (s : Scenario) : List Action → List Moment
  | [] => []
  | action :: actions => ⟨s, action⟩ :: (s.perform action).2.2.moments actions

theorem afterActions_concat (s : Scenario) (actions : List Action) (action : Action) :
    s.afterActions (actions ++ [action]) = ((s.afterActions actions).perform action).2.2 := by
  unfold afterActions
  rw [List.foldl_append]
  rfl

theorem moments_concat (s : Scenario) (actions : List Action) (action : Action) :
    s.moments (actions ++ [action]) = s.moments actions ++ [⟨s.afterActions actions, action⟩] := by
  induction actions generalizing s with
  | nil => rfl
  | cons first actions ih =>
    rw [List.cons_append, moments, moments, ih, List.cons_append]
    rfl

/-! ## The guard of a scenario -/

/-- The call to the guard that an action makes. -/
def Action.call? : Action → Option Call
  | .call made => some made
  | .useStore name => some (.registerStorage (some name))
  | _ => none

theorem guard_perform (s : Scenario) (action : Action) :
    (s.perform action).2.2.guard =
      match action.call? with
      | some call => (s.guard.step s.answers call).next
      | none => s.guard := by
  cases action with
  | call call => exact guard_call s call
  | useStore name =>
    exact guard_call { s with stores := s.stores.insertIfNew name {} }
      (.registerStorage (some name))
  | expect | describe | set => rfl
  | write =>
    simp only [perform, Action.call?]
    split <;> rfl
  | read | unlink =>
    simp only [perform, Action.call?]
    split
    · rfl
    · split <;> rfl

theorem consistent_perform {s : Scenario} (hc : s.guard.Consistent) (action : Action) :
    (s.perform action).2.2.guard.Consistent := by
  rw [guard_perform]
  cases action.call? with
  | some call => exact Guard.consistent_step hc _ _
  | none => exact hc

theorem consistent_afterActions {s : Scenario} (hc : s.guard.Consistent)
    (actions : List Action) : (s.afterActions actions).guard.Consistent := by
  induction actions generalizing s with
  | nil => exact hc
  | cons action actions ih => exact ih (consistent_perform hc action)

end ResourceGuard.Scenario
