import Mathlib.Data.List.Induction
import ResourceGuard.Proofs.Steps

/-! # Runs, moment by moment

A moment of a run is a turn together with the guard that it found. What holds of
one step of a consistent guard holds of every moment of every run from a new
guard, and what was before a moment is the run of the turns before it. -/
namespace ResourceGuard.Guard

/-- A turn of a run, and the guard that it found. -/
structure Moment where
  guard : Guard
  turn : Turn

/-- What the turn brings about. -/
def Moment.reaction (m : Moment) : Reaction Guard Return :=
  m.guard.step m.turn.answers m.turn.call

/-- The moments of a run, in order. -/
def moments (g : Guard) : List Turn → List Moment
  | [] => []
  | turn :: turns => ⟨g, turn⟩ :: (g.step turn.answers turn.call).next.moments turns

/-- A new guard. -/
def fresh (config : Config) (hasManager : Bool) : Guard := (start config hasManager).next

theorem run_eq (g : Guard) (turns : List Turn) :
    g.run turns = (g.moments turns).map Moment.reaction := by
  induction turns generalizing g with
  | nil => rfl
  | cons turn turns ih =>
    rw [run, moments, List.map_cons, ih]
    rfl

theorem map_turn_moments (g : Guard) (turns : List Turn) :
    (g.moments turns).map Moment.turn = turns := by
  induction turns generalizing g with
  | nil => rfl
  | cons turn turns ih => rw [moments, List.map_cons, ih]

theorem afterTurns_cons (g : Guard) (turn : Turn) (turns : List Turn) :
    g.afterTurns (turn :: turns) = (g.step turn.answers turn.call).next.afterTurns turns := rfl

theorem afterTurns_concat (g : Guard) (turns : List Turn) (turn : Turn) :
    g.afterTurns (turns ++ [turn]) =
      ((g.afterTurns turns).step turn.answers turn.call).next := by
  unfold afterTurns
  rw [List.foldl_append]
  rfl

theorem moments_append (g : Guard) (turns more : List Turn) :
    g.moments (turns ++ more) = g.moments turns ++ (g.afterTurns turns).moments more := by
  induction turns generalizing g with
  | nil => rfl
  | cons turn turns ih =>
    rw [List.cons_append, moments, moments, ih, List.cons_append]
    rfl

theorem moments_concat (g : Guard) (turns : List Turn) (turn : Turn) :
    g.moments (turns ++ [turn]) = g.moments turns ++ [⟨g.afterTurns turns, turn⟩] :=
  moments_append g turns [turn]

/-- Cutting a run at a moment cuts its turns there. -/
theorem moments_eq_append_cons {g : Guard} {turns : List Turn} {earlier later : List Moment}
    {m : Moment} (h : g.moments turns = earlier ++ m :: later) :
    ∃ before after, turns = before ++ m.turn :: after ∧ earlier = g.moments before ∧
      m.guard = g.afterTurns before := by
  induction turns generalizing g earlier with
  | nil => simp [moments] at h
  | cons turn turns ih =>
    cases earlier with
    | nil =>
      rw [moments, List.nil_append, List.cons.injEq] at h
      obtain ⟨rfl, -⟩ := h
      exact ⟨[], turns, rfl, rfl, rfl⟩
    | cons first earlier =>
      rw [moments, List.cons_append, List.cons.injEq] at h
      obtain ⟨rfl, h⟩ := h
      obtain ⟨before, after, rfl, rfl, hg⟩ := ih h
      exact ⟨turn :: before, after, rfl, rfl, hg⟩

/-! ## What every run keeps -/

theorem consistent_fresh (config : Config) (hasManager : Bool) :
    (fresh config hasManager).Consistent := by
  simp [fresh, start, Consistent, Context.Consistent]

theorem consistent_afterTurns {g : Guard} (hc : g.Consistent) (turns : List Turn) :
    (g.afterTurns turns).Consistent := by
  induction turns generalizing g with
  | nil => exact hc
  | cons turn turns ih => exact ih (consistent_step hc turn.answers turn.call)

theorem settings_afterTurns {g : Guard} (hc : g.Consistent) (turns : List Turn) :
    (g.afterTurns turns).config = g.config ∧ (g.afterTurns turns).hasManager = g.hasManager := by
  induction turns generalizing g with
  | nil => exact ⟨rfl, rfl⟩
  | cons turn turns ih =>
    obtain ⟨hconfig, hmanager⟩ := settings_step hc turn.answers turn.call
    rw [afterTurns_cons, ← hconfig, ← hmanager]
    exact ih (consistent_step hc _ _)

theorem config_afterTurns {g : Guard} (hc : g.Consistent) (turns : List Turn) :
    (g.afterTurns turns).config = g.config := (settings_afterTurns hc turns).1

theorem consistent_moment {g : Guard} (hc : g.Consistent) {turns : List Turn} {m : Moment}
    (hm : m ∈ g.moments turns) : m.guard.Consistent := by
  obtain ⟨earlier, later, h⟩ := List.append_of_mem hm
  obtain ⟨before, _, _, _, hg⟩ := moments_eq_append_cons h
  rw [hg]
  exact consistent_afterTurns hc before

theorem config_moment {g : Guard} (hc : g.Consistent) {turns : List Turn} {m : Moment}
    (hm : m ∈ g.moments turns) : m.guard.config = g.config := by
  obtain ⟨earlier, later, h⟩ := List.append_of_mem hm
  obtain ⟨before, _, _, _, hg⟩ := moments_eq_append_cons h
  rw [hg]
  exact config_afterTurns hc before

/-! ## What was done last -/

section Latest
variable {α : Type} {f : Moment → Option α}

/-- What the last of these moments wrote, among those that wrote anything. -/
def latest (f : Moment → Option α) (moments : List Moment) : Option α :=
  moments.reverse.findSome? f

theorem latest_concat (moments : List Moment) (m : Moment) :
    latest f (moments ++ [m]) = (f m).or (latest f moments) := by
  rw [latest, List.reverse_concat, List.findSome?_cons]
  cases f m <;> rfl

theorem latest_eq_some_iff {moments : List Moment} {a : α} :
    latest f moments = some a ↔ ∃ before m between, moments = before ++ m :: between ∧
      f m = some a ∧ ∀ n ∈ between, f n = none := by
  rw [latest, List.findSome?_eq_some_iff]
  constructor
  · rintro ⟨between, m, before, hmoments, hm, hbetween⟩
    refine ⟨before.reverse, m, between.reverse, ?_, hm, fun n hn => ?_⟩
    · rw [← moments.reverse_reverse, hmoments]
      simp
    · exact hbetween n (List.mem_reverse.mp hn)
  · rintro ⟨before, m, between, rfl, hm, hbetween⟩
    refine ⟨between.reverse, m, before.reverse, by simp, hm, fun n hn => ?_⟩
    exact hbetween n (List.mem_reverse.mp hn)

/-- What follows from the last that was written, if every step keeps it so, holds after
a run of what the run wrote last. -/
theorem latest_afterTurns {P : Guard → Option α → Prop}
    (hstep : ∀ (m : Moment) (a : Option α), m.guard.Consistent → P m.guard a →
      P m.reaction.next ((f m).or a))
    {g : Guard} (hc : g.Consistent) (hg : P g none) (turns : List Turn) :
    P (g.afterTurns turns) (latest f (g.moments turns)) := by
  induction turns using List.reverseRecOn with
  | nil => exact hg
  | append_singleton turns turn ih =>
    rw [afterTurns_concat, moments_concat, latest_concat]
    exact hstep ⟨g.afterTurns turns, turn⟩ _ (consistent_afterTurns hc turns) ih

end Latest

/-! ## A device to try runs on -/

namespace Lamp

/-- Collaborators that leave every question to the access manager, which takes it. -/
def deferring : Answers where
  properties _ := none
  verdict _ := .requiresManager
  manager _ := .ok ()
  transport _ _ := .ok ()
  claims _ _ _ := false

/-- The same, with a directory that says the lamp is secure. -/
def securing : Answers := { deferring with properties _ := some .secure }

def phone : Endpoint := ⟨⟨1⟩, .ip, "10.0.0.1", 5683⟩

def tablet : Endpoint := ⟨⟨2⟩, .bleGatt, "AC:DE:48:00:11:22", 0⟩

/-- Is the lamp on? -/
def ask : Request where
  identity := .anonymous
  method := .get
  uri := "/light?if=baseline"
  payload := []
  token := ⟨[7]⟩
  messageId := 1
  messageType := .confirmable

/-- Turn the lamp on. -/
def put : Request := { ask with method := .put, payload := [1], token := ⟨[8]⟩, messageId := 2 }

/-- The lamp's application registers, and the phone asks. -/
def asking : List Turn :=
  [⟨deferring, .registerHandlers (some "lamp") (some "lamp") (some "lamp")⟩,
    ⟨deferring, .request phone ask⟩]

end Lamp

end ResourceGuard.Guard
