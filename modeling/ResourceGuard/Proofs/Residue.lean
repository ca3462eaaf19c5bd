import Mathlib.Data.List.Forall2
import ResourceGuard.Proofs.SideBySide

/-! # No residue of past requests

What the list was last asked about stays in the context when a request is done with. It
shows, but nothing reads it: the next question to the list replaces it, and until then no
check, no reply and no entry in the log depends on it. So two guards that have the same
request parked, or none, go the same way from here, whatever has happened to them; and a
guard that is idle goes the way of a new one. -/
namespace ResourceGuard

namespace Guard

/-- Two guards that differ at most in what the list was last asked about. -/
structure Resembles (g h : Guard) : Prop where
  setup : h = { g with context := h.context }
  phase : g.context.phase = h.context.phase
  pending : g.context.pending = h.context.pending

end Guard

/-- Two reactions that differ at most in what the list was last asked about, before; and
in nothing, once it is asked. -/
structure Reaction.Resembles {α : Type} (r s : Reaction Guard α) : Prop where
  result : r.result = s.result
  contacts : r.contacts = s.contacts
  entries : r.entries = s.entries
  next : r.next.Resembles s.next
  asked : r.resolved ≠ [] → r.next = s.next

namespace Guard

/-- By these turns the two guards cannot be told apart, but for what the list was last
asked about; and not even by that, once it has been asked something. -/
structure Indistinguishable (g h : Guard) (turns : List Turn) : Prop where
  now : g.Resembles h
  later : List.Forall₂ Reaction.Resembles (g.run turns) (h.run turns)
  asked : (∃ r ∈ g.run turns, r.resolved ≠ []) → g.afterTurns turns = h.afterTurns turns

/-- The calls by which a new guard comes to the registrations of this one. -/
def registrations (g : Guard) : List Call :=
  (match g.handlers with
    | some ⟨request, response, error⟩ =>
      [.registerHandlers (some request) (some response) (some error)]
    | none => []) ++
  .installMatcher g.matcher ::
  match g.storage with
    | some store => [.registerStorage (some store)]
    | none => []

/-- Nothing but its registrations and what it has parked is left in this guard, made with
these settings. -/
structure LeavesNoResidue (config : Config) (hasManager : Bool) (g : Guard) : Prop where
  /-- Whatever has happened to another guard with these settings, it goes the same way. -/
  same : ∀ past turns, ((fresh config hasManager).afterTurns past).handlers = g.handlers →
    ((fresh config hasManager).afterTurns past).matcher = g.matcher →
    ((fresh config hasManager).afterTurns past).storage = g.storage →
    ((fresh config hasManager).afterTurns past).context.pending = g.context.pending →
      Indistinguishable g ((fresh config hasManager).afterTurns past) turns
  /-- While it is idle, so does a new one with which the same are registered. -/
  idle : g.context.phase = .awaitingRequest → ∀ answers turns,
    Indistinguishable g
      ((fresh config hasManager).afterTurns (g.registrations.map fun call => ⟨answers, call⟩))
      turns
  /-- A shutdown leaves nothing to do for another. -/
  shutdown : g.shutdown.next.shutdown.next = g.shutdown.next ∧ g.shutdown.contacts = [] ∧
    g.shutdown.next.shutdown.contacts = []

variable {g h : Guard} {answers : Answers}

theorem Resembles.refl (g : Guard) : g.Resembles g := ⟨rfl, rfl, rfl⟩

/-- With the same request parked, or none, both are busy or both are idle. -/
theorem resembles_of_pending (hc : g.Consistent) (hh : h.Consistent)
    (hsetup : h = { g with context := h.context })
    (hpending : g.context.pending = h.context.pending) : g.Resembles h := by
  refine ⟨hsetup, ?_, hpending⟩
  have hidle : g.context.phase = .awaitingRequest ↔ h.context.phase = .awaitingRequest := by
    rw [hc.phase_eq_awaiting_iff, hh.phase_eq_awaiting_iff, hpending]
  cases hg : g.context.phase with
  | awaitingRequest => exact (hidle.mp hg).symm
  | processingDelegation =>
    cases hh : h.context.phase with
    | awaitingRequest => rw [hidle.mpr hh] at hg; cases hg
    | processingDelegation => rfl

theorem Resembles.withContext (hg : g.Resembles h) (c : Context) :
    ({ g with context := c } : Guard) = { h with context := c } := by
  rw [hg.setup]

theorem Resembles.cleared (hg : g.Resembles h) :
    ({ g with context := g.context.cleared } : Guard).Resembles
      { h with context := h.context.cleared } := by
  refine ⟨?_, rfl, rfl⟩
  rw [hg.setup]

end Guard

namespace Reaction

variable {α β : Type} {r s : Reaction Guard α}

theorem resembles_of_eq (h : r = s) : r.Resembles s := by
  subst h
  exact ⟨rfl, rfl, rfl, .refl _, fun _ => rfl⟩

/-- As long as the list is not asked, it may be anything that it was last asked about. -/
theorem resembles_of_unasked (hresult : r.result = s.result) (hcontacts : r.contacts = s.contacts)
    (hentries : r.entries = s.entries) (hnext : r.next.Resembles s.next)
    (hasked : r.resolved = []) : r.Resembles s :=
  ⟨hresult, hcontacts, hentries, hnext, fun h => absurd hasked h⟩

theorem Resembles.map (h : r.Resembles s) (f : α → β) : (r.map f).Resembles (s.map f) :=
  ⟨congrArg f h.result, h.contacts, h.entries, h.next, h.asked⟩

end Reaction

namespace Guard

variable {g h : Guard} {answers : Answers}

/-! ## One call -/

theorem resembles_request (hg : g.Resembles h) (hc : g.Consistent) (hh : h.Consistent)
    (answers : Answers) (peer : Endpoint) (request : Request) :
    (g.onRequest answers peer request).Resembles (h.onRequest answers peer request) := by
  have hconfig : g.config = h.config := by rw [hg.setup]
  have hmanager : g.hasManager = h.hasManager := by rw [hg.setup]
  have hscreen : g.screen answers request = h.screen answers request :=
    screen_congr hconfig (by rw [hg.setup]) hg.phase ⟨rfl, rfl, rfl⟩ rfl
  have hscreening : g.screeningContacts request = h.screeningContacts request :=
    screeningContacts_congr hconfig ⟨rfl, rfl, rfl⟩
  have hentries (screening : Screening) :
      g.screeningEntries request screening = h.screeningEntries request screening :=
    screeningEntries_congr hconfig hg.phase request screening
  have hcontacts : managerContacts g.hasManager request.query =
      managerContacts h.hasManager request.query := by rw [hmanager]
  have hexit := onRequest_exit hc answers peer request
  generalize g.onRequest answers peer request = r at hexit
  cases hexit with
  | screened hs =>
    -- the one exit at which the list is not asked, and the guards stay as they are
    rw [hscreen, hconfig] at hs
    rw [onRequest_of_screened hs, hscreening, hentries, hscreen]
    exact Reaction.resembles_of_unasked rfl rfl rfl hg (by simp)
  | granted hs hv =>
    rw [hscreen] at hs
    rw [← (RequestExit.granted hs hv).eq_onRequest hh, hscreening, hentries, hg.withContext]
    exact Reaction.resembles_of_eq rfl
  | denied hs hv =>
    rw [hscreen] at hs
    rw [← (RequestExit.denied hs hv).eq_onRequest hh, hscreening, hentries, hg.withContext]
    exact Reaction.resembles_of_eq rfl
  | parked hs hv hm =>
    rw [hscreen] at hs
    rw [hmanager] at hm
    rw [← (RequestExit.parked hs hv hm).eq_onRequest hh, hscreening, hentries, hcontacts,
      hg.withContext]
    exact Reaction.resembles_of_eq rfl
  | unparked hs hv hm =>
    rw [hscreen] at hs
    rw [hmanager] at hm
    rw [← (RequestExit.unparked hs hv hm).eq_onRequest hh, hscreening, hentries, hcontacts,
      hg.withContext]
    exact Reaction.resembles_of_eq rfl

theorem resembles_decision (hg : g.Resembles h) (answers : Answers) (decision : ManagerDecision) :
    (g.onDecision answers decision).Resembles (h.onDecision answers decision) := by
  have hhandlers : g.handlers = h.handlers := by rw [hg.setup]
  have hexit := onDecision_exit g answers decision
  generalize g.onDecision answers decision = r at hexit
  cases hexit with
  | unexpected hn =>
    rw [hg.pending] at hn
    rw [onDecision_of_idle hn]
    exact Reaction.resembles_of_unasked rfl rfl rfl hg rfl
  | replayed hn hd happ =>
    rw [hg.pending] at hn
    rw [hhandlers] at happ
    rw [← (DecisionExit.replayed hn hd happ).eq_onDecision]
    exact Reaction.resembles_of_unasked rfl rfl rfl hg.cleared (by simp)
  | unhandled hn hd happ =>
    rw [hg.pending] at hn
    rw [hhandlers] at happ
    rw [← (DecisionExit.unhandled hn hd happ).eq_onDecision]
    exact Reaction.resembles_of_unasked rfl rfl rfl hg.cleared (by simp)
  | rejected hn hd =>
    rw [hg.pending] at hn
    rw [← (DecisionExit.rejected hn hd).eq_onDecision]
    exact Reaction.resembles_of_unasked rfl rfl rfl hg.cleared (by simp)

theorem resembles_shutdown (hg : g.Resembles h) : g.shutdown.Resembles h.shutdown := by
  refine Reaction.resembles_of_unasked rfl rfl ?_ hg.cleared rfl
  unfold shutdown Engine.reset engine
  rw [hg.pending]
  rfl

theorem resembles_of_other (hg : g.Resembles h) {call : Call}
    (hcall : call.concernsRequests = false) (answers : Answers) :
    (g.step answers call).Resembles (h.step answers call) := by
  have hcontext : (g.step answers call).next.context = g.context := context_step hcall
  rw [step_of_setup hg.setup hcall]
  refine Reaction.resembles_of_unasked rfl rfl rfl ⟨rfl, ?_, ?_⟩ (quiet_step (.inl hcall)).resolved
  · rw [hcontext, hg.phase]
    rfl
  · rw [hcontext, hg.pending]
    rfl

theorem resembles_step (hg : g.Resembles h) (hc : g.Consistent) (hh : h.Consistent)
    (answers : Answers) (call : Call) :
    (g.step answers call).Resembles (h.step answers call) := by
  cases hcall : call.concernsRequests with
  | false => exact resembles_of_other hg hcall answers
  | true =>
    cases call with
    | request peer request => exact (resembles_request hg hc hh answers peer request).map _
    | decision decision =>
      rw [step_decision, step_decision]
      exact (resembles_decision hg answers decision).map _
    | shutdown =>
      rw [step_shutdown, step_shutdown]
      exact (resembles_shutdown hg).map _
    | _ => cases hcall

/-! ## A whole run -/

theorem indistinguishable_of_resembles (hg : g.Resembles h) (hc : g.Consistent)
    (hh : h.Consistent) (turns : List Turn) : Indistinguishable g h turns := by
  induction turns generalizing g h with
  | nil => exact ⟨hg, .nil, fun hasked => absurd hasked (by simp [run])⟩
  | cons turn turns ih =>
    have hstep : (g.step turn.answers turn.call).Resembles (h.step turn.answers turn.call) :=
      resembles_step hg hc hh turn.answers turn.call
    have hrest := ih hstep.next (consistent_step hc _ _) (consistent_step hh _ _)
    refine ⟨hg, .cons hstep hrest.later, ?_⟩
    rintro ⟨r, hr, hasked⟩
    rw [afterTurns_cons, afterTurns_cons]
    -- once the list is asked the guards are equal, and equal guards stay so
    rcases List.mem_cons.mp hr with rfl | hr
    · rw [hstep.asked hasked]
    · exact hrest.asked ⟨r, hr, hasked⟩

theorem eq_withContext (hconfig : g.config = h.config) (hmanager : g.hasManager = h.hasManager)
    (hhandlers : g.handlers = h.handlers) (hmatcher : g.matcher = h.matcher)
    (hstorage : g.storage = h.storage) : h = { g with context := h.context } := by
  rw [hconfig, hmanager, hhandlers, hmatcher, hstorage]

theorem afterTurns_registrations (config : Config) (hasManager : Bool) (g : Guard)
    (answers : Answers) :
    (fresh config hasManager).afterTurns (g.registrations.map fun call => ⟨answers, call⟩) =
      { fresh config hasManager with
        handlers := g.handlers, matcher := g.matcher, storage := g.storage } := by
  obtain ⟨_, _, _, handlers, matcher, storage⟩ := g
  cases handlers <;> cases storage <;> rfl

theorem indistinguishable_afterTurns {config : Config} {hasManager : Bool} {past other : List Turn}
    (hg : g = (fresh config hasManager).afterTurns past)
    (hh : h = (fresh config hasManager).afterTurns other) (hhandlers : g.handlers = h.handlers)
    (hmatcher : g.matcher = h.matcher) (hstorage : g.storage = h.storage)
    (hpending : g.context.pending = h.context.pending) (turns : List Turn) :
    Indistinguishable g h turns := by
  have hfresh : (fresh config hasManager).Consistent := consistent_fresh config hasManager
  have hc := consistent_afterTurns hfresh past
  have hc' := consistent_afterTurns hfresh other
  obtain ⟨hconfig, hmanager⟩ := settings_afterTurns hfresh past
  obtain ⟨hconfig', hmanager'⟩ := settings_afterTurns hfresh other
  rw [← hg] at hc hconfig hmanager
  rw [← hh] at hc' hconfig' hmanager'
  have hsetup : h = { g with context := h.context } :=
    eq_withContext (hconfig.trans hconfig'.symm) (hmanager.trans hmanager'.symm) hhandlers
      hmatcher hstorage
  exact indistinguishable_of_resembles (resembles_of_pending hc hc' hsetup hpending) hc hc' turns

/-- **No residue of past requests.** Whatever has happened to a guard, it goes the way of
every other one with the same settings and registrations that has the same request
parked, or none, whatever has happened to that; and while it is idle, the way of a new
one. They may tell of different questions to the list, until it is asked again. -/
theorem no_residue_afterTurns (config : Config) (hasManager : Bool) (past : List Turn) :
    LeavesNoResidue config hasManager ((fresh config hasManager).afterTurns past) where
  same other turns hhandlers hmatcher hstorage hpending :=
    indistinguishable_afterTurns rfl rfl hhandlers.symm hmatcher.symm hstorage.symm
      hpending.symm turns
  idle hidle answers turns := by
    have hc : ((fresh config hasManager).afterTurns past).Consistent :=
      consistent_afterTurns (consistent_fresh config hasManager) past
    have hpending := hc.phase_eq_awaiting_iff.mp hidle
    have hnew := afterTurns_registrations config hasManager
      ((fresh config hasManager).afterTurns past) answers
    refine indistinguishable_afterTurns rfl rfl ?_ ?_ ?_ ?_ turns
    · rw [hnew]
    · rw [hnew]
    · rw [hnew]
    · rw [hnew, hpending]
      rfl
  shutdown := ⟨rfl, rfl, rfl⟩

end Guard

end ResourceGuard
