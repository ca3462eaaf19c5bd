import ResourceGuard.Proofs.PlainChannel

/-! # Surroundings with a memory

The directory, the list, the access manager and the matchers answer as they please, each
by what it has been asked so far. A transport takes what it is given or not, for reasons
of its own. `Surroundings.turns` says which turns a sequence of calls comes to among
them. What they say within one call goes by what they were asked before the call; since
a call asks each of them once at most, that is all they were asked before the question,
and so a run among them is a run among collaborators that remember every question. -/
namespace ResourceGuard

/-- Whether a response is taken, while one call is made. -/
abbrev Transport := Endpoint → Response → Except Fault Unit

/-- What a guard has asked its collaborators, each in order. -/
structure History where
  lookedUp : List String := []
  resolved : List AccessQuery := []
  delegated : List AccessQuery := []
  offered : List (MatcherName × Endpoint × Response) := []

def History.after {σ α : Type} (history : History) (r : Reaction σ α) : History where
  lookedUp := history.lookedUp ++ r.lookedUp
  resolved := history.resolved ++ r.resolved
  delegated := history.delegated ++ r.delegated
  offered := history.offered ++ r.offered

/-- What they have been asked once these contacts have been made as well. -/
def History.through (history : History) (contacts : List Contact) : History where
  lookedUp := history.lookedUp ++ contacts.filterMap Contact.lookedUp?
  resolved := history.resolved ++ contacts.filterMap Contact.resolved?
  delegated := history.delegated ++ contacts.filterMap Contact.delegated?
  offered := history.offered ++ contacts.filterMap Contact.offered?

theorem History.after_eq_through {σ α : Type} (history : History) (r : Reaction σ α) :
    history.after r = history.through r.contacts := rfl

theorem History.through_append (history : History) (contacts more : List Contact) :
    history.through (contacts ++ more) = (history.through contacts).through more := by
  simp only [History.through, List.filterMap_append, List.append_assoc]

/-- Where this contact is a question, both give the same answer. -/
def Answers.AgreeOn (answers other : Answers) : Contact → Prop
  | .lookup path => answers.properties path = other.properties path
  | .resolve query => answers.verdict query = other.verdict query
  | .delegate query => answers.manager query = other.manager query
  | .offer matcher peer response =>
    answers.claims matcher peer response = other.claims matcher peer response
  | .send .. | .handRequest .. | .handResponse .. | .handError .. => True

/-- What the collaborators say to everything they have been asked, the question that is
to be answered being the last. -/
structure Surroundings where
  directory : List String → Option ResourceProperties
  list : List AccessQuery → Verdict
  manager : List AccessQuery → Except Fault Unit
  matcher : List (MatcherName × Endpoint × Response) → Bool

namespace Surroundings

/-- What they say within one call. -/
def answers (s : Surroundings) (history : History) (transport : Transport) : Answers where
  properties path := s.directory (history.lookedUp ++ [path])
  verdict query := s.list (history.resolved ++ [query])
  manager query := s.manager (history.delegated ++ [query])
  transport
  claims matcher peer response := s.matcher (history.offered ++ [(matcher, peer, response)])

/-- The turns that these calls come to. -/
def turns (s : Surroundings) (g : Guard) (history : History) :
    List (Transport × Call) → List Guard.Turn
  | [] => []
  | (transport, call) :: calls =>
    let turn : Guard.Turn := ⟨s.answers history transport, call⟩
    let reaction := g.step turn.answers turn.call
    turn :: s.turns reaction.next (history.after reaction) calls

theorem moments_turns_cons (s : Surroundings) (g : Guard) (history : History)
    (transport : Transport) (call : Call) (calls : List (Transport × Call)) :
    g.moments (s.turns g history ((transport, call) :: calls)) =
      ⟨g, s.answers history transport, call⟩ ::
        (g.step (s.answers history transport) call).next.moments
          (s.turns (g.step (s.answers history transport) call).next
            (history.after (g.step (s.answers history transport) call)) calls) := rfl

end Surroundings

namespace Guard

variable {g : Guard} {answers : Answers}

structure AsksOnce (r : Reaction Guard Return) : Prop where
  lookedUp : r.lookedUp.length ≤ 1
  resolved : r.resolved.length ≤ 1
  delegated : r.delegated.length ≤ 1
  offered : r.offered.length ≤ 1

theorem asksOnce_request (hc : g.Consistent) (answers : Answers) (peer : Endpoint)
    (request : Request) : AsksOnce (g.step answers (.request peer request)) := by
  have hlookedUp : ((g.screeningContacts request).filterMap Contact.lookedUp?).length ≤ 1 := by
    rw [lookedUp_screeningContacts]
    split <;> simp
  rw [step_request]
  have hexit := onRequest_exit hc answers peer request
  generalize g.onRequest answers peer request = r at hexit
  cases hexit with
  | screened | granted | denied => constructor <;> simp [hlookedUp]
  | parked | unparked => cases hm : g.hasManager <;> constructor <;> simp [hlookedUp]

theorem length_offered_onResponse (g : Guard) (answers : Answers) (peer : Endpoint)
    (response : Response) : (g.onResponse answers peer response).offered.length ≤ 1 := by
  rw [Reaction.offered, Reaction.view, contacts_onResponse]
  split
  · cases g.matcher <;> simp
  · cases g.matcher <;> cases g.handlers <;> simp

theorem lookedUp_of_other {call : Call} (h : call.concernsRequests = false ∨ call = .shutdown) :
    (g.step answers call).lookedUp = [] := by
  refine List.filterMap_eq_nil_iff.mpr fun c hc => ?_
  have hcontact := contacts_step h c hc
  cases c with
  | lookup => cases hcontact
  | _ => rfl

theorem asksOnce_of_other {call : Call} (h : call.concernsRequests = false ∨ call = .shutdown)
    (hoffered : (g.step answers call).offered.length ≤ 1) : AsksOnce (g.step answers call) := by
  have hquiet : (g.step answers call).Quiet := quiet_step h
  refine ⟨?_, ?_, ?_, hoffered⟩
  · simp [lookedUp_of_other h]
  · simp [hquiet.resolved]
  · simp [hquiet.delegated]

/-- A call asks each collaborator once at most. -/
theorem asksOnce_step (hc : g.Consistent) (answers : Answers) (call : Call) :
    AsksOnce (g.step answers call) := by
  cases call with
  | request peer request => exact asksOnce_request hc answers peer request
  | decision decision =>
    rw [step_decision]
    have hexit := onDecision_exit g answers decision
    generalize g.onDecision answers decision = r at hexit
    cases hexit with
    | unexpected => constructor <;> simp [Reaction.view]
    | replayed | unhandled | rejected => constructor <;> simp
  | response peer response =>
    exact asksOnce_of_other (.inl rfl) (length_offered_onResponse g answers peer response)
  | transportError peer error =>
    refine asksOnce_of_other (.inl rfl) ?_
    cases hh : g.handlers <;> simp [step, onError, Reaction.view, hh]
  | registerHandlers request response error =>
    refine asksOnce_of_other (.inl rfl) ?_
    cases request <;> cases response <;> cases error <;>
      simp [step, registerHandlers, Reaction.view]
  | registerStorage store =>
    refine asksOnce_of_other (.inl rfl) ?_
    cases store <;> simp [step, registerStorage, Reaction.view]
  | unregisterHandlers | installMatcher =>
    exact asksOnce_of_other (.inl rfl) (Nat.zero_le 1)
  | shutdown => exact asksOnce_of_other (.inr rfl) (Nat.zero_le 1)

/-- What is asked once at most has not been asked before. -/
theorem filterMap_before_of_once {σ α γ : Type} {r : Reaction σ α} {f : Contact → Option γ}
    {before after : List Contact} {c : Contact} {question : γ}
    (hcontacts : r.contacts = before ++ c :: after) (hc : f c = some question)
    (honce : (r.view f).length ≤ 1) : before.filterMap f = [] := by
  rw [Reaction.view, hcontacts, List.filterMap_append, List.filterMap_cons_some hc,
    List.length_append, List.length_cons] at honce
  exact List.eq_nil_of_length_eq_zero (by omega)

theorem agreeOn_of_step (hc : g.Consistent) (s : Surroundings) (history : History)
    (transport transport' : Transport) (call : Call) {before after : List Contact} {c : Contact}
    (hcontacts : (g.step (s.answers history transport) call).contacts = before ++ c :: after) :
    (s.answers history transport).AgreeOn (s.answers (history.through before) transport') c := by
  have honce : AsksOnce (g.step (s.answers history transport) call) := asksOnce_step hc _ call
  cases c with
  | lookup path =>
    have hfirst : before.filterMap Contact.lookedUp? = [] :=
      filterMap_before_of_once hcontacts rfl honce.lookedUp
    simp [Answers.AgreeOn, Surroundings.answers, History.through, hfirst]
  | resolve query =>
    have hfirst : before.filterMap Contact.resolved? = [] :=
      filterMap_before_of_once hcontacts rfl honce.resolved
    simp [Answers.AgreeOn, Surroundings.answers, History.through, hfirst]
  | delegate query =>
    have hfirst : before.filterMap Contact.delegated? = [] :=
      filterMap_before_of_once hcontacts rfl honce.delegated
    simp [Answers.AgreeOn, Surroundings.answers, History.through, hfirst]
  | offer matcher peer response =>
    have hfirst : before.filterMap Contact.offered? = [] :=
      filterMap_before_of_once hcontacts rfl honce.offered
    simp [Answers.AgreeOn, Surroundings.answers, History.through, hfirst]
  | send | handRequest | handResponse | handError => trivial

/-- **Collaborators that remember everything.** At every moment of a run among them, each
question is answered by all that was asked before it: in the moments that came earlier,
and in this one. -/
theorem agreeOn_of_turns (hc : g.Consistent) (s : Surroundings) (history : History)
    (calls : List (Transport × Call)) (transport : Transport) {earlier later : List Moment}
    {m : Moment} (hm : g.moments (s.turns g history calls) = earlier ++ m :: later)
    {before after : List Contact} {c : Contact}
    (hcontacts : m.reaction.contacts = before ++ c :: after) :
    m.turn.answers.AgreeOn
      (s.answers (history.through (earlier.flatMap (·.reaction.contacts) ++ before)) transport)
      c := by
  induction calls generalizing g history earlier with
  | nil => simp [Surroundings.turns, moments] at hm
  | cons head calls ih =>
    obtain ⟨taking, call⟩ := head
    rw [Surroundings.moments_turns_cons] at hm
    cases earlier with
    | nil =>
      obtain ⟨rfl, -⟩ := List.cons.inj hm
      exact agreeOn_of_step hc s history taking transport call hcontacts
    | cons first earlier =>
      obtain ⟨rfl, hrest⟩ := List.cons.inj hm
      rw [List.flatMap_cons, List.append_assoc, History.through_append,
        ← History.after_eq_through]
      exact ih (consistent_step hc _ call) (history.after _) hrest

end Guard

end ResourceGuard
