import ResourceGuard.Proofs.Runs

/-! # Whose handlers are called

An application registers three handlers at once or none. Whoever was the last to register
all three is the application from then on, until it is unregistered or replaced; what is
handed over at any moment goes to that registration and to no other. So a request that
was parked goes to the application that is there when the access manager grants it, and
its sender is turned away when there is none. -/
namespace ResourceGuard.Guard

/-- These three handlers are registered at this moment. -/
structure Moment.Registers (m : Moment) (handlers : Handlers) : Prop where
  call : m.turn.call =
    .registerHandlers (some handlers.request) (some handlers.response) (some handlers.error)
  result : m.reaction.result = .accepted

/-- These handlers were registered, and since then no others, nor was anybody
unregistered. -/
def RegisteredLast (past : List Moment) (handlers : Handlers) : Prop :=
  ∃ before registering between, past = before ++ registering :: between ∧
    registering.Registers handlers ∧
    ∀ n ∈ between, n.turn.call ≠ .unregisterHandlers ∧ ∀ others, ¬ n.Registers others

/-- After these moments the guard's handlers are those registered last. -/
structure FollowsRegistration (past : List Moment) (g : Guard) : Prop where
  registered_iff : ∀ handlers, g.handlers = some handlers ↔ RegisteredLast past handlers
  /-- Three handlers are accepted, -/
  accepted_iff : ∀ answers request response error,
    (g.step answers (.registerHandlers request response error)).result = .accepted ↔
      request.isSome = true ∧ response.isSome = true ∧ error.isSome = true
  /-- fewer are not, -/
  refused_iff : ∀ answers request response error,
    (g.step answers (.registerHandlers request response error)).result =
        .error (.invalidParameter .incompleteHandlers) ↔
      request = none ∨ response = none ∨ error = none
  /-- and then nothing comes of them. -/
  refused : ∀ answers request response error, request = none ∨ response = none ∨ error = none →
    (g.step answers (.registerHandlers request response error)).next = g ∧
      (g.step answers (.registerHandlers request response error)).contacts = []
  request : ∀ answers call app peer request,
    .handRequest app peer request ∈ (g.step answers call).contacts →
      ∃ handlers, RegisteredLast past handlers ∧ app = handlers.request
  response : ∀ answers call app peer response,
    .handResponse app peer response ∈ (g.step answers call).contacts →
      ∃ handlers, RegisteredLast past handlers ∧ app = handlers.response
  error : ∀ answers call app peer error,
    .handError app peer error ∈ (g.step answers call).contacts →
      ∃ handlers, RegisteredLast past handlers ∧ app = handlers.error
  /-- A parked request that is granted goes to the application that is registered now, -/
  replayed : ∀ answers d handlers, g.context.pending = some d → RegisteredLast past handlers →
    (g.step answers (.decision .granted)).result = .outcome .passedThrough ∧
      (g.step answers (.decision .granted)).contacts =
        [.handRequest handlers.request d.peer d.request]
  /-- and if there is none its sender is turned away. -/
  unhandled : ∀ answers d, g.context.pending = some d →
    (∀ handlers, ¬ RegisteredLast past handlers) →
      (g.step answers (.decision .granted)).result = .outcome (.rejected .unauthorized) ∧
        (g.step answers (.decision .granted)).contacts =
          [.send d.peer (d.request.reply .unauthorized .separate)] ∧
        (d.request.reply .unauthorized .separate).Refuses d.request .unauthorized

/-! ## The last registration -/

/-- What the moment makes of the registration, if it changes it. -/
def Moment.registration? (m : Moment) : Option (Option Handlers) :=
  match m.turn.call with
  | .registerHandlers (some request) (some response) (some error) =>
    some (some ⟨request, response, error⟩)
  | .unregisterHandlers => some none
  | _ => none

theorem registration?_eq_some_some {m : Moment} {handlers : Handlers} :
    m.registration? = some (some handlers) ↔ m.Registers handlers := by
  obtain ⟨g, answers, call⟩ := m
  constructor
  · intro h
    cases call with
    | registerHandlers request response error =>
      cases request <;> cases response <;> cases error <;> cases h
      exact ⟨rfl, rfl⟩
    | _ => cases h
  · rintro ⟨hcall, -⟩
    rw [Moment.registration?, hcall]

theorem registration?_eq_none {m : Moment} :
    m.registration? = none ↔
      m.turn.call ≠ .unregisterHandlers ∧ ∀ handlers, ¬ m.Registers handlers := by
  constructor
  · intro h
    refine ⟨fun hcall => ?_, fun handlers hregisters => ?_⟩
    · rw [Moment.registration?, hcall] at h
      cases h
    · rw [registration?_eq_some_some.mpr hregisters] at h
      cases h
  · rintro ⟨hcall, hregisters⟩
    cases h : m.registration? with
    | none => rfl
    | some registered =>
      cases registered with
      | some handlers => exact absurd (registration?_eq_some_some.mp h) (hregisters handlers)
      | none =>
        unfold Moment.registration? at h
        split at h
        · cases h
        · rename_i hunregister
          exact absurd hunregister hcall
        · cases h

theorem registeredLast_iff {past : List Moment} {handlers : Handlers} :
    RegisteredLast past handlers ↔ latest Moment.registration? past = some (some handlers) := by
  rw [latest_eq_some_iff]
  simp only [RegisteredLast, registration?_eq_some_some, registration?_eq_none]

theorem handlers_step (m : Moment) (hm : m.guard.Consistent) :
    m.reaction.next.handlers = m.registration?.getD m.guard.handlers := by
  rw [Moment.reaction, next_step hm, Moment.registration?]
  cases m.turn.call with
  | registerHandlers request response error =>
    cases request <;> cases response <;> cases error <;> rfl
  | registerStorage store => cases store <;> rfl
  | request | decision | response | transportError | unregisterHandlers | installMatcher
  | shutdown => rfl

theorem handlers_afterTurns {g : Guard} (hc : g.Consistent) (hg : g.handlers = none)
    (turns : List Turn) :
    (g.afterTurns turns).handlers = (latest Moment.registration? (g.moments turns)).join := by
  refine latest_afterTurns (P := fun g registered => g.handlers = registered.join) ?_ hc hg turns
  intro m registered hm hregistered
  rw [handlers_step m hm, hregistered]
  cases m.registration? <;> rfl

/-! ## What is handed over -/

variable {g : Guard} {answers : Answers}

theorem registerHandlers_of_missing {request response error : Option AppName}
    (h : request = none ∨ response = none ∨ error = none) :
    g.registerHandlers request response error =
      { result := .error (.invalidParameter .incompleteHandlers), next := g,
        entries := [.handlersIncomplete] } := by
  rcases h with rfl | rfl | rfl
  · rfl
  · cases request <;> rfl
  · cases request <;> cases response <;> rfl

theorem handler_of_handRequest (hc : g.Consistent) {call : Call} {app : AppName}
    {peer : Endpoint} {request : Request}
    (h : .handRequest app peer request ∈ (g.step answers call).contacts) :
    ∃ handlers, g.handlers = some handlers ∧ app = handlers.request := by
  have hhanded := Reaction.mem_handed.mpr h
  cases call with
  | request sender received =>
    rw [step_request] at hhanded
    have hexit := onRequest_exit hc answers sender received
    generalize g.onRequest answers sender received = r at hhanded hexit
    cases hexit with
    | @granted handlers hs =>
      obtain ⟨rfl, -, -⟩ : app = handlers.request ∧ peer = sender ∧ request = received := by
        simpa using hhanded
      exact ⟨handlers, (screen_eq_clear_iff.mp hs).2.2.1, rfl⟩
    | screened | denied | parked | unparked => simp at hhanded
  | decision decision =>
    rw [step_decision] at hhanded
    have hexit := onDecision_exit g answers decision
    generalize g.onDecision answers decision = r at hhanded hexit
    cases hexit with
    | @replayed d handlers _ _ hh =>
      obtain ⟨rfl, -, -⟩ : app = handlers.request ∧ peer = _ ∧ request = _ := by
        simpa using hhanded
      exact ⟨handlers, hh, rfl⟩
    | unexpected => cases hhanded
    | unhandled | rejected => simp at hhanded
  | _ => cases contacts_step (by simp [Call.concernsRequests]) _ h

/-- What is handed over with this contact, if anything is, goes to the one of the handlers
that is there for it. -/
def GoesTo (handlers : Option Handlers) : Contact → Prop
  | .handRequest app _ _ => ∃ h, handlers = some h ∧ app = h.request
  | .handResponse app _ _ => ∃ h, handlers = some h ∧ app = h.response
  | .handError app _ _ => ∃ h, handlers = some h ∧ app = h.error
  | _ => True

theorem goesTo_of_concernsRequests (hc : g.Consistent) {call : Call}
    (h : call.concernsRequests = true) :
    ∀ c ∈ (g.step answers call).contacts, GoesTo g.handlers c := by
  intro c hmem
  cases c with
  | handRequest app peer request => exact handler_of_handRequest hc hmem
  | handResponse | handError => cases concernsRequests_step hc answers h _ hmem
  | lookup | resolve | delegate | send | offer => trivial

theorem goesTo_step (hc : g.Consistent) (answers : Answers) (call : Call) :
    ∀ c ∈ (g.step answers call).contacts, GoesTo g.handlers c := by
  intro c hmem
  cases call with
  | request | decision | shutdown => exact goesTo_of_concernsRequests hc rfl c hmem
  | response peer response =>
    rw [step, Reaction.contacts_map, contacts_onResponse, List.mem_append] at hmem
    rcases hmem with hmem | hmem
    · obtain ⟨matcher, -, rfl⟩ := List.mem_map.mp hmem
      trivial
    · split at hmem
      · cases hmem
      · obtain ⟨handlers, hhandlers, rfl⟩ := List.mem_map.mp hmem
        exact ⟨handlers, Option.mem_toList.mp hhandlers, rfl⟩
  | transportError peer error =>
    rw [step, Reaction.contacts_map, contacts_onError] at hmem
    obtain ⟨handlers, hhandlers, rfl⟩ := List.mem_map.mp hmem
    exact ⟨handlers, Option.mem_toList.mp hhandlers, rfl⟩
  | registerHandlers request response error =>
    cases request <;> cases response <;> cases error <;> cases hmem
  | registerStorage store => cases store <;> cases hmem
  | unregisterHandlers | installMatcher => cases hmem

theorem followsRegistration_of_handlers {past : List Moment} (hc : g.Consistent)
    (hg : ∀ handlers, g.handlers = some handlers ↔ RegisteredLast past handlers) :
    FollowsRegistration past g where
  registered_iff := hg
  accepted_iff _ request response error := by
    cases request <;> cases response <;> cases error <;> simp [step, registerHandlers]
  refused_iff _ request response error := by
    cases request <;> cases response <;> cases error <;> simp [step, registerHandlers]
  refused answers request response error h := by
    rw [step, registerHandlers_of_missing h]
    exact ⟨rfl, rfl⟩
  request answers call app peer request h := by
    obtain ⟨handlers, hh, happ⟩ := goesTo_step hc answers call _ h
    exact ⟨handlers, (hg handlers).mp hh, happ⟩
  response answers call app peer response h := by
    obtain ⟨handlers, hh, happ⟩ := goesTo_step hc answers call _ h
    exact ⟨handlers, (hg handlers).mp hh, happ⟩
  error answers call app peer error h := by
    obtain ⟨handlers, hh, happ⟩ := goesTo_step hc answers call _ h
    exact ⟨handlers, (hg handlers).mp hh, happ⟩
  replayed answers d handlers hd h := by
    have hexit : DecisionExit g answers .granted _ := .replayed hd rfl ((hg handlers).mpr h)
    rw [step_decision, ← hexit.eq_onDecision]
    exact ⟨rfl, rfl⟩
  unhandled answers d hd h := by
    have hnone : g.handlers = none := by
      cases hh : g.handlers with
      | none => rfl
      | some handlers => exact absurd ((hg handlers).mp hh) (h handlers)
    have hexit : DecisionExit g answers .granted _ := .unhandled hd rfl hnone
    rw [step_decision, ← hexit.eq_onDecision]
    exact ⟨rfl, rfl, refuses_reply _ _ _⟩

/-- **The last complete registration counts.** After every run of a new guard, whatever
it hands over next goes to the handlers that were registered last, all three at once; a
registration that is not complete changes nothing; and a parked request that is granted
goes to the application of that moment, or is refused if there is none. -/
theorem followsRegistration_afterTurns (config : Config) (hasManager : Bool)
    (turns : List Turn) :
    FollowsRegistration ((fresh config hasManager).moments turns)
      ((fresh config hasManager).afterTurns turns) := by
  have hc := consistent_fresh config hasManager
  refine followsRegistration_of_handlers (consistent_afterTurns hc turns) fun handlers => ?_
  rw [registeredLast_iff, handlers_afterTurns hc rfl, Option.join_eq_some_iff]

end ResourceGuard.Guard
