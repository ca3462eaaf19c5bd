import ResourceGuard.Proofs.Exits

/-! # What one call leaves

Three calls have to do with requests: a request itself, a decision of the access
manager, and a shutdown. The others leave the engine as it was, and nobody who
has to do with requests hears of them. Every call keeps the books in agreement
and the settings as they are. -/
namespace ResourceGuard

/-- The calls that concern requests. The others serve responses, transport errors
and registration. -/
def Call.concernsRequests : Call → Bool
  | .request .. => true
  | .decision _ => true
  | .shutdown => true
  | _ => false

/-- The contacts that concern requests. The others serve responses and transport
errors. -/
def Contact.concernsRequests : Contact → Bool
  | .offer .. => false
  | .handResponse .. => false
  | .handError .. => false
  | _ => true

/-- What a call returns that brings a decision. -/
def Return.ofDecision : Except AccessError Outcome → Return
  | .ok ending => .outcome ending
  | .error fault => .error fault

namespace Guard

variable {g : Guard} {answers : Answers}

@[simp] theorem next_passResponse (g : Guard) (peer : Endpoint) (response : Response) :
    (g.passResponse peer response).next = g := by
  unfold passResponse
  cases g.handlers <;> rfl

@[simp] theorem next_onResponse (g : Guard) (answers : Answers) (peer : Endpoint)
    (response : Response) : (g.onResponse answers peer response).next = g := by
  unfold onResponse
  cases g.matcher with
  | none => simp
  | some matcher => cases h : answers.claims matcher peer response <;> simp [h]

@[simp] theorem next_shutdown (g : Guard) :
    g.shutdown.next = { g with context := g.context.cleared } := rfl

/-! ## The three calls -/

theorem step_request (g : Guard) (answers : Answers) (peer : Endpoint) (request : Request) :
    g.step answers (.request peer request) = (g.onRequest answers peer request).map .outcome := rfl

theorem step_decision (g : Guard) (answers : Answers) (decision : ManagerDecision) :
    g.step answers (.decision decision) =
      (g.onDecision answers decision).map Return.ofDecision := rfl

theorem step_shutdown (g : Guard) (answers : Answers) :
    g.step answers .shutdown = g.shutdown.map fun _ => .done := rfl

/-! ## The others -/

/-- The other calls leave the engine alone. -/
theorem context_step {call : Call} (h : call.concernsRequests = false) :
    (g.step answers call).next.context = g.context := by
  cases call with
  | request | decision | shutdown => cases h
  | response peer response => simp [step]
  | transportError peer error => rfl
  | registerHandlers request response error =>
    cases request <;> cases response <;> cases error <;> rfl
  | unregisterHandlers => rfl
  | installMatcher matcher => rfl
  | registerStorage store => cases store <;> rfl

theorem result_step_ne {call : Call} (h : call.concernsRequests = false ∨ call = .shutdown)
    (outcome : Outcome) : (g.step answers call).result ≠ .outcome outcome := by
  cases call with
  | request | decision => simp [Call.concernsRequests] at h
  | response | transportError | unregisterHandlers | installMatcher | shutdown => nofun
  | registerHandlers request response error =>
    cases request <;> cases response <;> cases error <;> nofun
  | registerStorage store => cases store <;> nofun

/-- The matcher that is installed, if there is one, says that the response is its own. -/
def claims (g : Guard) (answers : Answers) (peer : Endpoint) (response : Response) : Bool :=
  g.matcher.any fun matcher => answers.claims matcher peer response

theorem contacts_onResponse (g : Guard) (answers : Answers) (peer : Endpoint)
    (response : Response) :
    (g.onResponse answers peer response).contacts =
      (g.matcher.toList.map fun matcher => .offer matcher peer response) ++
        if g.claims answers peer response then []
        else g.handlers.toList.map fun handlers => .handResponse handlers.response peer response := by
  obtain ⟨_, _, _, handlers, matcher, _⟩ := g
  cases matcher with
  | none => cases handlers <;> rfl
  | some matcher =>
    cases hclaims : answers.claims matcher peer response with
    | true => simp [onResponse, claims, hclaims]
    | false => cases handlers <;> simp [onResponse, passResponse, claims, hclaims]

theorem entries_onResponse (g : Guard) (answers : Answers) (peer : Endpoint)
    (response : Response) :
    (g.onResponse answers peer response).entries =
      .responseReceived peer.id response.code ::
        if g.claims answers peer response then [.responseClaimed]
        else if g.handlers.isSome then [] else [.responseDropped] := by
  obtain ⟨_, _, _, handlers, matcher, _⟩ := g
  cases matcher with
  | none => cases handlers <;> rfl
  | some matcher =>
    cases hclaims : answers.claims matcher peer response with
    | true => simp [onResponse, claims, hclaims]
    | false => cases handlers <;> simp [onResponse, passResponse, claims, hclaims]

theorem contacts_onError (g : Guard) (peer : Endpoint) (error : TransportError) :
    (g.onError peer error).contacts =
      g.handlers.toList.map fun handlers => .handError handlers.error peer error := by
  unfold onError
  cases g.handlers <;> rfl

/-- They serve a matcher or an application, as does a shutdown, which serves nobody. -/
theorem contacts_step {call : Call} (h : call.concernsRequests = false ∨ call = .shutdown) :
    ∀ c ∈ (g.step answers call).contacts, c.concernsRequests = false := by
  intro c hc
  cases call with
  | request | decision => simp [Call.concernsRequests] at h
  | response peer response =>
    rw [step, Reaction.contacts_map, contacts_onResponse, List.mem_append] at hc
    rcases hc with hc | hc
    · obtain ⟨matcher, -, rfl⟩ := List.mem_map.mp hc
      rfl
    · split at hc
      · cases hc
      · obtain ⟨handlers, -, rfl⟩ := List.mem_map.mp hc
        rfl
  | transportError peer error =>
    rw [step, Reaction.contacts_map, contacts_onError] at hc
    obtain ⟨handlers, -, rfl⟩ := List.mem_map.mp hc
    rfl
  | registerHandlers request response error =>
    cases request <;> cases response <;> cases error <;> cases hc
  | registerStorage store => cases store <;> cases hc
  | unregisterHandlers | installMatcher | shutdown => cases hc

/-- Nobody who has to do with requests hears of them, or of a shutdown. -/
theorem quiet_step {call : Call} (h : call.concernsRequests = false ∨ call = .shutdown) :
    (g.step answers call).Quiet := by
  refine Reaction.quiet_of_contacts fun c hc => ?_
  have hcontact := contacts_step h c hc
  cases c with
  | offer | handResponse | handError => exact ⟨rfl, rfl, rfl, rfl⟩
  | lookup | resolve | delegate | send | handRequest => cases hcontact

theorem concernsRequests_screeningContacts (g : Guard) (request : Request) :
    ∀ c ∈ g.screeningContacts request, c.concernsRequests = true := by
  intro c hc
  unfold screeningContacts at hc
  split at hc
  · rw [List.mem_singleton.mp hc]
    rfl
  · cases hc

theorem concernsRequests_managerContacts (hasManager : Bool) (query : AccessQuery) :
    ∀ c ∈ managerContacts hasManager query, c.concernsRequests = true := by
  cases hasManager <;> simp [managerContacts, Contact.concernsRequests]

theorem concernsRequests_onRequest (hc : g.Consistent) (answers : Answers) (peer : Endpoint)
    (request : Request) :
    ∀ c ∈ (g.onRequest answers peer request).contacts, c.concernsRequests = true := by
  have hscreening := concernsRequests_screeningContacts g request
  have hmanager := concernsRequests_managerContacts g.hasManager request.query
  have hexit := onRequest_exit hc answers peer request
  generalize g.onRequest answers peer request = r at hexit
  intro c hmem
  cases hexit with
  | screened =>
    rw [Reaction.contacts_after, contacts_refuse, List.mem_append, List.mem_singleton] at hmem
    rcases hmem with hmem | rfl
    · exact hscreening c hmem
    · rfl
  | granted | denied =>
    simp only [Reaction.contacts_after, contacts_refuse, contacts_deliver, List.mem_append,
      List.mem_singleton] at hmem
    rcases hmem with (hmem | rfl) | rfl
    · exact hscreening c hmem
    · rfl
    · rfl
  | parked | unparked =>
    simp only [Reaction.contacts_after, contacts_refuse, contacts_acknowledge, List.mem_append,
      List.mem_cons, List.not_mem_nil, or_false] at hmem
    rcases hmem with (hmem | rfl | hmem) | rfl
    · exact hscreening c hmem
    · rfl
    · exact hmanager c hmem
    · rfl

theorem concernsRequests_onDecision (g : Guard) (answers : Answers) (decision : ManagerDecision) :
    ∀ c ∈ (g.onDecision answers decision).contacts, c.concernsRequests = true := by
  have hexit := onDecision_exit g answers decision
  generalize g.onDecision answers decision = r at hexit
  intro c hmem
  cases hexit with
  | unexpected => cases hmem
  | replayed | unhandled | rejected =>
    rw [List.mem_singleton.mp hmem]
    rfl

/-- No matcher hears of a call that concerns requests, and no application is handed a
response or a transport error. -/
theorem concernsRequests_step (hc : g.Consistent) (answers : Answers) {call : Call}
    (h : call.concernsRequests = true) :
    ∀ c ∈ (g.step answers call).contacts, c.concernsRequests = true := by
  intro c hmem
  cases call with
  | request peer request =>
    rw [step_request, Reaction.contacts_map] at hmem
    exact concernsRequests_onRequest hc answers peer request c hmem
  | decision decision =>
    rw [step_decision, Reaction.contacts_map] at hmem
    exact concernsRequests_onDecision g answers decision c hmem
  | shutdown => cases hmem
  | _ => cases h

theorem RequestExit.next_eq {peer : Endpoint} {request : Request} {r : Reaction Guard Outcome}
    (h : RequestExit g answers peer request r) : r.next = { g with context := r.next.context } := by
  cases h <;> rfl

theorem DecisionExit.next_eq {decision : ManagerDecision}
    {r : Reaction Guard (Except AccessError Outcome)} (h : DecisionExit g answers decision r) :
    r.next = { g with context := r.next.context } := by
  cases h <;> rfl

theorem RequestExit.consistent {peer : Endpoint} {request : Request}
    {r : Reaction Guard Outcome} (h : RequestExit g answers peer request r)
    (hc : g.Consistent) : r.next.Consistent := by
  cases h with
  | screened => exact hc
  | granted | denied | unparked => exact Context.consistent_settled _
  | parked => exact Context.consistent_parking _ _

theorem DecisionExit.consistent {decision : ManagerDecision}
    {r : Reaction Guard (Except AccessError Outcome)} (h : DecisionExit g answers decision r)
    (hc : g.Consistent) : r.next.Consistent := by
  cases h with
  | unexpected => exact hc
  | replayed | unhandled | rejected => exact Context.consistent_cleared _

theorem consistent_step (hc : g.Consistent) (answers : Answers) (call : Call) :
    (g.step answers call).next.Consistent := by
  cases h : call.concernsRequests with
  | false =>
    unfold Consistent
    rw [context_step h]
    exact hc
  | true =>
    cases call with
    | request peer request =>
      rw [step_request, Reaction.next_map]
      exact (onRequest_exit hc answers peer request).consistent hc
    | decision decision =>
      rw [step_decision, Reaction.next_map]
      exact (onDecision_exit g answers decision).consistent hc
    | shutdown =>
      rw [step_shutdown, Reaction.next_map, next_shutdown]
      exact g.context.consistent_cleared
    | _ => cases h

/-! ## Registration -/

/-- The guard with the registrations that the call leaves. -/
def registering (g : Guard) : Call → Guard
  | .registerHandlers (some request) (some response) (some error) =>
    { g with handlers := some ⟨request, response, error⟩ }
  | .unregisterHandlers => { g with handlers := none }
  | .installMatcher matcher => { g with matcher }
  | .registerStorage (some store) => { g with storage := some store }
  | _ => g

/-- Whatever else a call changes is in the context. -/
theorem next_step (hc : g.Consistent) (answers : Answers) (call : Call) :
    (g.step answers call).next =
      { g.registering call with context := (g.step answers call).next.context } := by
  cases call with
  | request peer request =>
    rw [step_request, Reaction.next_map]
    exact (onRequest_exit hc answers peer request).next_eq
  | decision decision =>
    rw [step_decision, Reaction.next_map]
    exact (onDecision_exit g answers decision).next_eq
  | response peer response => simp [step, registering]
  | registerHandlers request response error =>
    cases request <;> cases response <;> cases error <;> rfl
  | registerStorage store => cases store <;> rfl
  | transportError | unregisterHandlers | installMatcher | shutdown => rfl

/-- The calls that concern requests register nobody. -/
theorem registering_of_concernsRequests {call : Call} (h : call.concernsRequests = true) :
    g.registering call = g := by
  cases call with
  | request | decision | shutdown => rfl
  | _ => cases h

/-- The settings are those that the guard was made with. -/
theorem settings_step (hc : g.Consistent) (answers : Answers) (call : Call) :
    (g.step answers call).next.config = g.config ∧
      (g.step answers call).next.hasManager = g.hasManager := by
  rw [next_step hc]
  unfold registering
  split <;> exact ⟨rfl, rfl⟩

end Guard

end ResourceGuard
