import ResourceGuard.Proofs.Directions
import ResourceGuard.Proofs.Expectations
import ResourceGuard.Proofs.Scenarios

/-! # Who gets a response

Matchers are told what to expect, installed, replaced, taken away and installed again while
responses come in. A response is routed by one count: how many more responses with its token
the matcher of the moment waits for. That count is a matter of what was done with this
matcher and with no other, before it was installed or since. -/
namespace ResourceGuard

/-- The call is one that brings a response. -/
def Call.isResponse : Call → Bool
  | .response .. => true
  | _ => false

namespace Scenario

open TokenMatcher (Event after next outstanding)

namespace Moment

/-- What the action does with the matcher of this name. -/
def event? (name : MatcherName) (m : Moment) : Option Event :=
  match m.action with
  | .expect other token => if other = name then some (.expect token) else none
  | .call (.response _ response) =>
    if m.scenario.guard.matcher = some name then some (.claim response) else none
  | _ => none

/-- What the action makes of the matcher that is installed, if it changes it. -/
def installs? (m : Moment) : Option (Option MatcherName) :=
  match m.action.call? with
  | some (.installMatcher matcher) => some matcher
  | _ => none

end Moment

/-- What was done with the matcher of this name. -/
def eventsOf (name : MatcherName) (past : List Moment) : List Event :=
  past.filterMap (·.event? name)

/-- The matcher that was installed last, unless it was taken away since. -/
def installedBy (past : List Moment) : Option MatcherName :=
  past.foldl (fun installed m => m.installs?.getD installed) none

/-- A response comes in. -/
def receiving (s : Scenario) (peer : Endpoint) (response : Response) : Moment :=
  ⟨s, .call (.response peer response)⟩

/-- In the scenario that these moments have led to, responses are routed by count. -/
structure RoutesByCount [Uuid.Library] (past : List Moment) (s : Scenario) : Prop where
  matcher : ∀ name, s.matcher name = ({} : TokenMatcher).after (eventsOf name past)
  provisioned_iff : ∀ peer response,
    (s.receiving peer response).result = .returned (.route .provisioning) ↔
      ∃ name, installedBy past = some name ∧ 0 < outstanding (eventsOf name past) response.token
  /-- The matcher that claims a response waits for one response less with its token, and
  that is all. -/
  provisioned : ∀ peer response name,
    (s.receiving peer response).result = .returned (.route .provisioning) →
      installedBy past = some name → ∀ other token,
        outstanding (eventsOf other (past ++ [s.receiving peer response])) token +
            (if other = name ∧ token = response.token then 1 else 0) =
          outstanding (eventsOf other past) token
  /-- Any other response goes to the application, or is dropped if there is none, -/
  passed : ∀ peer response,
    (s.receiving peer response).result ≠ .returned (.route .provisioning) →
      (∃ handlers, s.guard.handlers = some handlers ∧
        (s.receiving peer response).result = .returned (.route .application) ∧
        .contact (.handResponse handlers.response peer response) ∈
          (s.receiving peer response).observations) ∨
      s.guard.handlers = none ∧
        (s.receiving peer response).result = .returned (.route .dropped)
  /-- and the matchers wait for what they waited for. -/
  unchanged : ∀ peer response,
    (s.receiving peer response).result ≠ .returned (.route .provisioning) → ∀ other token,
      outstanding (eventsOf other (past ++ [s.receiving peer response])) token =
        outstanding (eventsOf other past) token

/-! ## What a call does with the matchers -/

theorem offered_of_other {g : Guard} (hc : g.Consistent) (answers : Answers) {call : Call}
    (h : call.isResponse = false) :
    ∀ c ∈ (g.step answers call).contacts, c.offered? = none := by
  intro c hmem
  cases hconcerns : call.concernsRequests with
  | true =>
    have hc := Guard.concernsRequests_step hc answers hconcerns c hmem
    cases c with
    | offer => cases hc
    | _ => rfl
  | false =>
    cases call with
    | request | decision | shutdown => cases hconcerns
    | response => cases h
    | transportError peer error =>
      rw [Guard.step, Reaction.contacts_map, Guard.contacts_onError] at hmem
      obtain ⟨handlers, -, rfl⟩ := List.mem_map.mp hmem
      rfl
    | registerHandlers request response error =>
      cases request <;> cases response <;> cases error <;> cases hmem
    | registerStorage store => cases store <;> cases hmem
    | unregisterHandlers | installMatcher => cases hmem

theorem matcher_call_of_other {s : Scenario} (hc : s.guard.Consistent) (call : Call)
    (h : call.isResponse = false) (name : MatcherName) :
    (s.call call).2.2.matcher name = s.matcher name :=
  congrArg (·.getD name {}) (matchers_noteAll _ _ (offered_of_other hc s.answers h))

theorem offered_handResponse (app : Option Handlers) (peer : Endpoint) (response : Response) :
    ∀ c ∈ app.toList.map fun handlers => Contact.handResponse handlers.response peer response,
      c.offered? = none := by
  intro c hc
  obtain ⟨handlers, -, rfl⟩ := List.mem_map.mp hc
  rfl

/-- A response is offered to the matcher that is installed, and to no other. -/
theorem matcher_call_response (s : Scenario) (peer : Endpoint) (response : Response)
    (name : MatcherName) :
    (s.call (.response peer response)).2.2.matcher name =
      if s.guard.matcher = some name then ((s.matcher name).claim response).2
      else s.matcher name := by
  have hcontacts := Guard.contacts_onResponse s.guard s.answers peer response
  have hpassed : ∀ c ∈ (if s.guard.claims s.answers peer response then []
      else s.guard.handlers.toList.map fun handlers =>
        Contact.handResponse handlers.response peer response), c.offered? = none := by
    split
    · simp
    · exact offered_handResponse _ _ _
  generalize (if s.guard.claims s.answers peer response then [] else _) = passed
    at hcontacts hpassed
  have hcall : (s.call (.response peer response)).2.2 =
      (noteAll s.answers
        { s with
          guard := (s.guard.onResponse s.answers peer response).next
          log := s.log ++ (s.guard.onResponse s.answers peer response).entries }
        (s.guard.onResponse s.answers peer response).contacts).2 := rfl
  rw [hcall, hcontacts]
  cases hinstalled : s.guard.matcher with
  | none =>
    rw [if_neg (by simp)]
    exact congrArg (·.getD name {}) (matchers_noteAll _ _ hpassed)
  | some installed =>
    refine (congrArg (·.getD name {}) (matchers_noteAll _ _ hpassed)).trans ?_
    refine (matcher_note_offer _ _ installed name peer response).trans ?_
    by_cases hname : installed = name
    · subst hname
      simp [matcher]
    · simp [matcher, hname]

/-- The matcher of the moment waits for the response. -/
theorem claims_iff {s : Scenario} {peer : Endpoint} {response : Response} :
    s.guard.claims s.answers peer response = true ↔ ∃ name, s.guard.matcher = some name ∧
      0 < (s.matcher name).expected.count response.token := by
  rw [Guard.claims, Option.any_eq_true]
  exact exists_congr fun name => and_congr_right fun _ => TokenMatcher.awaits_iff

theorem mem_observations {answers : Answers} {s : Scenario} {contacts : List Contact}
    {c : Contact} (hc : c ∈ contacts) (h : c.offered? = none) :
    .contact c ∈ (s.noteAll answers contacts).1 := by
  induction contacts generalizing s with
  | nil => cases hc
  | cons first contacts ih =>
    rw [noteAll]
    rcases List.mem_cons.mp hc with rfl | hc
    · cases c with
      | offer => simp at h
      | _ => exact List.mem_cons_self
    · exact List.mem_cons_of_mem _ (ih hc)

/-! ## What an action does with a matcher -/

theorem eventsOf_concat (name : MatcherName) (past : List Moment) (m : Moment) :
    eventsOf name (past ++ [m]) = eventsOf name past ++ (m.event? name).toList := by
  rw [eventsOf, List.filterMap_append, List.filterMap_cons, List.filterMap_nil, eventsOf]
  cases m.event? name <;> rfl

theorem installedBy_concat (past : List Moment) (m : Moment) :
    installedBy (past ++ [m]) = m.installs?.getD (installedBy past) := by
  simp [installedBy, List.foldl_append]

theorem outstanding_receiving {s : Scenario} {past : List Moment}
    (hmatcher : ∀ name, s.matcher name = ({} : TokenMatcher).after (eventsOf name past))
    (peer : Endpoint) (response : Response) (name : MatcherName) (token : Token) :
    outstanding (eventsOf name (past ++ [s.receiving peer response])) token =
      outstanding (eventsOf name past) token -
        if s.guard.matcher = some name ∧ s.guard.claims s.answers peer response = true ∧
          response.token = token then 1 else 0 := by
  have hevents : eventsOf name (past ++ [s.receiving peer response]) =
      eventsOf name past ++
        if s.guard.matcher = some name then [.claim response] else [] := by
    rw [eventsOf_concat]
    by_cases hinstalled : s.guard.matcher = some name <;>
      simp [receiving, Moment.event?, hinstalled]
  rw [hevents]
  by_cases hinstalled : s.guard.matcher = some name
  · have hclaims : s.guard.claims s.answers peer response =
        ((({} : TokenMatcher).after (eventsOf name past)).claim response).1 := by
      rw [TokenMatcher.claim_eq_awaits, ← hmatcher, Guard.claims, hinstalled]
      rfl
    rw [if_pos hinstalled, TokenMatcher.outstanding_claim, hclaims]
    simp [hinstalled]
  · simp [hinstalled]

variable [Uuid.Library]

theorem matcher_perform_expect (s : Scenario) (other name : MatcherName) (token : Token) :
    (s.perform (.expect other token)).2.2.matcher name =
      if other = name then (s.matcher name).expect token else s.matcher name := by
  have hnext : (s.perform (.expect other token)).2.2.matcher name =
      (s.matchers.insert other ((s.matcher other).expect token)).getD name {} := rfl
  rw [hnext, Std.HashMap.getD_insert]
  by_cases hname : other = name
  · subst hname
    simp
  · simp [hname, matcher]

/-- The matcher of a name is what the last action with it has made of it. -/
theorem matcher_next {m : Moment} (hc : m.scenario.guard.Consistent) (name : MatcherName) :
    m.next.matcher name = (m.scenario.matcher name).after (m.event? name).toList := by
  obtain ⟨s, action⟩ := m
  cases action with
  | call call =>
    cases hresponse : call.isResponse with
    | true =>
      cases call with
      | response peer response =>
        refine (matcher_call_response s peer response name).trans ?_
        by_cases hinstalled : s.guard.matcher = some name <;>
          simp [Moment.event?, hinstalled, after, next]
      | _ => cases hresponse
    | false =>
      refine (matcher_call_of_other hc call hresponse name).trans ?_
      cases call with
      | response => cases hresponse
      | _ => rfl
  | expect other token =>
    refine (matcher_perform_expect s other name token).trans ?_
    by_cases h : other = name <;> simp [Moment.event?, h, after, next]
  | useStore store =>
    exact matcher_call_of_other (s := { s with stores := s.stores.insertIfNew store {} }) hc
      (.registerStorage (some store)) rfl name
  | describe | set => rfl
  | write =>
    simp only [Moment.next, perform]
    split <;> rfl
  | read | unlink =>
    simp only [Moment.next, perform]
    split
    · rfl
    · split <;> rfl

/-! ## Whole scenarios -/

theorem matcher_afterActions {s : Scenario} (hc : s.guard.Consistent)
    (hs : ∀ name, s.matcher name = {}) (actions : List Action) (name : MatcherName) :
    (s.afterActions actions).matcher name =
      ({} : TokenMatcher).after (eventsOf name (s.moments actions)) := by
  induction actions using List.reverseRecOn with
  | nil => exact hs name
  | append_singleton actions action ih =>
    let m : Moment := ⟨s.afterActions actions, action⟩
    have hnext : m.next.matcher name = _ := matcher_next (consistent_afterActions hc actions) name
    rw [afterActions_concat, moments_concat, eventsOf_concat, TokenMatcher.after_append, ← ih]
    exact hnext

theorem matcher_guard_next {m : Moment} (hc : m.scenario.guard.Consistent) :
    m.next.guard.matcher = m.installs?.getD m.scenario.guard.matcher := by
  rw [Moment.next, guard_perform, Moment.installs?]
  cases m.action.call? with
  | none => rfl
  | some call =>
    refine (Guard.matcher_step ⟨m.scenario.guard, m.scenario.answers, call⟩ hc).trans ?_
    cases call <;> rfl

theorem installed_afterActions {s : Scenario} (hc : s.guard.Consistent)
    (hs : s.guard.matcher = none) (actions : List Action) :
    (s.afterActions actions).guard.matcher = installedBy (s.moments actions) := by
  induction actions using List.reverseRecOn with
  | nil => exact hs
  | append_singleton actions action ih =>
    let m : Moment := ⟨s.afterActions actions, action⟩
    have hnext : m.next.guard.matcher = _ :=
      matcher_guard_next (consistent_afterActions hc actions)
    rw [afterActions_concat, moments_concat, installedBy_concat, ← ih]
    exact hnext

/-! ## A response -/

theorem result_receiving (s : Scenario) (peer : Endpoint) (response : Response) :
    (s.receiving peer response).result =
      .returned (.route (if s.guard.claims s.answers peer response then .provisioning
        else if s.guard.handlers.isSome then .application else .dropped)) := by
  rw [← Guard.result_onResponse]
  rfl

theorem result_eq_provisioning_iff {s : Scenario} {peer : Endpoint} {response : Response} :
    (s.receiving peer response).result = .returned (.route .provisioning) ↔
      s.guard.claims s.answers peer response = true := by
  rw [result_receiving]
  cases s.guard.claims s.answers peer response <;> cases s.guard.handlers <;> simp

/-- A response that no matcher claims reaches the application, if there is one. -/
theorem handed_of_unclaimed {s : Scenario} {peer : Endpoint} {response : Response}
    {handlers : Handlers} (hclaims : s.guard.claims s.answers peer response = false)
    (hh : s.guard.handlers = some handlers) :
    .contact (.handResponse handlers.response peer response) ∈
      (s.receiving peer response).observations := by
  have hcontacts := Guard.contacts_onResponse s.guard s.answers peer response
  have hmem : .handResponse handlers.response peer response ∈
      (s.guard.onResponse s.answers peer response).contacts := by
    rw [hcontacts, hclaims, hh]
    simp
  exact mem_observations hmem (Contact.views_handResponse _ _ _).2.2.2.2.2

theorem routesByCount {past : List Moment} {s : Scenario}
    (hmatcher : ∀ name, s.matcher name = ({} : TokenMatcher).after (eventsOf name past))
    (hinstalled : s.guard.matcher = installedBy past) : RoutesByCount past s where
  matcher := hmatcher
  provisioned_iff peer response := by
    rw [result_eq_provisioning_iff, claims_iff, ← hinstalled]
    simp only [hmatcher, TokenMatcher.count_eq_outstanding]
  provisioned peer response name h hname other token := by
    rw [← hinstalled] at hname
    have hclaims := result_eq_provisioning_iff.mp h
    obtain ⟨installed, hguard, hpositive⟩ := claims_iff.mp hclaims
    obtain rfl : name = installed := Option.some.inj (hname.symm.trans hguard)
    rw [hmatcher, TokenMatcher.count_eq_outstanding] at hpositive
    rw [outstanding_receiving hmatcher]
    by_cases hsame : other = name ∧ token = response.token
    · obtain ⟨rfl, rfl⟩ := hsame
      rw [if_pos ⟨hname, hclaims, rfl⟩, if_pos ⟨rfl, rfl⟩]
      omega
    · have hother : ¬ (s.guard.matcher = some other ∧
          s.guard.claims s.answers peer response = true ∧ response.token = token) := by
        rintro ⟨hinstalled, -, rfl⟩
        exact hsame ⟨Option.some.inj (hinstalled.symm.trans hname), rfl⟩
      rw [if_neg hother, if_neg hsame, Nat.sub_zero, Nat.add_zero]
  passed peer response h := by
    rw [ne_eq, result_eq_provisioning_iff, Bool.not_eq_true] at h
    rw [result_receiving, h]
    cases hh : s.guard.handlers with
    | none => exact .inr ⟨rfl, rfl⟩
    | some handlers => exact .inl ⟨handlers, rfl, rfl, handed_of_unclaimed h hh⟩
  unchanged peer response h other token := by
    rw [ne_eq, result_eq_provisioning_iff, Bool.not_eq_true] at h
    rw [outstanding_receiving hmatcher, if_neg (by simp [h]), Nat.sub_zero]

/-- **Expectations are a multiset, and each is used up by one response.** Whatever a matcher
is told and offered, in whatever order, it claims a response exactly if it was told to expect
its token more often than it has claimed it, and nothing else about what it was told makes a
difference. So however matchers are installed, replaced and taken away, a response is
claimed exactly if the matcher of the moment still waits for one with its token; that matcher
then waits for one less, and any other response is the application's. -/
theorem expectations_used_up :
    (∀ past, TokenMatcher.GoesByCount past) ∧
      ∀ config hasManager script actions,
        RoutesByCount ((start config hasManager script).moments actions)
          ((start config hasManager script).afterActions actions) := by
  refine ⟨TokenMatcher.goesByCount, fun config hasManager script actions => ?_⟩
  have hc := consistent_start config hasManager script
  refine routesByCount (fun name => matcher_afterActions hc ?_ actions name)
    (installed_afterActions hc rfl actions)
  intro name
  exact Std.HashMap.getD_empty

end Scenario

end ResourceGuard
