import Mathlib.Data.List.Count
import ResourceGuard.Collaborator.TokenMatcher

/-! # Expectations are used up

A matcher is told which tokens to expect and is offered responses, in any order. What it
does with a response follows from two counts alone: how often the response's token was
expected, and how often it was claimed before. So the expectations are a multiset, each is
used up by one response, and it makes no difference in which order they were made. -/
namespace ResourceGuard.TokenMatcher

/-- One use of a matcher. -/
inductive Event where
  | expect (token : Token)
  | claim (response : Response)
  deriving DecidableEq

def next (m : TokenMatcher) : Event → TokenMatcher
  | .expect token => m.expect token
  | .claim response => (m.claim response).2

/-- The matcher after these uses of it. -/
def after (m : TokenMatcher) (events : List Event) : TokenMatcher := events.foldl next m

/-- What each of the claims returns, in order. -/
def returns (m : TokenMatcher) : List Event → List Bool
  | [] => []
  | .expect token :: events => (m.expect token).returns events
  | .claim response :: events => (m.claim response).1 :: (m.claim response).2.returns events

/-- The responses that are claimed with success, in order. -/
def won (m : TokenMatcher) : List Event → List Response
  | [] => []
  | .expect token :: events => (m.expect token).won events
  | .claim response :: events =>
    (if (m.claim response).1 then [response] else []) ++ (m.claim response).2.won events

/-- How many responses with this token a new matcher has claimed. -/
def wins (past : List Event) (token : Token) : Nat :=
  (({} : TokenMatcher).won past).countP fun response => response.token = token

/-- How many more responses with this token a new matcher waits for, after these uses. -/
def outstanding (past : List Event) (token : Token) : Nat :=
  past.count (.expect token) - wins past token

/-- A new matcher that was used like this goes by its counts. -/
structure GoesByCount (past : List Event) : Prop where
  claim_iff : ∀ response, ((({} : TokenMatcher).after past).claim response).1 = true ↔
    wins past response.token < past.count (.expect response.token)
  /-- No more is claimed than was expected. -/
  wins_le : ∀ token, wins past token ≤ past.count (.expect token)
  /-- A claim that succeeds uses up one expectation of its token, -/
  used : ∀ response, ((({} : TokenMatcher).after past).claim response).1 = true →
    outstanding (past ++ [.claim response]) response.token + 1 = outstanding past response.token
  /-- and none of another; -/
  others : ∀ response token, token ≠ response.token →
    outstanding (past ++ [.claim response]) token = outstanding past token
  /-- one that fails changes nothing. -/
  failed : ∀ response, ((({} : TokenMatcher).after past).claim response).1 = false →
    ((({} : TokenMatcher).after past).claim response).2 = ({} : TokenMatcher).after past
  claimed : (({} : TokenMatcher).after past).claimed = ({} : TokenMatcher).won past
  /-- After any other uses with the same counts, every claim from then on ends the same. -/
  order : ∀ other, (∀ token, outstanding other token = outstanding past token) → ∀ later,
    (({} : TokenMatcher).after other).returns later = (({} : TokenMatcher).after past).returns later

variable {m n : TokenMatcher}

/-! ## One use -/

theorem claim_eq_awaits (m : TokenMatcher) (response : Response) :
    (m.claim response).1 = m.awaits response := by
  unfold claim
  cases m.awaits response <;> rfl

theorem awaits_iff {response : Response} :
    m.awaits response = true ↔ 0 < m.expected.count response.token := by
  rw [awaits, List.contains_iff_mem, List.count_pos_iff]

theorem claim_eq_true_iff {response : Response} :
    (m.claim response).1 = true ↔ 0 < m.expected.count response.token := by
  rw [claim_eq_awaits, awaits_iff]

theorem claim_of_failed {response : Response} (h : (m.claim response).1 = false) :
    (m.claim response).2 = m := by
  unfold claim at h ⊢
  split
  · rename_i hawaits
    simp [hawaits] at h
  · rfl

theorem count_expect (m : TokenMatcher) (expected token : Token) :
    (m.expect expected).expected.count token =
      m.expected.count token + if expected = token then 1 else 0 := by
  simp [expect, List.count_singleton]

theorem count_claim (m : TokenMatcher) (response : Response) (token : Token) :
    (m.claim response).2.expected.count token =
      m.expected.count token -
        if (m.claim response).1 ∧ response.token = token then 1 else 0 := by
  cases h : (m.claim response).1 with
  | false => simp [claim_of_failed h]
  | true =>
    have hclaim : (m.claim response).2.expected = m.expected.erase response.token := by
      unfold claim at h ⊢
      split
      · rfl
      · simp_all
    simp [hclaim, List.count_erase]

theorem claimed_claim (m : TokenMatcher) (response : Response) :
    (m.claim response).2.claimed =
      m.claimed ++ if (m.claim response).1 then [response] else [] := by
  unfold claim
  split <;> simp

/-! ## Many uses -/

theorem after_append (m : TokenMatcher) (past later : List Event) :
    m.after (past ++ later) = (m.after past).after later := List.foldl_append

theorem claimed_after (m : TokenMatcher) (events : List Event) :
    (m.after events).claimed = m.claimed ++ m.won events := by
  induction events generalizing m with
  | nil => simp [after, won]
  | cons event events ih =>
    cases event with
    | expect token => exact ih _
    | claim response =>
      rw [won, ← List.append_assoc, ← claimed_claim]
      exact ih _

/-- What was expected has been claimed or is still expected. -/
theorem count_after (m : TokenMatcher) (events : List Event) (token : Token) :
    (m.after events).expected.count token +
        (m.won events).countP (fun response => response.token = token) =
      m.expected.count token + events.count (.expect token) := by
  induction events generalizing m with
  | nil => rfl
  | cons event events ih =>
    cases event with
    | expect expected =>
      have hrest := ih (m.expect expected)
      have hafter : m.after (.expect expected :: events) = (m.expect expected).after events := rfl
      rw [count_expect] at hrest
      rw [won, hafter, List.count_cons]
      simp only [beq_iff_eq, Event.expect.injEq]
      omega
    | claim response =>
      have hrest := ih (m.claim response).2
      rw [count_claim] at hrest
      have hafter : m.after (.claim response :: events) = (m.claim response).2.after events := rfl
      have hcount : (Event.claim response :: events).count (.expect token) =
          events.count (.expect token) := by simp
      rw [won, List.countP_append, hafter, hcount]
      cases hclaim : (m.claim response).1 with
      | false => simpa [hclaim] using hrest
      | true =>
        have hpos := claim_eq_true_iff.mp hclaim
        by_cases htoken : response.token = token
        · subst htoken
          simp [hclaim] at hrest ⊢
          omega
        · simpa [hclaim, htoken] using hrest

theorem wins_le_count (past : List Event) (token : Token) :
    wins past token ≤ past.count (.expect token) := by
  have h := count_after {} past token
  simp only [List.count_nil] at h
  unfold wins
  omega

theorem count_eq_outstanding (past : List Event) (token : Token) :
    (({} : TokenMatcher).after past).expected.count token = outstanding past token := by
  have h := count_after {} past token
  simp only [List.count_nil] at h
  unfold outstanding wins
  omega

theorem outstanding_claim (past : List Event) (response : Response) (token : Token) :
    outstanding (past ++ [.claim response]) token =
      outstanding past token -
        if ((({} : TokenMatcher).after past).claim response).1 ∧ response.token = token then 1
        else 0 := by
  rw [← count_eq_outstanding, ← count_eq_outstanding, after_append]
  exact count_claim _ response token

/-- Matchers with the same expectations, in whatever order, return the same. -/
theorem returns_of_perm (h : m.expected.Perm n.expected) (events : List Event) :
    m.returns events = n.returns events := by
  induction events generalizing m n with
  | nil => rfl
  | cons event events ih =>
    cases event with
    | expect token => exact ih (h.append_right [token])
    | claim response =>
      have hclaim : (m.claim response).1 = (n.claim response).1 := by
        rw [Bool.eq_iff_iff, claim_eq_true_iff, claim_eq_true_iff, h.count_eq]
      have hrest : (m.claim response).2.expected.Perm (n.claim response).2.expected := by
        rw [List.perm_iff_count]
        intro token
        rw [count_claim, count_claim, hclaim, h.count_eq]
      rw [returns, returns, hclaim, ih hrest]

theorem goesByCount (past : List Event) : GoesByCount past where
  claim_iff response := by
    rw [claim_eq_true_iff, count_eq_outstanding, outstanding]
    omega
  wins_le := wins_le_count past
  used response h := by
    have hpos := claim_eq_true_iff.mp h
    rw [count_eq_outstanding] at hpos
    rw [outstanding_claim, if_pos ⟨h, rfl⟩]
    omega
  others response token h := by
    rw [outstanding_claim, if_neg fun hsame => h hsame.2.symm, Nat.sub_zero]
  failed response h := claim_of_failed h
  claimed := claimed_after {} past
  order other h later := by
    refine returns_of_perm ?_ later
    rw [List.perm_iff_count]
    intro token
    rw [count_eq_outstanding, count_eq_outstanding, h]

end ResourceGuard.TokenMatcher
