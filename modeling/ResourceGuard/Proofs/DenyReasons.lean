import ResourceGuard.Proofs.SideBySide
import ResourceGuard.Proofs.SingleFlight

/-! # What a denial gives away

The access control list says why it denies, and the reason goes into the log. Nothing else
depends on it: two runs in which the list denies the same for other reasons are the same
runs, told of differently. And where a guard turns requests away as unauthorized while it
is busy, a peer that is turned away cannot even tell whether it was denied or came at the
wrong time. -/
namespace ResourceGuard

/-- Two verdicts that differ at most in why they deny. -/
inductive Verdict.SameButReason : Verdict → Verdict → Prop
  | same (verdict : Verdict) : SameButReason verdict verdict
  | denied (reason reason' : DenyReason) : SameButReason (.denied reason) (.denied reason')

/-- Two sets of answers that differ at most in why the list denies. -/
structure Answers.SameButReasons (answers other : Answers) : Prop where
  properties : answers.properties = other.properties
  verdict : ∀ query, (answers.verdict query).SameButReason (other.verdict query)
  manager : answers.manager = other.manager
  transport : answers.transport = other.transport
  claims : answers.claims = other.claims

/-- Two entries that differ at most in the reason they give for a denial. -/
inductive AuditEntry.SameButReason : AuditEntry → AuditEntry → Prop
  | same (entry : AuditEntry) : SameButReason entry entry
  | resolved (query : AccessQuery) (reason reason' : DenyReason) :
      SameButReason (.resolved query (.denied reason)) (.resolved query (.denied reason'))
  | denied (reason reason' : DenyReason) : SameButReason (.denied reason) (.denied reason')

/-- The same is returned, the same contacts are made, and the same guard is left; the log
tells of the same, and gives other reasons at most. -/
structure Reaction.SameButReasons {α : Type} (r s : Reaction Guard α) : Prop where
  result : r.result = s.result
  contacts : r.contacts = s.contacts
  next : r.next = s.next
  entries : List.Forall₂ AuditEntry.SameButReason r.entries s.entries

namespace Guard

/-- The same call, under answers that differ at most in why the list denies. -/
structure Turn.SameButReasons (t u : Turn) : Prop where
  call : t.call = u.call
  answers : t.answers.SameButReasons u.answers

/-- The request gets past the other checks, and is turned away since another is parked. -/
structure TurnsAway (g : Guard) (answers : Answers) (request : Request) : Prop where
  passes : PassesChecks g.config g answers request
  parked : g.context.pending.isSome = true

/-- The list was asked about the request, and denied it. -/
def Denies (g : Guard) (answers : Answers) (peer : Endpoint) (request : Request) : Prop :=
  ∃ query reason, (g.onRequest answers peer request).resolved = [query] ∧
    answers.verdict query = .denied reason

/-- At any two guards with these settings, whatever has happened to them: a request that the
one turns away because it is busy, and the other because the list denies it, has the same
response sent to the same peer by both, and the same outcome. -/
def BusyLooksDenied (config : Config) (hasManager : Bool) : Prop :=
  ∀ (past past' : List Turn) (answers answers' : Answers) (peer : Endpoint) (request : Request),
    ((fresh config hasManager).afterTurns past).TurnsAway answers request →
    ((fresh config hasManager).afterTurns past').Denies answers' peer request →
    ∃ response,
      (((fresh config hasManager).afterTurns past).onRequest answers peer request).sent =
          [(peer, response)] ∧
        (((fresh config hasManager).afterTurns past').onRequest answers' peer request).sent =
          [(peer, response)] ∧
        (((fresh config hasManager).afterTurns past).onRequest answers peer request).result =
          (((fresh config hasManager).afterTurns past').onRequest answers' peer request).result

end Guard

/-! ## One call -/

theorem Verdict.SameButReason.eq_granted {v : Verdict} (h : SameButReason .granted v) :
    v = .granted := by
  cases h
  rfl

theorem Verdict.SameButReason.eq_denied {v : Verdict} {reason : DenyReason}
    (h : SameButReason (.denied reason) v) : ∃ reason', v = .denied reason' := by
  cases h with
  | same => exact ⟨reason, rfl⟩
  | denied _ reason' => exact ⟨reason', rfl⟩

theorem Verdict.SameButReason.eq_requiresManager {v : Verdict}
    (h : SameButReason .requiresManager v) : v = .requiresManager := by
  cases h
  rfl

theorem AuditEntry.sameButReasons_refl (entries : List AuditEntry) :
    List.Forall₂ SameButReason entries entries :=
  List.forall₂_same.mpr fun entry _ => .same entry

theorem AuditEntry.sameButReasons_append {first second rest : List AuditEntry}
    (h : List.Forall₂ SameButReason first second) :
    List.Forall₂ SameButReason (first ++ rest) (second ++ rest) :=
  List.rel_append h (sameButReasons_refl rest)

theorem Reaction.sameButReasons_of_eq {α : Type} {r s : Reaction Guard α} (h : r = s) :
    r.SameButReasons s := by
  subst h
  exact ⟨rfl, rfl, rfl, AuditEntry.sameButReasons_refl _⟩

theorem Reaction.SameButReasons.map {α β : Type} {r s : Reaction Guard α}
    (h : r.SameButReasons s) (f : α → β) : (r.map f).SameButReasons (s.map f) :=
  ⟨congrArg f h.result, h.contacts, h.next, h.entries⟩

namespace Guard

variable {g : Guard} {answers other : Answers} {peer : Endpoint} {request : Request}

theorem refuse_congr {σ : Type} (h : answers.transport = other.transport) (state : σ)
    (peer : Endpoint) (request : Request) (code : ResponseCode) (delivery : Delivery) :
    refuse state answers peer request code delivery =
      refuse state other peer request code delivery := by
  unfold refuse transmit
  rw [h]

theorem acknowledge_congr {σ : Type} (h : answers.transport = other.transport) (state : σ)
    (peer : Endpoint) (request : Request) :
    acknowledge state answers peer request = acknowledge state other peer request := by
  unfold acknowledge transmit
  rw [h]

theorem sameButReasons_request (hc : g.Consistent) (ha : answers.SameButReasons other)
    (peer : Endpoint) (request : Request) :
    (g.onRequest answers peer request).SameButReasons (g.onRequest other peer request) := by
  have hscreen : g.screen answers request = g.screen other request :=
    screen_congr rfl rfl rfl ⟨rfl, rfl, rfl⟩ ha.properties
  have hverdict := ha.verdict request.query
  have hfault := managerFault_congr ha.manager g.hasManager request.query
  have hexit := onRequest_exit hc answers peer request
  generalize g.onRequest answers peer request = r at hexit
  cases hexit with
  | screened hs =>
    rw [hscreen] at hs ⊢
    rw [← (RequestExit.screened hs).eq_onRequest hc, refuse_congr ha.transport]
    exact Reaction.sameButReasons_of_eq rfl
  | granted hs hv =>
    rw [hscreen] at hs
    rw [hv] at hverdict
    rw [← (RequestExit.granted hs hverdict.eq_granted).eq_onRequest hc]
    exact Reaction.sameButReasons_of_eq rfl
  | @denied handlers reason hs hv =>
    -- the one exit at which the reason is known, and all it comes to are two entries
    rw [hscreen] at hs
    rw [hv] at hverdict
    obtain ⟨reason', hv'⟩ := hverdict.eq_denied
    rw [← (RequestExit.denied hs hv').eq_onRequest hc, refuse_congr ha.transport]
    refine ⟨rfl, rfl, rfl, AuditEntry.sameButReasons_append ?_⟩
    refine List.rel_append (AuditEntry.sameButReasons_refl _) ?_
    exact .cons (.resolved request.query reason reason') (.cons (.denied reason reason') .nil)
  | parked hs hv hm =>
    rw [hscreen] at hs
    rw [hv] at hverdict
    rw [hfault] at hm
    rw [← (RequestExit.parked hs hverdict.eq_requiresManager hm).eq_onRequest hc,
      acknowledge_congr ha.transport]
    exact Reaction.sameButReasons_of_eq rfl
  | unparked hs hv hm =>
    rw [hscreen] at hs
    rw [hv] at hverdict
    rw [hfault] at hm
    rw [← (RequestExit.unparked hs hverdict.eq_requiresManager hm).eq_onRequest hc,
      refuse_congr ha.transport]
    exact Reaction.sameButReasons_of_eq rfl

/-- Of all that the collaborators say, a decision goes by what the transport says. -/
theorem onDecision_congr (h : answers.transport = other.transport) (g : Guard)
    (decision : ManagerDecision) : g.onDecision answers decision = g.onDecision other decision := by
  have hexit := onDecision_exit g answers decision
  generalize g.onDecision answers decision = r at hexit
  cases hexit with
  | unexpected hn => exact (DecisionExit.unexpected hn).eq_onDecision
  | replayed hn hd hh => exact (DecisionExit.replayed hn hd hh).eq_onDecision
  | unhandled hn hd hh =>
    rw [refuse_congr h]
    exact (DecisionExit.unhandled hn hd hh).eq_onDecision
  | rejected hn hd =>
    rw [refuse_congr h]
    exact (DecisionExit.rejected hn hd).eq_onDecision

theorem sameButReasons_step (hc : g.Consistent) {t u : Turn} (h : t.SameButReasons u) :
    (g.step t.answers t.call).SameButReasons (g.step u.answers u.call) := by
  obtain ⟨answers, call⟩ := t
  obtain ⟨other, call'⟩ := u
  obtain rfl : call = call' := h.call
  have ha : answers.SameButReasons other := h.answers
  cases hcall : call.concernsRequests with
  | false => exact Reaction.sameButReasons_of_eq (step_of_claims hcall ha.claims)
  | true =>
    cases call with
    | request peer request => exact (sameButReasons_request hc ha peer request).map _
    | decision decision =>
      refine Reaction.sameButReasons_of_eq ?_
      rw [step_decision, step_decision, onDecision_congr ha.transport]
    | shutdown => exact Reaction.sameButReasons_of_eq rfl
    | _ => cases hcall

/-! ## A busy guard -/

theorem refused_of_denies (hc : g.Consistent) (h : g.Denies answers peer request) :
    (g.onRequest answers peer request).result = .rejected .unauthorized ∧
      (g.onRequest answers peer request).sent =
        [(peer, request.reply .unauthorized .piggybacked)] := by
  obtain ⟨query, reason, hresolved, hdenied⟩ := h
  have hexit := onRequest_exit hc answers peer request
  generalize g.onRequest answers peer request = r at hresolved hexit
  cases hexit with
  | screened => simp at hresolved
  | denied => exact ⟨rfl, by simp⟩
  | granted _ hv | parked _ hv | unparked _ hv =>
    obtain rfl : request.query = query := by simpa using hresolved
    rw [hv] at hdenied
    cases hdenied

theorem busyLooksDenied_of_rejectUnauthorized {config : Config} (hasManager : Bool)
    (hpolicy : config.busyPolicy = .rejectUnauthorized) : BusyLooksDenied config hasManager := by
  intro past past' answers answers' peer request hbusy hdenied
  have hfresh := consistent_fresh config hasManager
  have hconfig : ((fresh config hasManager).afterTurns past).config = config :=
    config_afterTurns hfresh past
  obtain ⟨hresult, hsent, -⟩ :=
    @refused_of_parked _ answers peer request (consistent_afterTurns hfresh past) hbusy.parked
      hbusy.passes
  obtain ⟨hresult', hsent'⟩ := refused_of_denies (consistent_afterTurns hfresh past') hdenied
  rw [hconfig, hpolicy, BusyPolicy.code] at hresult hsent
  exact ⟨request.reply .unauthorized .piggybacked, hsent, hsent', hresult.trans hresult'.symm⟩

/-! ## Whole runs -/

/-- **Why access was denied stays inside.** Take two runs of a new guard with the same
settings and calls, in which everybody says the same except that the list may deny for
other reasons. At every call the guard returns the same, makes the same contacts and is
left the same; only the log gives other reasons. And if it turns requests away as
unauthorized while it is busy, a peer cannot tell that from a denial. -/
theorem deny_reason_stays_inside (config : Config) (hasManager : Bool) {first second : List Turn}
    (hturns : List.Forall₂ Turn.SameButReasons first second) :
    List.Forall₂ Reaction.SameButReasons ((fresh config hasManager).run first)
        ((fresh config hasManager).run second) ∧
      (config.busyPolicy = .rejectUnauthorized → BusyLooksDenied config hasManager) := by
  refine ⟨?_, busyLooksDenied_of_rejectUnauthorized hasManager⟩
  -- the two runs are at the same guard all the time
  refine forall₂_run (fun g h => g = h ∧ g.Consistent) ?_
    ⟨rfl, consistent_fresh config hasManager⟩ hturns
  rintro g h t u ⟨rfl, hc⟩ hturn
  have hsame := sameButReasons_step hc hturn
  exact ⟨hsame, hsame.next, consistent_step hc t.answers t.call⟩

namespace Lamp

/-- Collaborators among whom the list denies everything, for this reason. -/
def denying (reason : DenyReason) : Answers := { deferring with verdict _ := .denied reason }

/-- The lamp's application registers, and the tablet tries to turn the lamp on. -/
def trying (reason : DenyReason) : List Turn :=
  [⟨deferring, .registerHandlers (some "lamp") (some "lamp") (some "lamp")⟩,
    ⟨denying reason, .request tablet put⟩]

end Lamp

/-- The tablet is not let in, and cannot tell that it is unknown from that it may not do
this; nor, if it comes while the phone is waiting, from that it came too early. -/
theorem deny_reason_stays_inside_lamp :
    List.Forall₂ Turn.SameButReasons (Lamp.trying .subjectNotFound)
        (Lamp.trying .insufficientPermission) ∧
      List.Forall₂ Reaction.SameButReasons ((fresh {} true).run (Lamp.trying .subjectNotFound))
        ((fresh {} true).run (Lamp.trying .insufficientPermission)) ∧
      ∃ response,
        (((fresh {} true).afterTurns Lamp.asking).onRequest (Lamp.denying .subjectNotFound)
            Lamp.tablet Lamp.put).sent = [(Lamp.tablet, response)] ∧
          (((fresh {} true).afterTurns (Lamp.asking.take 1)).onRequest
            (Lamp.denying .subjectNotFound) Lamp.tablet Lamp.put).sent =
              [(Lamp.tablet, response)] := by
  have hturns : List.Forall₂ Turn.SameButReasons (Lamp.trying .subjectNotFound)
      (Lamp.trying .insufficientPermission) := by
    refine .cons ⟨rfl, rfl, fun _ => .same _, rfl, rfl, rfl⟩ (.cons ?_ .nil)
    exact ⟨rfl, rfl, fun _ => .denied _ _, rfl, rfl, rfl⟩
  obtain ⟨hsame, hbusy⟩ := deny_reason_stays_inside {} true hturns
  have hpasses : PassesChecks {} ((fresh {} true).afterTurns Lamp.asking)
      (Lamp.denying .subjectNotFound) Lamp.put := by
    refine ⟨?_, ?_, ?_⟩ <;> decide +kernel
  have hparked : ((fresh {} true).afterTurns Lamp.asking).context.pending.isSome = true := by
    decide +kernel
  have hasked : (((fresh {} true).afterTurns (Lamp.asking.take 1)).onRequest
      (Lamp.denying .subjectNotFound) Lamp.tablet Lamp.put).resolved = [Lamp.put.query] := by
    decide +kernel
  obtain ⟨response, hsent, hsent', -⟩ := hbusy rfl Lamp.asking (Lamp.asking.take 1)
    (Lamp.denying .subjectNotFound) (Lamp.denying .subjectNotFound) Lamp.tablet Lamp.put
    ⟨hpasses, hparked⟩ ⟨_, _, hasked, rfl⟩
  exact ⟨hturns, hsame, response, hsent, hsent'⟩

end Guard

end ResourceGuard
