import Mathlib.Data.Nat.Bitwise
import ResourceGuard.Proofs.Mediation
import ResourceGuard.Proofs.SingleFlight

/-! # Secure resources over a plain channel

A request that comes without an identity and asks for a secure resource is forbidden,
whatever the guard is busy with and whoever is registered, and no other request is. It
costs one question to the directory and one response; what is parked stays parked, and
neither the list, nor the access manager, nor an application ever hears of it. -/
namespace ResourceGuard

/-- Of the eight bits of a resource's properties, the one of value 16 makes it secure. -/
theorem ResourceProperties.contains_secure_iff (properties : ResourceProperties) :
    properties.contains .secure = true ↔ properties.bits.toNat.testBit 4 = true := by
  have hand : (properties.bits &&& 16).toNat = (properties.bits.toNat.testBit 4).toNat * 16 :=
    Nat.and_two_pow properties.bits.toNat 4
  rw [contains, secure, beq_iff_eq, ← UInt8.toNat_inj, hand]
  cases properties.bits.toNat.testBit 4 <;> decide

namespace Guard

/-- The request must be forbidden: its path is short enough to be looked at and names an
ordinary resource that the directory calls secure, and the requester's identity is all
zero. -/
structure MustForbid (config : Config) (answers : Answers) (request : Request) : Prop where
  length : (pathOf request.uri).utf8ByteSize ≤ config.maxUriLength.toNat
  anonymous : ∀ b ∈ request.identity.bytes, b = 0
  ordinary : VirtualResource.classify (pathOf request.uri) = none
  secure : ∃ properties, answers.properties (pathOf request.uri) = some properties ∧
    properties.contains .secure = true

/-- A guard with these settings fails closed on a missing identity. -/
structure FailsClosed (config : Config) (g : Guard) : Prop where
  /-- What must be forbidden is, and nothing else. -/
  forbidden_iff : ∀ (answers : Answers) (peer : Endpoint) (request : Request),
    (g.onRequest answers peer request).result = .rejected .forbidden ↔
      MustForbid config answers request
  /-- Where the directory is asked and knows the resource, the bit of value 16 decides. -/
  bit_iff : ∀ (answers : Answers) (peer : Endpoint) (request : Request)
    (properties : ResourceProperties),
    (pathOf request.uri).utf8ByteSize ≤ config.maxUriLength.toNat →
    (∀ b ∈ request.identity.bytes, b = 0) →
    VirtualResource.classify (pathOf request.uri) = none →
    answers.properties (pathOf request.uri) = some properties →
      ((g.onRequest answers peer request).result = .rejected .forbidden ↔
        properties.bits.toNat.testBit 4 = true)
  /-- Beside the question to the directory, all that happens is that the sender is told. -/
  untouched : ∀ (answers : Answers) (peer : Endpoint) (request : Request),
    MustForbid config answers request →
      (g.onRequest answers peer request).contacts =
          [.lookup (pathOf request.uri), .send peer (request.reply .forbidden .piggybacked)] ∧
        (g.onRequest answers peer request).next = g ∧
        (request.reply .forbidden .piggybacked).Refuses request .forbidden
  /-- No other response says that something is forbidden. -/
  sent : ∀ (answers : Answers) (call : Call) (peer : Endpoint) (response : Response),
    .send peer response ∈ (g.step answers call).contacts → response.code = .forbidden →
      ∃ request, call = .request peer request ∧ MustForbid config answers request
  /-- The directory is asked once at most, and only where the answer may matter. -/
  lookup : ∀ (answers : Answers) (call : Call) (path : String),
    .lookup path ∈ (g.step answers call).contacts →
      (g.step answers call).lookedUp = [path] ∧
        ∃ peer request, call = .request peer request ∧ path = pathOf request.uri ∧
          path.utf8ByteSize ≤ config.maxUriLength.toNat ∧
          (∀ b ∈ request.identity.bytes, b = 0) ∧ VirtualResource.classify path = none

/-- Whatever is asked about or handed over at this moment came in, at this moment or at
an earlier one, as a request that did not have to be forbidden. -/
structure Unforbidden (config : Config) (earlier : List Moment) (m : Moment) : Prop where
  asked : ∀ query, .resolve query ∈ m.reaction.contacts ∨ .delegate query ∈ m.reaction.contacts →
    ∃ peer request, m.turn.call = .request peer request ∧ query = request.query ∧
      ¬ MustForbid config m.turn.answers request
  handed : ∀ app peer request, .handRequest app peer request ∈ m.reaction.contacts →
    (m.turn.call = .request peer request ∧ ¬ MustForbid config m.turn.answers request) ∨
      (m.turn.call = .decision .granted ∧
        ∃ before parking between, earlier = before ++ parking :: between ∧
          parking.turn.call = .request peer request ∧
          parking.reaction.result = .outcome .acknowledged ∧
          (∀ n ∈ between, n.reaction.result ≠ .outcome .acknowledged) ∧
          ¬ MustForbid config parking.turn.answers request)

variable {g : Guard} {answers : Answers} {peer : Endpoint} {request : Request}

/-! ## The channel check -/

theorem onSecureChannel_eq_false_iff (s : SubjectId) :
    s.onSecureChannel = false ↔ ∀ b ∈ s.bytes, b = 0 := by
  rw [SubjectId.onSecureChannel, Bool.not_eq_false', SubjectId.isAnonymous_iff]
  constructor
  · rintro rfl b hb
    exact List.eq_of_mem_replicate hb
  · intro h
    have hbytes : s.bytes = List.replicate 16 0 :=
      List.eq_replicate_iff.mpr ⟨s.length_bytes, h⟩
    obtain ⟨bytes, _⟩ := s
    subst hbytes
    rfl

theorem asksDirectory_iff :
    asksDirectory request = true ↔ (∀ b ∈ request.identity.bytes, b = 0) ∧
      VirtualResource.classify (pathOf request.uri) = none := by
  rw [← onSecureChannel_eq_false_iff]
  simp [asksDirectory, Request.path]

theorem isExposed_iff :
    isExposed answers request = true ↔ asksDirectory request = true ∧
      ∃ properties, answers.properties (pathOf request.uri) = some properties ∧
        properties.contains .secure = true := by
  unfold isExposed
  rw [Bool.and_eq_true, and_congr_right_iff, Request.path]
  intro _
  cases answers.properties (pathOf request.uri) with
  | none => simp
  | some properties => simp [ResourceProperties.isSecure]

theorem screen_eq_exposed_iff :
    g.screen answers request = .exposed ↔
      Config.exceeds g.config.maxUriLength request.path = false ∧
        isExposed answers request = true :=
  screen_eq_iff

/-- The checks find a request exposed exactly when it must be forbidden. -/
theorem screen_eq_exposed_iff_mustForbid :
    g.screen answers request = .exposed ↔ MustForbid g.config answers request := by
  rw [screen_eq_exposed_iff, Config.exceeds_eq_false_iff, isExposed_iff, asksDirectory_iff]
  constructor
  · rintro ⟨hlength, ⟨hanonymous, hordinary⟩, hsecure⟩
    exact ⟨hlength, hanonymous, hordinary, hsecure⟩
  · rintro ⟨hlength, hanonymous, hordinary, hsecure⟩
    exact ⟨hlength, ⟨hanonymous, hordinary⟩, hsecure⟩

theorem mustForbid_iff_bit {config : Config} {properties : ResourceProperties}
    (hlength : (pathOf request.uri).utf8ByteSize ≤ config.maxUriLength.toNat)
    (hanonymous : ∀ b ∈ request.identity.bytes, b = 0)
    (hordinary : VirtualResource.classify (pathOf request.uri) = none)
    (hproperties : answers.properties (pathOf request.uri) = some properties) :
    MustForbid config answers request ↔ properties.bits.toNat.testBit 4 = true := by
  rw [← ResourceProperties.contains_secure_iff]
  constructor
  · rintro ⟨-, -, -, others, hothers, hsecure⟩
    rw [hproperties, Option.some.injEq] at hothers
    rwa [hothers]
  · intro hsecure
    exact ⟨hlength, hanonymous, hordinary, properties, hproperties, hsecure⟩

theorem refusal_eq_forbidden_iff {screening : Screening} {policy : BusyPolicy} :
    screening.refusal policy = some .forbidden ↔ screening = .exposed := by
  cases screening with
  | busy => cases policy <;> simp [Screening.refusal, BusyPolicy.code]
  | overlong | exposed | unhandled | clear => simp [Screening.refusal]

theorem forbidden_iff_screen (hc : g.Consistent) :
    (g.onRequest answers peer request).result = .rejected .forbidden ↔
      g.screen answers request = .exposed := by
  have hexit := onRequest_exit hc answers peer request
  generalize g.onRequest answers peer request = r at hexit
  cases hexit with
  | screened hs =>
    rw [← refusal_eq_forbidden_iff, hs]
    simp
  | granted hs | denied hs | parked hs | unparked hs => simp [hs]

/-! ## What it costs -/

theorem reaction_of_mustForbid (h : MustForbid g.config answers request) :
    (g.onRequest answers peer request).contacts =
        [.lookup (pathOf request.uri), .send peer (request.reply .forbidden .piggybacked)] ∧
      (g.onRequest answers peer request).next = g ∧
      (request.reply .forbidden .piggybacked).Refuses request .forbidden := by
  have hs : g.screen answers request = .exposed := screen_eq_exposed_iff_mustForbid.mpr h
  obtain ⟨hlength, hexposed⟩ := screen_eq_exposed_iff.mp hs
  have hasks : asksDirectory request = true := (isExposed_iff.mp hexposed).1
  have hrefusal : (g.screen answers request).refusal g.config.busyPolicy = some .forbidden :=
    refusal_eq_forbidden_iff.mpr hs
  rw [onRequest_of_screened hrefusal]
  refine ⟨?_, rfl, refuses_reply _ _ _⟩
  rw [Reaction.contacts_after, screeningContacts, hlength, hasks]
  rfl

theorem lookedUp_request (hc : g.Consistent) (answers : Answers) (peer : Endpoint)
    (request : Request) :
    (g.step answers (.request peer request)).lookedUp =
      (g.screeningContacts request).filterMap Contact.lookedUp? := by
  rw [step_request]
  have hexit := onRequest_exit hc answers peer request
  generalize g.onRequest answers peer request = r at hexit
  cases hexit with
  | screened | granted | denied | parked | unparked => simp

theorem lookedUp_decision (g : Guard) (answers : Answers) (decision : ManagerDecision) :
    (g.step answers (.decision decision)).lookedUp = [] := by
  rw [step_decision]
  have hexit := onDecision_exit g answers decision
  generalize g.onDecision answers decision = r at hexit
  cases hexit with
  | unexpected => rfl
  | replayed | unhandled | rejected => simp

theorem lookup_of_step (hc : g.Consistent) {call : Call} {path : String}
    (h : .lookup path ∈ (g.step answers call).contacts) :
    (g.step answers call).lookedUp = [path] ∧
      ∃ peer request, call = .request peer request ∧ path = pathOf request.uri ∧
        path.utf8ByteSize ≤ g.config.maxUriLength.toNat ∧
        (∀ b ∈ request.identity.bytes, b = 0) ∧ VirtualResource.classify path = none := by
  have hmem : path ∈ (g.step answers call).lookedUp := List.mem_filterMap.mpr ⟨_, h, rfl⟩
  cases call with
  | request peer request =>
    rw [lookedUp_request hc, lookedUp_screeningContacts] at hmem ⊢
    split at hmem
    · rename_i hasks
      rw [if_pos hasks]
      obtain rfl : path = pathOf request.uri := List.mem_singleton.mp hmem
      rw [Bool.and_eq_true, Bool.not_eq_true', asksDirectory_iff,
        Config.exceeds_eq_false_iff] at hasks
      obtain ⟨hlength, hanonymous, hordinary⟩ := hasks
      exact ⟨rfl, peer, request, rfl, rfl, hlength, hanonymous, hordinary⟩
    · cases hmem
  | decision decision =>
    rw [lookedUp_decision] at hmem
    cases hmem
  | _ => cases contacts_step (by simp [Call.concernsRequests]) _ h

theorem mustForbid_of_sent (hc : g.Consistent) {call : Call} {response : Response}
    (h : .send peer response ∈ (g.step answers call).contacts)
    (hcode : response.code = .forbidden) :
    ∃ request, call = .request peer request ∧ MustForbid g.config answers request := by
  obtain ⟨request, rfl, hresult⟩ := refused_of_sent hc h (by simp [hcode]) (by simp [hcode])
  rw [hcode] at hresult
  have hs := (forbidden_iff_screen hc).mp hresult
  exact ⟨request, rfl, screen_eq_exposed_iff_mustForbid.mp hs⟩

theorem failsClosed_of_consistent (hc : g.Consistent) : FailsClosed g.config g where
  forbidden_iff _ _ _ := (forbidden_iff_screen hc).trans screen_eq_exposed_iff_mustForbid
  bit_iff _ _ _ _ hlength hanonymous hordinary hproperties :=
    ((forbidden_iff_screen hc).trans screen_eq_exposed_iff_mustForbid).trans
      (mustForbid_iff_bit hlength hanonymous hordinary hproperties)
  untouched _ _ _ := reaction_of_mustForbid
  sent _ _ _ _ := mustForbid_of_sent hc
  lookup _ _ _ := lookup_of_step hc

/-! ## What never comes of such a request -/

theorem query_of_request (hc : g.Consistent) {query : AccessQuery}
    (h : query ∈ (g.step answers (.request peer request)).resolved ∨
      query ∈ (g.step answers (.request peer request)).delegated) :
    query = request.query := by
  rw [step_request] at h
  have hexit := onRequest_exit hc answers peer request
  generalize g.onRequest answers peer request = r at h hexit
  cases hexit with
  | screened => simp at h
  | granted | denied => simpa using h
  | parked | unparked =>
    rcases h with h | h
    · simpa using h
    · cases hm : g.hasManager <;> simp_all

/-- The list and the access manager are asked about a request that has just come in. -/
theorem request_of_asked (hc : g.Consistent) {call : Call} {query : AccessQuery}
    (h : .resolve query ∈ (g.step answers call).contacts ∨
      .delegate query ∈ (g.step answers call).contacts) :
    ∃ peer request, call = .request peer request ∧ query = request.query := by
  cases call with
  | request peer request =>
    have hmem := h.imp Reaction.mem_resolved.mpr Reaction.mem_delegated.mpr
    exact ⟨peer, request, rfl, query_of_request hc hmem⟩
  | decision decision =>
    rw [step_decision] at h
    have hexit := onDecision_exit g answers decision
    generalize g.onDecision answers decision = r at h hexit
    cases hexit with
    | unexpected => rcases h with h | h <;> cases h
    | replayed | unhandled | rejected => simp [deliver, refuse, transmit] at h
  | _ =>
    rcases h with h | h
    · cases contacts_step (by simp [Call.concernsRequests]) _ h
    · cases contacts_step (by simp [Call.concernsRequests]) _ h

theorem not_mustForbid_of_asked {m : Moment} {query : AccessQuery}
    (hcall : m.turn.call = .request peer request)
    (h : .resolve query ∈ m.reaction.contacts ∨ .delegate query ∈ m.reaction.contacts) :
    ¬ MustForbid m.guard.config m.turn.answers request := by
  intro hmust
  rw [Moment.reaction, hcall, step_request, Reaction.contacts_map,
    (reaction_of_mustForbid hmust).1] at h
  simp at h

theorem Moment.Grants.not_mustForbid {m : Moment} {query : AccessQuery}
    (h : m.Grants peer request query) : ¬ MustForbid m.guard.config m.turn.answers request := by
  have hmem : query ∈ m.reaction.resolved := by simp [h.resolved]
  exact not_mustForbid_of_asked h.call (.inl (Reaction.mem_resolved.mp hmem))

theorem Moment.Parks.not_mustForbid {m : Moment} {query : AccessQuery}
    (h : m.Parks peer request query) : ¬ MustForbid m.guard.config m.turn.answers request := by
  have hmem : query ∈ m.reaction.resolved := by simp [h.resolved]
  exact not_mustForbid_of_asked h.call (.inl (Reaction.mem_resolved.mp hmem))

theorem unforbidden_of_run {g : Guard} (hc : g.Consistent) (hg : g.context.pending = none)
    {turns : List Turn} {earlier later : List Moment} {m : Moment}
    (hm : g.moments turns = earlier ++ m :: later) : Unforbidden g.config earlier m := by
  have hmem : m ∈ g.moments turns := by simp [hm]
  have hconsistent := consistent_moment hc hmem
  have hconfig := config_moment hc hmem
  constructor
  · intro query h
    obtain ⟨peer, request, hcall, rfl⟩ := request_of_asked hconsistent h
    rw [← hconfig]
    exact ⟨peer, request, hcall, rfl, not_mustForbid_of_asked hcall h⟩
  · intro app peer request h
    rcases grants_of_step hconsistent (Reaction.mem_handed.mpr h) with hgrants | ⟨hcall, hpending⟩
    · rw [← hconfig]
      exact .inl ⟨hgrants.call, hgrants.not_mustForbid⟩
    · -- a parked request is judged by what the directory said when it came
      obtain ⟨before, -, -, rfl, hguard⟩ := moments_eq_append_cons hm
      rw [hguard] at hpending
      obtain ⟨first, parking, between, hmoments, hparks, hkeeps⟩ :=
        latest_parks_of_run hc hg hpending
      have hparking : parking ∈ g.moments before := by simp [hmoments]
      rw [← config_moment hc hparking]
      exact .inr ⟨hcall, first, parking, between, hmoments, hparks.call, hparks.result,
        fun n hn => (hkeeps n hn).result, hparks.not_mustForbid⟩

/-- **Fail closed on a missing identity.** Whatever has happened to a guard, it forbids
exactly the requests for secure resources that come without an identity, and nothing
else comes of them; so at no moment of a run is such a request put to the list or to
the access manager, or handed to an application. -/
theorem forbidden_only_if_exposed (config : Config) (hasManager : Bool) (turns : List Turn) :
    FailsClosed config ((fresh config hasManager).afterTurns turns) ∧
      ∀ earlier m later, (fresh config hasManager).moments turns = earlier ++ m :: later →
        Unforbidden config earlier m := by
  have hc := consistent_fresh config hasManager
  constructor
  · have hclosed := failsClosed_of_consistent (consistent_afterTurns hc turns)
    rw [config_afterTurns hc turns] at hclosed
    exact hclosed
  · intro earlier m later hm
    exact unforbidden_of_run hc rfl hm

example : ((fresh {} true).onRequest Lamp.securing Lamp.phone Lamp.ask).result =
    .rejected .forbidden := by decide +kernel

end Guard

end ResourceGuard
