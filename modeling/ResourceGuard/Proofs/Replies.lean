import ResourceGuard.Proofs.Conservation
import ResourceGuard.Proofs.Mediation

/-! # Who a response goes to

Every response that the guard gives to the transport answers one request. A response
sent in the request's own moment takes everything from that request. One that is sent
when a decision arrives takes everything from the request that was acknowledged last,
whoever else has asked in the meantime: those were answered in moments of their own,
and what is parked stayed as it came. -/
namespace ResourceGuard

/-- The response answers this request: token, message id and URI are the request's own,
the query included, and nothing is said beside a code, which is not the one for success. -/
structure Response.Correlates (response : Response) (request : Request) : Prop where
  token : response.token = request.token
  messageId : response.messageId = request.messageId
  uri : response.uri = request.uri
  payload : response.payload = none
  code : response.code ≠ .ok

theorem correlates_reply (request : Request) {code : ResponseCode} (h : code ≠ .ok)
    (delivery : Delivery) : (request.reply code delivery).Correlates request :=
  ⟨rfl, rfl, rfl, rfl, h⟩

theorem correlates_slowReply (request : Request) : request.slowReply.Correlates request :=
  ⟨rfl, rfl, rfl, rfl, nofun⟩

theorem replyType_piggybacked (type : MessageType) :
    replyType type .piggybacked =
      if type = .confirmable then .acknowledge else .nonConfirmable := by
  cases type <;> rfl

theorem replyType_separate (type : MessageType) :
    replyType type .separate = if type = .confirmable then .confirmable else .nonConfirmable := by
  cases type <;> rfl

namespace Guard

/-- The response is sent in the moment in which the request comes in. It is either the
empty acknowledgement of a request that is parked, or a refusal. -/
structure Moment.AnswersAtOnce (m : Moment) (peer : Endpoint) (request : Request)
    (response : Response) : Prop where
  call : m.turn.call = .request peer request
  correlates : response.Correlates request
  promise : response.code = .empty →
    response.messageType = .acknowledge ∧ m.reaction.result = .outcome .acknowledged
  refusal : response.code ≠ .empty →
    m.reaction.result = .outcome (.rejected response.code) ∧
      response.messageType =
        if request.messageType = .confirmable then .acknowledge else .nonConfirmable

/-- The response is sent when a decision on the request is accepted. -/
structure Moment.AnswersAfterwards (m : Moment) (request : Request) (response : Response) :
    Prop where
  call : ∃ decision, m.turn.call = .decision decision
  result : m.reaction.result = .outcome (.rejected response.code)
  correlates : response.Correlates request
  refusal : response.code ≠ .empty
  messageType : response.messageType =
    if request.messageType = .confirmable then .confirmable else .nonConfirmable

variable {g : Guard} {answers : Answers} {peer : Endpoint} {response : Response}

theorem refusal_ne_ok {screening : Screening} {policy : BusyPolicy} :
    screening.refusal policy ≠ some .ok := by
  cases screening with
  | busy => cases policy <;> nofun
  | overlong | exposed | unhandled | clear => nofun

theorem code_ne_ok_of_request (hc : g.Consistent) {sender : Endpoint} {request : Request}
    (h : (peer, response) ∈ (g.step answers (.request sender request)).sent) :
    response.code ≠ .ok := by
  rw [step_request] at h
  have hexit := onRequest_exit hc answers sender request
  generalize g.onRequest answers sender request = r at h hexit
  cases hexit with
  | screened hs =>
    obtain ⟨-, rfl⟩ : peer = sender ∧ response = _ := by simpa using h
    rintro rfl
    exact refusal_ne_ok hs
  | granted => simp at h
  | denied | parked | unparked =>
    obtain ⟨-, rfl⟩ : peer = sender ∧ response = _ := by simpa using h
    nofun

theorem answersAtOnce_of_request (hc : g.Consistent) {sender : Endpoint} {request : Request}
    (h : (peer, response) ∈ (g.step answers (.request sender request)).sent) :
    peer = sender ∧
      Moment.AnswersAtOnce ⟨g, answers, .request sender request⟩ sender request response := by
  have hok : response.code ≠ .ok := code_ne_ok_of_request hc h
  cases answered_request hc answers sender request with
  | handed _ _ _ hsent =>
    rw [hsent] at h
    cases h
  | refused code hcode hresult _ hsent =>
    rw [hsent, List.mem_singleton] at h
    obtain ⟨rfl, rfl⟩ := Prod.mk.inj h
    refine ⟨rfl, rfl, correlates_reply request hok .piggybacked, ?_, ?_⟩
    · intro hempty
      exact absurd hempty hcode
    · intro _
      exact ⟨hresult, replyType_piggybacked request.messageType⟩
  | deferred _ hresult _ hsent =>
    rw [hsent, List.mem_singleton] at h
    obtain ⟨rfl, rfl⟩ := Prod.mk.inj h
    refine ⟨rfl, rfl, correlates_slowReply request, ?_, ?_⟩
    · intro _
      exact ⟨rfl, hresult⟩
    · intro hcode
      exact absurd rfl hcode

theorem answersAfterwards_of_decision {decision : ManagerDecision}
    (h : (peer, response) ∈ (g.step answers (.decision decision)).sent) :
    ∃ request, g.context.pending = some ⟨peer, request⟩ ∧
      Moment.AnswersAfterwards ⟨g, answers, .decision decision⟩ request response := by
  obtain ⟨outcome, houtcome⟩ :
      ∃ outcome, (g.step answers (.decision decision)).result = .outcome outcome := by
    by_contra hrefused
    rw [(silent_decision (not_exists.mp hrefused)).1] at h
    cases h
  obtain ⟨d, hd, hanswered, hending⟩ := answered_decision houtcome
  cases hanswered with
  | handed _ _ _ hsent =>
    rw [hsent] at h
    cases h
  | refused code hcode hresult _ hsent =>
    rw [hsent, List.mem_singleton] at h
    obtain ⟨rfl, rfl⟩ := Prod.mk.inj h
    obtain rfl : Outcome.rejected code = outcome :=
      Return.outcome.inj (hresult.symm.trans houtcome)
    obtain rfl : code = .unauthorized := by simpa using hending
    have hok : ResponseCode.unauthorized ≠ .ok := nofun
    exact ⟨d.request, hd, ⟨decision, rfl⟩, hresult, correlates_reply d.request hok .separate,
      hcode, replyType_separate d.request.messageType⟩
  | deferred hdelivery => cases hdelivery

/-- **No response goes to the wrong peer.** Take any moment of any run of a new guard
at which a response is given to the transport. Either a request came in at that moment,
the response is addressed to its sender, and answers it; or a decision is accepted at
that moment, and the response is addressed to the sender of the last request before it
that was acknowledged, and answers that. -/
theorem response_goes_to_requester (config : Config) (hasManager : Bool) {turns : List Turn}
    {earlier later : List Moment} {m : Moment}
    (hm : (fresh config hasManager).moments turns = earlier ++ m :: later)
    {peer : Endpoint} {response : Response} (h : .send peer response ∈ m.reaction.contacts) :
    (∃ request, m.AnswersAtOnce peer request response) ∨
      ∃ before parking between request, earlier = before ++ parking :: between ∧
        parking.turn.call = .request peer request ∧
        parking.reaction.result = .outcome .acknowledged ∧
        (∀ n ∈ between, n.reaction.result ≠ .outcome .acknowledged) ∧
        m.AnswersAfterwards request response := by
  obtain ⟨before, -, -, rfl, hg⟩ := moments_eq_append_cons hm
  obtain ⟨g, answers, call⟩ := m
  obtain rfl : g = _ := hg
  have hc := consistent_afterTurns (consistent_fresh config hasManager) before
  replace h := Reaction.mem_sent.mpr h
  cases call with
  | request sender request =>
    obtain ⟨rfl, hanswers⟩ := answersAtOnce_of_request hc h
    exact .inl ⟨request, hanswers⟩
  | decision decision =>
    obtain ⟨request, hpending, hanswers⟩ := answersAfterwards_of_decision h
    obtain ⟨first, parking, between, hmoments, hparks, hkeeps⟩ :=
      latest_parks_of_run (consistent_fresh config hasManager) rfl hpending
    exact .inr ⟨first, parking, between, request, hmoments, hparks.call, hparks.result,
      fun n hn => (hkeeps n hn).result, hanswers⟩
  | _ =>
    rw [Moment.reaction, (quiet_step (by simp [Call.concernsRequests])).sent] at h
    cases h

/-- The tablet is turned away while the phone's question is open, and the denial of that
question goes to the phone, in reply to the question. -/
theorem response_goes_to_requester_lamp :
    ∃ earlier m,
      (fresh {} true).moments (Lamp.asking ++
        [⟨Lamp.deferring, .request Lamp.tablet Lamp.put⟩, ⟨Lamp.deferring, .decision .denied⟩]) =
          earlier ++ [m] ∧
      .send Lamp.phone (Lamp.ask.reply .unauthorized .separate) ∈ m.reaction.contacts ∧
      ∃ before parking between request, earlier = before ++ parking :: between ∧
        parking.turn.call = .request Lamp.phone request ∧
        parking.reaction.result = .outcome .acknowledged ∧
        (∀ n ∈ between, n.reaction.result ≠ .outcome .acknowledged) ∧
        m.AnswersAfterwards request (Lamp.ask.reply .unauthorized .separate) := by
  have hm := moments_concat (fresh {} true)
    (Lamp.asking ++ [⟨Lamp.deferring, .request Lamp.tablet Lamp.put⟩])
    ⟨Lamp.deferring, .decision .denied⟩
  rw [List.append_assoc, List.singleton_append] at hm
  have h : .send Lamp.phone (Lamp.ask.reply .unauthorized .separate) ∈
      (Moment.reaction ⟨(fresh {} true).afterTurns
          (Lamp.asking ++ [⟨Lamp.deferring, .request Lamp.tablet Lamp.put⟩]),
        ⟨Lamp.deferring, .decision .denied⟩⟩).contacts := by decide +kernel
  refine ⟨_, _, hm, h, ?_⟩
  rcases response_goes_to_requester {} true hm h with ⟨request, hnow⟩ | hlater
  · cases hnow.call
  · exact hlater

end Guard

end ResourceGuard
