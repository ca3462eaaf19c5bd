import Mathlib.Data.List.Basic
import ResourceGuard.Proofs.Accounts
import ResourceGuard.Proofs.PlainChannel
import ResourceGuard.Subject.Uuid.Standard

/-! # What the log accounts for

Six kinds of entries tell of lookups, delegations and responses. Read without the others,
the log is a faithful account of what happened: one entry for each question to the access
control list, for each question that the access manager took, for each decision that was
accepted, for each request that a shutdown dropped and for each response that the transport
was given, in the order in which all that happened, and no other. What happened can be told
from it, since no two accounts read the same. -/
namespace ResourceGuard

/-- The messages of the six kinds. -/
def accountMessages : List String :=
  ["ACL lookup complete", "Delegation parked", "Delegation resolved",
    "Abandoning pending delegation", "Response sent", "Failed in sending response"]

def AuditRecord.isAccount (r : AuditRecord) : Bool := decide (r.message ∈ accountMessages)

/-- What a log reads like without the entries of other kinds. -/
def accounts [Uuid.Library] (entries : List AuditEntry) : List AuditRecord :=
  (entries.map AuditEntry.record).filter AuditRecord.isAccount

/-- Who asked, when the call is a request. -/
def Call.requester? : Call → Option Endpoint
  | .request peer _ => some peer
  | _ => none

/-- What the log owes for a contact made while `requester` was waiting. A question that the
access manager did not take is owed nothing. -/
def Contact.owed? (answers : Answers) (requester : Option Endpoint) : Contact → Option Account
  | .resolve query => some (.lookedUp query (answers.verdict query))
  | .delegate query =>
    match answers.manager query with
    | .ok () => requester.map fun peer => .parked query.subject query.path peer.id
    | .error _ => none
  | .send peer response =>
    match answers.transport peer response with
    | .ok () => some (.sent response.code)
    | .error fault => some (.sendFailed fault response.code)
  | _ => none

namespace Guard

namespace Moment

/-- What the log owes for the request that was parked, when a decision on it was accepted
and when it was dropped by a shutdown. -/
def owedForParked (m : Moment) : List Account :=
  match m.turn.call, m.reaction.result, m.guard.context.pending with
  | .decision decision, .outcome _, some d => [.decided decision d.request.uri]
  | .shutdown, _, some d => [.abandoned d.peer.id d.request.uri]
  | _, _, _ => []

/-- Everything that the log owes. -/
def owed (m : Moment) : List Account :=
  m.owedForParked ++
    m.reaction.contacts.filterMap (Contact.owed? m.turn.answers m.turn.call.requester?)

/-- The log gives account of everything that happened, and of nothing else. -/
structure Faithful [Uuid.Library] (m : Moment) : Prop where
  told : accounts m.reaction.entries = m.owed.map Account.record
  /-- Nothing goes unaccounted for want of an asker: only requests are put to the access
  manager; -/
  requested : ∀ query, .delegate query ∈ m.reaction.contacts →
    ∃ peer request, m.turn.call = .request peer request
  /-- nor for want of a parked request: without one, no decision is accepted. -/
  accepted : ∀ decision outcome, m.turn.call = .decision decision →
    m.reaction.result = .outcome outcome → m.guard.context.pending.isSome = true
  /-- What the list was asked for is what a method needs. -/
  ofMethod : ∀ account ∈ m.owed, account.OfMethod

end Moment

end Guard

/-! ## What is owed -/

namespace Guard

variable {g : Guard} {answers : Answers} {requester : Option Endpoint}

theorem owed?_eq_none {contact : Contact} (h : contact.concernsRequests = false) :
    contact.owed? answers requester = none := by
  cases contact with
  | offer | handResponse | handError => rfl
  | lookup | resolve | delegate | send | handRequest => cases h

theorem ofMethod_of_contact {m : Moment} (hc : m.guard.Consistent) {contact : Contact}
    (hmem : contact ∈ m.reaction.contacts) {account : Account}
    (h : contact.owed? m.turn.answers requester = some account) : account.OfMethod := by
  cases contact with
  | resolve query =>
    obtain ⟨peer, request, -, rfl⟩ := request_of_asked hc (.inl hmem)
    obtain rfl := Option.some.inj h
    exact ⟨request.method, rfl⟩
  | delegate query =>
    rw [Contact.owed?] at h
    split at h
    · obtain ⟨peer, -, rfl⟩ := Option.map_eq_some_iff.mp h
      trivial
    · cases h
  | send peer response =>
    rw [Contact.owed?] at h
    split at h
    all_goals
      obtain rfl := Option.some.inj h
      trivial
  | lookup | handRequest | handResponse | handError | offer => cases h

theorem ofMethod_of_parked {m : Moment} {account : Account} (h : account ∈ m.owedForParked) :
    account.OfMethod := by
  unfold Moment.owedForParked at h
  split at h
  · obtain rfl := List.mem_singleton.mp h
    trivial
  · obtain rfl := List.mem_singleton.mp h
    trivial
  · cases h

end Guard

section Told

variable [Uuid.Library]

/-! ## Accounts -/

/-- Which kinds the six are. -/
theorem isAccount_record (entry : AuditEntry) :
    entry.record.isAccount = match entry with
      | .resolved .. | .parked .. | .decided .. | .abandoned .. | .sent _ | .sendFailed .. => true
      | _ => false := by
  cases entry <;> rfl

theorem accounts_cons (entry : AuditEntry) (rest : List AuditEntry) :
    accounts (entry :: rest) =
      if entry.record.isAccount then entry.record :: accounts rest else accounts rest := by
  rw [accounts, List.map_cons, List.filter_cons, accounts]

theorem accounts_append (first rest : List AuditEntry) :
    accounts (first ++ rest) = accounts first ++ accounts rest := by
  simp only [accounts, List.map_append, List.filter_append]

theorem accounts_flatMap {α : Type} (f : α → List AuditEntry) (l : List α) :
    accounts (l.flatMap f) = l.flatMap fun a => accounts (f a) := by
  simp only [accounts, List.map_flatMap, List.filter_flatMap]

/-- These entries account for these contacts, made while `requester` was waiting. -/
def Balanced (answers : Answers) (requester : Option Endpoint) (contacts : List Contact)
    (entries : List AuditEntry) : Prop :=
  accounts entries = (contacts.filterMap (Contact.owed? answers requester)).map Account.record

namespace Balanced

variable {answers : Answers} {requester : Option Endpoint} {contacts contacts' : List Contact}
  {entries entries' : List AuditEntry}

theorem nil : Balanced answers requester [] [] := rfl

theorem append (h : Balanced answers requester contacts entries)
    (h' : Balanced answers requester contacts' entries') :
    Balanced answers requester (contacts ++ contacts') (entries ++ entries') := by
  rw [Balanced, accounts_append, List.filterMap_append, List.map_append, h, h']

/-- An entry of another kind accounts for nothing. -/
theorem note {entry : AuditEntry} (hentry : entry.record.isAccount = false)
    (h : Balanced answers requester contacts entries) :
    Balanced answers requester contacts (entry :: entries) := by
  rw [Balanced, accounts_cons, hentry, h]
  rfl

/-- A lookup is accounted for with what the access control list said. -/
theorem resolved {query : AccessQuery} {verdict : Verdict} (hv : answers.verdict query = verdict)
    (h : Balanced answers requester contacts entries) :
    Balanced answers requester (.resolve query :: contacts)
      (.resolved query verdict :: entries) := by
  subst hv
  have hlookup : Balanced answers requester [.resolve query]
      [.resolved query (answers.verdict query)] := by
    have htold : (AuditEntry.resolved query (answers.verdict query)).record =
        (Account.lookedUp query (answers.verdict query)).record := by
      rw [AuditEntry.record, Account.record, Verdict.words_eq_text]
    exact congrArg (fun record => [record]) htold
  exact hlookup.append h

/-- A question that the access manager took is accounted for, -/
theorem parked {hasManager : Bool} {query : AccessQuery} {peer : Endpoint}
    (hm : answers.managerFault hasManager query = none)
    (h : Balanced answers (some peer) [] entries) :
    Balanced answers (some peer) (managerContacts hasManager query)
      (.parked query peer.id :: entries) := by
  obtain ⟨rfl, hok⟩ := managerFault_eq_none_iff.mp hm
  have howed : Contact.owed? answers (some peer) (.delegate query) =
      some (.parked query.subject query.path peer.id) := by
    rw [Contact.owed?, hok]
    rfl
  rw [Balanced, accounts_cons, isAccount_record, if_pos rfl, h, managerContacts, if_pos rfl,
    List.filterMap_cons_some howed, List.map_cons]
  rfl

/-- and one that it did not take, or that there was nobody for, needs no account. -/
theorem unparked {hasManager : Bool} {query : AccessQuery} {fault : DecisionFault}
    (hm : answers.managerFault hasManager query = some fault)
    (h : Balanced answers requester [] entries) :
    Balanced answers requester (managerContacts hasManager query) entries := by
  cases hasManager with
  | false => exact h
  | true =>
    have hfault := isOk_manager_of_fault hm
    have howed : Contact.owed? answers requester (.delegate query) = none := by
      cases hok : answers.manager query with
      | ok => simp [hok, Except.isOk, Except.toBool] at hfault
      | error => rw [Contact.owed?, hok]
    rw [Balanced, h, managerContacts, if_pos rfl, List.filterMap_cons_none howed]

end Balanced

namespace Guard

variable {g : Guard} {answers : Answers} {requester : Option Endpoint}

theorem balanced_screening (g : Guard) (request : Request) (screening : Screening) :
    Balanced answers requester (g.screeningContacts request)
      (g.screeningEntries request screening) := by
  have hentries : accounts (g.screeningEntries request screening) = [] := by
    unfold screeningEntries
    cases request.identity.onSecureChannel <;> cases screening <;> rfl
  unfold screeningContacts
  split <;> exact hentries

/-- A response is accounted for as the transport took it. -/
theorem balanced_transmit {σ : Type} (state : σ) (peer : Endpoint) (response : Response)
    (outcome : Outcome) :
    Balanced answers requester [.send peer response]
      (transmit state answers peer response outcome).entries := by
  unfold transmit
  simp only [Balanced, List.filterMap_cons, List.filterMap_nil, Contact.owed?]
  cases answers.transport peer response <;> rfl

/-! ## One call -/

theorem balanced_request (hc : g.Consistent) (answers : Answers) (peer : Endpoint)
    (request : Request) :
    Balanced answers (some peer) (g.onRequest answers peer request).contacts
      (g.onRequest answers peer request).entries := by
  have hscreening (screening : Screening) :
      Balanced answers (some peer) (g.screeningContacts request)
        (g.screeningEntries request screening) := balanced_screening g request screening
  have hexit := onRequest_exit hc answers peer request
  generalize g.onRequest answers peer request = r at hexit
  cases hexit with
  | screened => exact (hscreening _).append (balanced_transmit _ _ _ _)
  | granted _ hv => exact ((hscreening _).append (.resolved hv (.note rfl .nil))).append rfl
  | denied _ hv =>
    exact ((hscreening _).append (.resolved hv (.note rfl .nil))).append (balanced_transmit _ _ _ _)
  | parked _ hv hm =>
    refine ((hscreening _).append (.resolved hv (.note rfl ?_))).append (balanced_transmit _ _ _ _)
    exact .parked hm (.note rfl .nil)
  | unparked _ hv hm =>
    -- the question may have been put, but it was not taken
    refine ((hscreening _).append (.resolved hv (.note rfl ?_))).append (balanced_transmit _ _ _ _)
    exact .unparked hm (.note rfl .nil)

theorem accounts_request (hc : g.Consistent) (answers : Answers) (peer : Endpoint)
    (request : Request) :
    accounts (⟨g, answers, .request peer request⟩ : Moment).reaction.entries =
      (⟨g, answers, .request peer request⟩ : Moment).owed.map Account.record := by
  have hparked : (⟨g, answers, .request peer request⟩ : Moment).owedForParked = [] := rfl
  rw [Moment.owed, hparked, List.nil_append, Moment.reaction, step_request, Reaction.entries_map,
    Reaction.contacts_map]
  exact balanced_request hc answers peer request

/-- A decision is accounted for before what it leads to. -/
theorem accounts_decision (g : Guard) (answers : Answers) (decision : ManagerDecision) :
    accounts (⟨g, answers, .decision decision⟩ : Moment).reaction.entries =
      (⟨g, answers, .decision decision⟩ : Moment).owed.map Account.record := by
  have hreaction : (⟨g, answers, .decision decision⟩ : Moment).reaction =
      (g.onDecision answers decision).map Return.ofDecision := rfl
  rw [Moment.owed, Moment.owedForParked, hreaction]
  have hexit := onDecision_exit g answers decision
  generalize g.onDecision answers decision = r at hexit
  cases hexit with
  | unexpected => rfl
  | replayed hn =>
    rw [hn]
    rfl
  | @unhandled d hn | @rejected d hn =>
    rw [hn]
    exact congrArg ((AuditEntry.decided decision d.request.uri).record :: ·)
      (balanced_transmit { g with context := g.context.cleared } d.peer _ (.rejected .unauthorized))

theorem accounts_shutdown (g : Guard) (answers : Answers) :
    accounts (⟨g, answers, .shutdown⟩ : Moment).reaction.entries =
      (⟨g, answers, .shutdown⟩ : Moment).owed.map Account.record := by
  obtain ⟨_, _, ⟨_, _, _, _, pending⟩, _, _, _⟩ := g
  cases pending <;> rfl

/-- The other calls leave nothing to account for. -/
theorem accounts_step {call : Call} (h : call.concernsRequests = false) :
    accounts (g.step answers call).entries = [] := by
  cases call with
  | request | decision | shutdown => cases h
  | response peer response =>
    rw [step, Reaction.entries_map, entries_onResponse]
    split
    · rfl
    · split <;> rfl
  | transportError | installMatcher => rfl
  | registerHandlers request response error =>
    cases request <;> cases response <;> cases error <;> rfl
  | unregisterHandlers =>
    rw [step, Reaction.entries_map, unregisterHandlers]
    split <;> rfl
  | registerStorage store => cases store <;> rfl

theorem accounts_moment {m : Moment} (hc : m.guard.Consistent) :
    accounts m.reaction.entries = m.owed.map Account.record := by
  obtain ⟨g, answers, call⟩ := m
  cases hcall : call.concernsRequests with
  | false =>
    have hcontacts : (g.step answers call).contacts.filterMap
        (Contact.owed? answers call.requester?) = [] :=
      List.filterMap_eq_nil_iff.mpr fun contact hmem =>
        owed?_eq_none (contacts_step (.inl hcall) contact hmem)
    have hparked : (⟨g, answers, call⟩ : Moment).owedForParked = [] := by
      cases call with
      | request | decision | shutdown => cases hcall
      | _ => rfl
    rw [Moment.owed, hparked, Moment.reaction, hcontacts]
    exact accounts_step hcall
  | true =>
    cases call with
    | request peer request => exact accounts_request hc answers peer request
    | decision decision => exact accounts_decision g answers decision
    | shutdown => exact accounts_shutdown g answers
    | _ => cases hcall

theorem faithful_moment {m : Moment} (hc : m.guard.Consistent) : m.Faithful where
  told := accounts_moment hc
  requested query h := by
    obtain ⟨peer, request, hcall, -⟩ := request_of_asked hc (.inr h)
    exact ⟨peer, request, hcall⟩
  accepted decision outcome hcall hresult := by
    obtain ⟨g, answers, call⟩ := m
    obtain rfl : call = .decision decision := hcall
    rw [← onDecision_ok_iff g answers decision]
    cases hdecision : (g.onDecision answers decision).result with
    | ok outcome => exact ⟨outcome, rfl⟩
    | error fault => simp [Moment.reaction, step_decision, hdecision, Return.ofDecision] at hresult
  ofMethod account h := by
    rcases List.mem_append.mp h with hparked | hcontact
    · exact ofMethod_of_parked hparked
    · obtain ⟨contact, hmem, howed⟩ := List.mem_filterMap.mp hcontact
      exact ofMethod_of_contact hc hmem howed

/-! ## Whole runs -/

/-- **The audit log is faithful.** At every call of every run the log gives account of the
lookups, delegations and responses, each in its turn, and of nothing that did not happen;
that is all there is of such entries in the log of the run; and an account says what
happened, as no other has the same words. -/
theorem log_is_faithful [Uuid.Library.Lawful] (config : Config) (hasManager : Bool)
    (turns : List Turn) :
    (∀ m ∈ (fresh config hasManager).moments turns, m.Faithful) ∧
      accounts ((start config hasManager).entries ++
          ((fresh config hasManager).run turns).flatMap Reaction.entries) =
        (((fresh config hasManager).moments turns).flatMap Moment.owed).map Account.record ∧
      ∀ a b : Account, a.OfMethod → b.OfMethod → a.record = b.record → a = b := by
  have hfaithful : ∀ m ∈ (fresh config hasManager).moments turns, m.Faithful := fun m hm =>
    faithful_moment (consistent_moment (consistent_fresh config hasManager) hm)
  refine ⟨hfaithful, ?_, fun a b => Account.record_injective⟩
  have hstart : accounts (start config hasManager).entries = [] := rfl
  rw [accounts_append, hstart, List.nil_append, accounts_flatMap, run_eq, List.flatMap_map,
    List.map_flatMap]
  exact List.flatMap_congr fun m hm => (hfaithful m hm).told

end Guard

end Told

/-- The phone's question is looked up, parked and acknowledged, and so the log says. -/
theorem Guard.log_is_faithful_lamp :
    @accounts Uuid.standard ((start {} true).entries ++
        ((fresh {} true).run Lamp.asking).flatMap Reaction.entries) =
      [.lookedUp Lamp.ask.query .requiresManager, .parked .anonymous "/light" ⟨1⟩,
        .sent .empty].map (@Account.record Uuid.standard) := by
  have howed : ((fresh {} true).moments Lamp.asking).flatMap Moment.owed =
      [.lookedUp Lamp.ask.query .requiresManager, .parked .anonymous "/light" ⟨1⟩,
        .sent .empty] := by
    decide +kernel
  rw [← howed]
  exact (@log_is_faithful Uuid.standard Uuid.lawful_standard {} true Lamp.asking).2.1

end ResourceGuard
