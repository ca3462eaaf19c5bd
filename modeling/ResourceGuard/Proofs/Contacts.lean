import ResourceGuard.Call

/-! # Views of what a reaction contacts

Four kinds of contact matter to whoever watches the guard at its gates: what it
asks the access control list, what it asks the access manager, what it sends,
and what it hands to an application. A reaction is looked at through these four
lists, each in order; and through two more, what it asks the directory and what it
offers to a matcher, where everything counts that anybody was asked. -/
namespace ResourceGuard

namespace Contact

/-- The question, when it is the list that was asked. -/
def resolved? : Contact → Option AccessQuery
  | .resolve query => some query
  | _ => none

/-- The question, when it is the access manager that was asked. -/
def delegated? : Contact → Option AccessQuery
  | .delegate query => some query
  | _ => none

/-- The response and its addressee, when one was given to the transport. -/
def sent? : Contact → Option (Endpoint × Response)
  | .send peer response => some (peer, response)
  | _ => none

/-- The request, its sender and the application, when one was handed over. -/
def handed? : Contact → Option (AppName × Endpoint × Request)
  | .handRequest app peer request => some (app, peer, request)
  | _ => none

/-- The path, when it is the directory that was asked. -/
def lookedUp? : Contact → Option String
  | .lookup path => some path
  | _ => none

/-- The response, its sender and the matcher, when one was offered. -/
def offered? : Contact → Option (MatcherName × Endpoint × Response)
  | .offer matcher peer response => some (matcher, peer, response)
  | _ => none

@[simp] theorem views_lookup (path : String) :
    (lookup path).resolved? = none ∧ (lookup path).delegated? = none ∧
      (lookup path).sent? = none ∧ (lookup path).handed? = none ∧
      (lookup path).lookedUp? = some path ∧ (lookup path).offered? = none :=
  ⟨rfl, rfl, rfl, rfl, rfl, rfl⟩

@[simp] theorem views_resolve (query : AccessQuery) :
    (resolve query).resolved? = some query ∧ (resolve query).delegated? = none ∧
      (resolve query).sent? = none ∧ (resolve query).handed? = none ∧
      (resolve query).lookedUp? = none ∧ (resolve query).offered? = none :=
  ⟨rfl, rfl, rfl, rfl, rfl, rfl⟩

@[simp] theorem views_delegate (query : AccessQuery) :
    (delegate query).resolved? = none ∧ (delegate query).delegated? = some query ∧
      (delegate query).sent? = none ∧ (delegate query).handed? = none ∧
      (delegate query).lookedUp? = none ∧ (delegate query).offered? = none :=
  ⟨rfl, rfl, rfl, rfl, rfl, rfl⟩

@[simp] theorem views_send (p : Endpoint) (r : Response) :
    (send p r).resolved? = none ∧ (send p r).delegated? = none ∧
      (send p r).sent? = some (p, r) ∧ (send p r).handed? = none ∧
      (send p r).lookedUp? = none ∧ (send p r).offered? = none :=
  ⟨rfl, rfl, rfl, rfl, rfl, rfl⟩

@[simp] theorem views_handRequest (a : AppName) (p : Endpoint) (r : Request) :
    (handRequest a p r).resolved? = none ∧ (handRequest a p r).delegated? = none ∧
      (handRequest a p r).sent? = none ∧ (handRequest a p r).handed? = some (a, p, r) ∧
      (handRequest a p r).lookedUp? = none ∧ (handRequest a p r).offered? = none :=
  ⟨rfl, rfl, rfl, rfl, rfl, rfl⟩

@[simp] theorem views_handResponse (a : AppName) (p : Endpoint) (r : Response) :
    (handResponse a p r).resolved? = none ∧ (handResponse a p r).delegated? = none ∧
      (handResponse a p r).sent? = none ∧ (handResponse a p r).handed? = none ∧
      (handResponse a p r).lookedUp? = none ∧ (handResponse a p r).offered? = none :=
  ⟨rfl, rfl, rfl, rfl, rfl, rfl⟩

@[simp] theorem views_handError (a : AppName) (p : Endpoint) (e : TransportError) :
    (handError a p e).resolved? = none ∧ (handError a p e).delegated? = none ∧
      (handError a p e).sent? = none ∧ (handError a p e).handed? = none ∧
      (handError a p e).lookedUp? = none ∧ (handError a p e).offered? = none :=
  ⟨rfl, rfl, rfl, rfl, rfl, rfl⟩

@[simp] theorem views_offer (m : MatcherName) (p : Endpoint) (r : Response) :
    (offer m p r).resolved? = none ∧ (offer m p r).delegated? = none ∧
      (offer m p r).sent? = none ∧ (offer m p r).handed? = none ∧
      (offer m p r).lookedUp? = none ∧ (offer m p r).offered? = some (m, p, r) :=
  ⟨rfl, rfl, rfl, rfl, rfl, rfl⟩

theorem resolved?_eq_some {c : Contact} {query : AccessQuery} :
    c.resolved? = some query ↔ c = .resolve query := by
  cases c <;> simp

theorem delegated?_eq_some {c : Contact} {query : AccessQuery} :
    c.delegated? = some query ↔ c = .delegate query := by
  cases c <;> simp

theorem sent?_eq_some {c : Contact} {peer : Endpoint} {response : Response} :
    c.sent? = some (peer, response) ↔ c = .send peer response := by
  cases c <;> simp

theorem handed?_eq_some {c : Contact} {app : AppName} {peer : Endpoint} {request : Request} :
    c.handed? = some (app, peer, request) ↔ c = .handRequest app peer request := by
  cases c <;> simp

end Contact

namespace Reaction

variable {σ τ α β γ : Type}

/-- What is seen of the contacts through `f`, in order. -/
def view (f : Contact → Option γ) (r : Reaction σ α) : List γ := r.contacts.filterMap f

/-- What the access control list was asked. -/
abbrev resolved (r : Reaction σ α) : List AccessQuery := r.view Contact.resolved?

/-- What the access manager was asked. -/
abbrev delegated (r : Reaction σ α) : List AccessQuery := r.view Contact.delegated?

/-- What was given to the transport. -/
abbrev sent (r : Reaction σ α) : List (Endpoint × Response) := r.view Contact.sent?

/-- What was handed to an application. -/
abbrev handed (r : Reaction σ α) : List (AppName × Endpoint × Request) := r.view Contact.handed?

/-- What the directory was asked. -/
abbrev lookedUp (r : Reaction σ α) : List String := r.view Contact.lookedUp?

/-- What the matchers were offered. -/
abbrev offered (r : Reaction σ α) : List (MatcherName × Endpoint × Response) :=
  r.view Contact.offered?

@[simp] theorem view_after (f : Contact → Option γ) (r : Reaction σ α) (cs es) :
    (r.after cs es).view f = cs.filterMap f ++ r.view f :=
  List.filterMap_append

@[simp] theorem view_map (f : Contact → Option γ) (g : α → β) (r : Reaction σ α) :
    (r.map g).view f = r.view f := rfl

theorem mem_resolved {r : Reaction σ α} {query : AccessQuery} :
    query ∈ r.resolved ↔ .resolve query ∈ r.contacts := by
  simp [view, Contact.resolved?_eq_some]

theorem mem_delegated {r : Reaction σ α} {query : AccessQuery} :
    query ∈ r.delegated ↔ .delegate query ∈ r.contacts := by
  simp [view, Contact.delegated?_eq_some]

theorem mem_sent {r : Reaction σ α} {peer : Endpoint} {response : Response} :
    (peer, response) ∈ r.sent ↔ .send peer response ∈ r.contacts := by
  simp [view, Contact.sent?_eq_some]

theorem mem_handed {r : Reaction σ α} {app : AppName} {peer : Endpoint} {request : Request} :
    (app, peer, request) ∈ r.handed ↔ .handRequest app peer request ∈ r.contacts := by
  simp [view, Contact.handed?_eq_some]

/-- Nobody is asked about a request, answered, or handed one. -/
structure Quiet (r : Reaction σ α) : Prop where
  resolved : r.resolved = []
  delegated : r.delegated = []
  sent : r.sent = []
  handed : r.handed = []

theorem quiet_of_contacts {r : Reaction σ α}
    (h : ∀ c ∈ r.contacts,
      c.resolved? = none ∧ c.delegated? = none ∧ c.sent? = none ∧ c.handed? = none) : r.Quiet where
  resolved := List.filterMap_eq_nil_iff.mpr fun c hc => (h c hc).1
  delegated := List.filterMap_eq_nil_iff.mpr fun c hc => (h c hc).2.1
  sent := List.filterMap_eq_nil_iff.mpr fun c hc => (h c hc).2.2.1
  handed := List.filterMap_eq_nil_iff.mpr fun c hc => (h c hc).2.2.2

end Reaction

namespace Guard

variable {σ γ : Type} (f : Contact → Option γ) (state : σ) (answers : Answers) (peer : Endpoint)
  (request : Request)

@[simp] theorem result_refuse (code : ResponseCode) (delivery : Delivery) :
    (refuse state answers peer request code delivery).result = .rejected code := rfl

@[simp] theorem next_refuse (code : ResponseCode) (delivery : Delivery) :
    (refuse state answers peer request code delivery).next = state := rfl

@[simp] theorem contacts_refuse (code : ResponseCode) (delivery : Delivery) :
    (refuse state answers peer request code delivery).contacts =
      [.send peer (request.reply code delivery)] := rfl

@[simp] theorem view_refuse (code : ResponseCode) (delivery : Delivery) :
    (refuse state answers peer request code delivery).view f =
      [Contact.send peer (request.reply code delivery)].filterMap f := rfl

@[simp] theorem result_acknowledge :
    (acknowledge state answers peer request).result = .acknowledged := rfl

@[simp] theorem next_acknowledge : (acknowledge state answers peer request).next = state := rfl

@[simp] theorem contacts_acknowledge :
    (acknowledge state answers peer request).contacts = [.send peer request.slowReply] := rfl

@[simp] theorem view_acknowledge :
    (acknowledge state answers peer request).view f =
      [Contact.send peer request.slowReply].filterMap f := rfl

@[simp] theorem result_deliver (app : AppName) :
    (deliver state app peer request).result = .passedThrough := rfl

@[simp] theorem next_deliver (app : AppName) :
    (deliver state app peer request).next = state := rfl

@[simp] theorem contacts_deliver (app : AppName) :
    (deliver state app peer request).contacts = [.handRequest app peer request] := rfl

@[simp] theorem view_deliver (app : AppName) :
    (deliver state app peer request).view f =
      [Contact.handRequest app peer request].filterMap f := rfl

/-- The checks before the engine ask the directory and nobody else. -/
@[simp] theorem views_screeningContacts (g : Guard) (request : Request) :
    (g.screeningContacts request).filterMap Contact.resolved? = [] ∧
      (g.screeningContacts request).filterMap Contact.delegated? = [] ∧
      (g.screeningContacts request).filterMap Contact.sent? = [] ∧
      (g.screeningContacts request).filterMap Contact.handed? = [] ∧
      (g.screeningContacts request).filterMap Contact.offered? = [] := by
  unfold screeningContacts
  split <;> simp

theorem lookedUp_screeningContacts (g : Guard) (request : Request) :
    (g.screeningContacts request).filterMap Contact.lookedUp? =
      if !Config.exceeds g.config.maxUriLength request.path && asksDirectory request then
        [request.path]
      else [] := by
  unfold screeningContacts
  split <;> simp

end Guard

end ResourceGuard
