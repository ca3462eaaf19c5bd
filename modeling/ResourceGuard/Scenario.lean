import ResourceGuard.Call
import ResourceGuard.Collaborator.BlobStore
import ResourceGuard.Collaborator.Record
import ResourceGuard.Collaborator.Script
import ResourceGuard.Collaborator.TokenMatcher

/-! # Scenarios

A scenario is a guard among scripted collaborators, token matchers and stores,
driven by one action after another. Matchers and stores are known by their names,
and one that was never used is a new one. Each action shows what it returned and
what was observed while it ran. -/
namespace ResourceGuard

/-- A guard and everything around it. -/
structure Scenario where
  guard : Guard
  script : Script := {}
  /-- every matcher, kept whether it is installed or not -/
  matchers : Std.HashMap MatcherName TokenMatcher := {}
  /-- every store, kept whether it is registered or not -/
  stores : Std.HashMap StoreName BlobStore := {}
  record : Record := {}
  log : List AuditEntry := []

namespace Scenario

/-- What can be observed of an action. An offer to a matcher shows the matcher's
answer and how many responses it has claimed by then. -/
inductive Observation where
  | contact (contact : Contact)
  | offer (matcher : MatcherName) (peer : Endpoint) (response : Response) (claimed : Bool)
    (total : Nat)

/-- One thing to do in a scenario. -/
inductive Action where
  | call (call : Call)
  /-- let a matcher wait for one more response, whether it is installed or not -/
  | expect (name : MatcherName) (token : Token)
  /-- register the store of a name, a new one if there is none yet -/
  | useStore (name : StoreName)
  | read (key : String)
  | write (key : String) (data : List UInt8)
  | unlink (key : String)
  | describe
  | set (setting : Setting)

/-- What an action returns. -/
inductive Result where
  | done
  | returned (value : Return)
  | noStorage
  | data (bytes : List UInt8)
  | stored
  | fault (fault : Fault)
  | text (text : String)

/-- A scenario with a new guard, nobody registered. -/
def start (config : Config) (hasManager : Bool) (script : Script) : Scenario :=
  let started := Guard.start config hasManager
  { guard := started.next, script, log := started.entries }

def matcher (s : Scenario) (name : MatcherName) : TokenMatcher := s.matchers.getD name {}

/-- What everybody in the scenario says. -/
def answers (s : Scenario) : Answers :=
  s.script.answers fun name _ response => (s.matcher name).awaits response

/-- Take note of a contact, and let a matcher act on what it was offered. -/
def note (answers : Answers) (s : Scenario) (contact : Contact) : Observation × Scenario :=
  let s := { s with record := s.record.add answers contact }
  match contact with
  | .offer name peer response =>
    let (claimed, next) := (s.matcher name).claim response
    (.offer name peer response claimed next.claimed.length,
      { s with matchers := s.matchers.insert name next })
  | contact => (.contact contact, s)

def noteAll (answers : Answers) : Scenario → List Contact → List Observation × Scenario
  | s, [] => ([], s)
  | s, contact :: contacts =>
    let (observation, s) := s.note answers contact
    let (observations, s) := s.noteAll answers contacts
    (observation :: observations, s)

def call (s : Scenario) (call : Call) : Return × List Observation × Scenario :=
  let answers := s.answers
  let reaction := s.guard.step answers call
  let (observations, s) :=
    noteAll answers { s with guard := reaction.next, log := s.log ++ reaction.entries }
      reaction.contacts
  (reaction.result, observations, s)

/-- The registered store and its name. -/
def store? (s : Scenario) : Option (StoreName × BlobStore) :=
  s.guard.storage.map fun name => (name, s.stores.getD name {})

def perform [Uuid.Library] (s : Scenario) : Action → Result × List Observation × Scenario
  | .call call =>
    let (value, observations, s) := s.call call
    (.returned value, observations, s)
  | .expect name token =>
    (.done, [], { s with matchers := s.matchers.insert name ((s.matcher name).expect token) })
  | .useStore name =>
    let (value, observations, s) :=
      { s with stores := s.stores.insertIfNew name {} }.call (.registerStorage (some name))
    (.returned value, observations, s)
  | .read key =>
    match s.store? with
    | none => (.noStorage, [], s)
    | some (_, store) =>
      match store.read key with
      | .ok data => (.data data, [], s)
      | .error fault => (.fault fault, [], s)
  | .write key data =>
    match s.store? with
    | none => (.noStorage, [], s)
    | some (name, store) =>
      (.stored, [], { s with stores := s.stores.insert name (store.write key data) })
  | .unlink key =>
    match s.store? with
    | none => (.noStorage, [], s)
    | some (name, store) =>
      match store.unlink key with
      | .ok store => (.stored, [], { s with stores := s.stores.insert name store })
      | .error fault => (.fault fault, [], s)
  | .describe => (.text s.guard.shown, [], s)
  | .set setting => (.done, [], { s with script := s.script.set setting })

end Scenario

end ResourceGuard
