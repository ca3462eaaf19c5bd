import ResourceGuard.Engine
import ResourceGuard.Message.Reply

/-! # The guard

The guard stands between the transport and the application. A request passes the
length check, the channel check, the handler check and the busy check, and only
then the engine decides on it; it is handed to the application, turned away, or
parked and acknowledged. Responses and transport errors pass the other way.
Every request gets exactly one of a response and a delivery. -/
namespace ResourceGuard

structure Handlers where
  request : AppName
  response : AppName
  error : AppName
  deriving DecidableEq

/-- How a request, or a decision on a parked one, ends. -/
inductive Outcome where
  /-- it was handed to the application -/
  | passedThrough
  | rejected (code : ResponseCode)
  /-- it was parked, and the peer told that the answer comes later -/
  | acknowledged
  /-- there was no room for a reply -/
  | failed (error : AccessError)
  deriving DecidableEq

/-- Where a response went. -/
inductive Route where
  /-- a matcher had waited for it -/
  | provisioning
  | application
  | dropped
  deriving DecidableEq

instance : Vocabulary Route where
  all := [.provisioning, .application, .dropped]
  name
    | .provisioning => "Provisioning"
    | .application => "Application"
    | .dropped => "Dropped"
  mem_all a := by cases a <;> decide
  name_injective a b := by cases a <;> cases b <;> decide

/-- A guard: its settings, the open decision, and who is registered with it. -/
structure Guard where
  config : Config
  hasManager : Bool
  context : Context := {}
  handlers : Option Handlers := none
  matcher : Option MatcherName := none
  storage : Option StoreName := none
  deriving DecidableEq

namespace Guard

/-- A new guard: idle, with nobody registered. -/
def start (config : Config) (hasManager : Bool) : Reaction Guard Unit :=
  { result := (), next := { config, hasManager }, entries := [.started config] }

def engine (g : Guard) : Engine where
  maxUriLength := g.config.maxUriLength
  hasManager := g.hasManager
  context := g.context

def withEngine (g : Guard) (e : Engine) : Guard := { g with context := e.context }

/-! ## Replies -/

/-- Give a response to the transport. Whether the transport takes it shows in the
log and nowhere else. -/
def transmit {σ : Type} (state : σ) (answers : Answers) (peer : Endpoint) (response : Response)
    (outcome : Outcome) : Reaction σ Outcome where
  result := outcome
  next := state
  contacts := [.send peer response]
  entries := match answers.transport peer response with
    | .ok () => [.sent response.code]
    | .error fault => [.sendFailed fault response.code]

def refuse {σ : Type} (state : σ) (answers : Answers) (peer : Endpoint) (request : Request)
    (code : ResponseCode) (delivery : Delivery) : Reaction σ Outcome :=
  transmit state answers peer (request.reply code delivery) (.rejected code)

def acknowledge {σ : Type} (state : σ) (answers : Answers) (peer : Endpoint)
    (request : Request) : Reaction σ Outcome :=
  transmit state answers peer request.slowReply .acknowledged

def deliver {σ : Type} (state : σ) (app : AppName) (peer : Endpoint) (request : Request) :
    Reaction σ Outcome :=
  { result := .passedThrough, next := state, contacts := [.handRequest app peer request] }

/-! ## Requests -/

/-- What is found about a request before the engine is asked. -/
inductive Screening where
  | overlong
  /-- a secure resource is asked for over a plain channel -/
  | exposed
  | unhandled
  | busy
  | clear (handlers : Handlers)
  deriving DecidableEq

/-- The directory is asked only about an ordinary resource, and only when nobody
has proved who is asking. -/
def asksDirectory (request : Request) : Bool :=
  !request.identity.onSecureChannel && (VirtualResource.classify request.path).isNone

/-- An ordinary resource that is registered as secure is asked for over a plain
channel. Virtual resources are left to the access control list. -/
def isExposed (answers : Answers) (request : Request) : Bool :=
  asksDirectory request &&
    ((answers.properties request.path).map ResourceProperties.isSecure).getD false

/-- The checks before the engine, in their order. -/
def screen (g : Guard) (answers : Answers) (request : Request) : Screening :=
  if Config.exceeds g.config.maxUriLength request.path then .overlong
  else if isExposed answers request then .exposed
  else match g.handlers with
    | none => .unhandled
    | some handlers =>
      if g.context.phase ≠ .awaitingRequest then .busy else .clear handlers

/-- The question to the directory that the checks need. -/
def screeningContacts (g : Guard) (request : Request) : List Contact :=
  if !Config.exceeds g.config.maxUriLength request.path && asksDirectory request then
    [.lookup request.path]
  else []

def screeningEntries (g : Guard) (request : Request) (screening : Screening) :
    List AuditEntry :=
  let arrival : List AuditEntry :=
    if request.identity.onSecureChannel then [.requestReceived, .channelSecure]
    else [.requestReceived]
  match screening with
  | .overlong =>
    [.requestReceived, .overlongPath request.path.utf8ByteSize g.config.maxUriLength]
  | .exposed => arrival ++ [.channelRefused]
  | .unhandled => arrival ++ [.noRequestHandler]
  | .busy => arrival ++ [.busy g.context.phase]
  | .clear _ => arrival

def actOn (answers : Answers) (handlers : Handlers) (peer : Endpoint) (request : Request)
    (e : Engine) : Decision → Reaction Engine Outcome
  | .granted => (deliver e handlers.request peer request).after [] [.granted]
  | .denied reason =>
    (refuse e answers peer request .unauthorized .piggybacked).after [] [.denied reason]
  | .error => refuse e answers peer request .internalServerError .piggybacked
  | .waiting =>
    (e.delegate answers peer request).andThen fun e started =>
      match started with
      | .ok () => (acknowledge e answers peer request).after [] [.slowReply]
      | .error error =>
        (refuse e answers peer request error.code .piggybacked).after []
          [.delegationFailed error]

/-- Only a parked request keeps the engine from being free again. -/
def settle (e : Engine) (outcome : Outcome) : Reaction Engine Outcome :=
  if outcome = .acknowledged then { result := outcome, next := e }
  else e.reset.map fun _ => outcome

def evaluate (e : Engine) (answers : Answers) (handlers : Handlers) (peer : Endpoint)
    (request : Request) : Reaction Engine Outcome :=
  ((e.check answers request.identity request.path request.method.requiredPermission).andThen
    (actOn answers handlers peer request)).andThen settle

def onRequest (g : Guard) (answers : Answers) (peer : Endpoint) (request : Request) :
    Reaction Guard Outcome :=
  let screening := g.screen answers request
  let reaction := match screening with
    | .overlong => refuse g answers peer request .internalServerError .piggybacked
    | .exposed => refuse g answers peer request .forbidden .piggybacked
    | .unhandled => refuse g answers peer request .internalServerError .piggybacked
    | .busy => refuse g answers peer request g.config.busyPolicy.code .piggybacked
    | .clear handlers => (evaluate g.engine answers handlers peer request).within g.withEngine
  reaction.after (g.screeningContacts request) (g.screeningEntries request screening)

/-! ## Decisions of the access manager -/

/-- Carry out a decision on the request that was parked. The application is the
one registered now, not the one registered when the request came. -/
def carryOut (handlers : Option Handlers) (answers : Answers) (e : Engine) :
    Resumption → Reaction Engine Outcome
  | .replay ⟨peer, request⟩ =>
    match handlers with
    | some handlers => (deliver e handlers.request peer request).after [] [.replayed request.uri]
    | none => (refuse e answers peer request .unauthorized .separate).after [] [.noReplayHandler]
  | .reject ⟨peer, request⟩ =>
    (refuse e answers peer request .unauthorized .separate).after []
      [.deniedByManager request.uri]

def onDecision (g : Guard) (answers : Answers) (decision : ManagerDecision) :
    Reaction Guard (Except AccessError Outcome) :=
  let reaction := (g.engine.resume decision).andThen fun e resumed =>
    match resumed with
    | .error error =>
      { result := .error error, next := e, entries := [.unexpectedDecision error decision] }
    | .ok resumption =>
      (carryOut g.handlers answers e resumption).andThen fun e outcome =>
        e.reset.map fun _ => .ok outcome
  reaction.within g.withEngine

/-! ## Responses and transport errors -/

/-- Pass a response that no matcher took on to the application. -/
def passResponse (g : Guard) (peer : Endpoint) (response : Response) : Reaction Guard Route :=
  match g.handlers with
  | some handlers =>
    { result := .application, next := g,
      contacts := [.handResponse handlers.response peer response] }
  | none => { result := .dropped, next := g, entries := [.responseDropped] }

def onResponse (g : Guard) (answers : Answers) (peer : Endpoint) (response : Response) :
    Reaction Guard Route :=
  let reaction := match g.matcher with
    | none => g.passResponse peer response
    | some matcher =>
      let rest : Reaction Guard Route :=
        if answers.claims matcher peer response then
          { result := .provisioning, next := g, entries := [.responseClaimed] }
        else g.passResponse peer response
      rest.after [.offer matcher peer response] []
  reaction.after [] [.responseReceived peer.id response.code]

def onError (g : Guard) (peer : Endpoint) (error : TransportError) : Reaction Guard Unit where
  result := ()
  next := g
  contacts := match g.handlers with
    | some handlers => [.handError handlers.error peer error]
    | none => []
  entries := [.errorReceived peer.id error.reason error.uri]

/-! ## Registration -/

/-- Register the handlers of an application; all three or none. -/
def registerHandlers (g : Guard) (request response error : Option AppName) :
    Reaction Guard (Except AccessError Unit) :=
  match request, response, error with
  | some request, some response, some error =>
    { result := .ok (), next := { g with handlers := some ⟨request, response, error⟩ },
      entries := [.handlersRegistered] }
  | _, _, _ =>
    { result := .error (.invalidParameter .incompleteHandlers), next := g,
      entries := [.handlersIncomplete] }

def unregisterHandlers (g : Guard) : Reaction Guard Unit where
  result := ()
  next := { g with handlers := none }
  entries := if g.handlers.isSome then [.handlersUnregistered] else []

def installMatcher (g : Guard) (matcher : Option MatcherName) : Reaction Guard Unit :=
  { result := (), next := { g with matcher } }

/-- Register a store; there is no way to go back to none. -/
def registerStorage (g : Guard) (store : Option StoreName) :
    Reaction Guard (Except AccessError Unit) :=
  match store with
  | some store => { result := .ok (), next := { g with storage := some store } }
  | none =>
    { result := .error (.invalidParameter .missingStorage), next := g,
      entries := [.storageMissing] }

/-- Drop what is parked and be idle. -/
def shutdown (g : Guard) : Reaction Guard Unit :=
  (g.engine.reset.within g.withEngine).andThen fun g _ =>
    { result := (), next := g, entries := [.stopped] }

def shown [Uuid.Library] (g : Guard) : String :=
  Inspect.openRecord "SecureResourceManager"
    [("config", g.config.shown), ("engine", g.engine.shown)]

end Guard

end ResourceGuard
