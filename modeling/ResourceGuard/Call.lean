import ResourceGuard.Guard

/-! # Calls

Whatever is done to a guard is one of nine calls. `Guard.step` makes one of them
under the answers that the collaborators give in the meantime; `Guard.run` makes
one after another and keeps every reaction. -/
namespace ResourceGuard

/-- A call to a guard. -/
inductive Call where
  | request (peer : Endpoint) (request : Request)
  | decision (decision : ManagerDecision)
  | response (peer : Endpoint) (response : Response)
  | transportError (peer : Endpoint) (error : TransportError)
  | registerHandlers (request response error : Option AppName)
  | unregisterHandlers
  | installMatcher (matcher : Option MatcherName)
  | registerStorage (store : Option StoreName)
  | shutdown
  deriving DecidableEq

/-- What a call returns. -/
inductive Return where
  /-- nothing to tell -/
  | done
  | outcome (outcome : Outcome)
  | route (route : Route)
  /-- a registration was accepted -/
  | accepted
  | error (error : AccessError)
  deriving DecidableEq

namespace Guard

/-- Make one call. -/
def step (g : Guard) (answers : Answers) : Call → Reaction Guard Return
  | .request peer request => (g.onRequest answers peer request).map .outcome
  | .decision decision =>
    (g.onDecision answers decision).map fun
      | .ok outcome => .outcome outcome
      | .error error => .error error
  | .response peer response => (g.onResponse answers peer response).map .route
  | .transportError peer error => (g.onError peer error).map fun _ => .done
  | .registerHandlers request response error =>
    (g.registerHandlers request response error).map fun
      | .ok () => .accepted
      | .error error => .error error
  | .unregisterHandlers => g.unregisterHandlers.map fun _ => .done
  | .installMatcher matcher => (g.installMatcher matcher).map fun _ => .done
  | .registerStorage store =>
    (g.registerStorage store).map fun
      | .ok () => .accepted
      | .error error => .error error
  | .shutdown => g.shutdown.map fun _ => .done

/-- A call and what the collaborators say while it is made. -/
structure Turn where
  answers : Answers
  call : Call

/-- The reactions to a sequence of calls, in order. -/
def run (g : Guard) : List Turn → List (Reaction Guard Return)
  | [] => []
  | turn :: turns =>
    let reaction := g.step turn.answers turn.call
    reaction :: reaction.next.run turns

/-- The guard after a sequence of calls. -/
def afterTurns (g : Guard) (turns : List Turn) : Guard :=
  turns.foldl (fun g turn => (g.step turn.answers turn.call).next) g

end Guard

end ResourceGuard
