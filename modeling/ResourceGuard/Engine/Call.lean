import ResourceGuard.Engine

/-! # Operations of the engine

Whatever is done to an engine is one of four operations, in any order, sensible
or not. `Engine.step` carries out one of them; `Engine.run` one after another. -/
namespace ResourceGuard

/-- An operation of the engine. -/
inductive EngineCall where
  | check (subject : SubjectId) (path : String) (permission : Permission)
  | delegate (peer : Endpoint) (request : Request)
  | resume (decision : ManagerDecision)
  | reset
  deriving DecidableEq

/-- What an operation of the engine returns. -/
inductive EngineReturn where
  | decision (decision : Decision)
  | delegated
  | resumed (resumption : Resumption)
  | done
  | error (error : AccessError)
  deriving DecidableEq

namespace Engine

/-- Carry out one operation. -/
def step (e : Engine) (answers : Answers) : EngineCall → Reaction Engine EngineReturn
  | .check subject path permission =>
    (e.check answers subject path permission).map .decision
  | .delegate peer request =>
    (e.delegate answers peer request).map fun
      | .ok () => .delegated
      | .error error => .error error
  | .resume decision =>
    (e.resume decision).map fun
      | .ok resumption => .resumed resumption
      | .error error => .error error
  | .reset => e.reset.map fun _ => .done

/-- An operation and what the collaborators say while it is carried out. -/
structure Turn where
  answers : Answers
  call : EngineCall

/-- The reactions to a sequence of operations, in order. -/
def run (e : Engine) : List Turn → List (Reaction Engine EngineReturn)
  | [] => []
  | turn :: turns =>
    let reaction := e.step turn.answers turn.call
    reaction :: reaction.next.run turns

/-- The engine after a sequence of operations. -/
def afterTurns (e : Engine) (turns : List Turn) : Engine :=
  turns.foldl (fun e turn => (e.step turn.answers turn.call).next) e

end Engine

end ResourceGuard
