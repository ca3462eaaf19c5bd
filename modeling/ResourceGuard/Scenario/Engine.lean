import ResourceGuard.Collaborator.Script
import ResourceGuard.Engine.Call

/-! # Scenarios of the engine alone

The engine without a guard around it, among scripted collaborators. Its
operations may come in any order, sensible or not. -/
namespace ResourceGuard

/-- An engine and what it asks. -/
structure EngineScenario where
  engine : Engine
  script : Script := {}
  log : List AuditEntry := []

namespace EngineScenario

/-- One thing to do in a scenario. -/
inductive Action where
  | call (call : EngineCall)
  /-- show the engine in words -/
  | describe
  | set (setting : Setting)

/-- What an action returns. -/
inductive Result where
  /-- nothing to tell -/
  | done
  | returned (value : EngineReturn)
  | text (text : String)

/-- Carry out one action. The engine has no matchers to ask. -/
def perform [Uuid.Library] (s : EngineScenario) : Action → Result × List Contact × EngineScenario
  | .call call =>
    let reaction := s.engine.step (s.script.answers fun _ _ _ => false) call
    (.returned reaction.result, reaction.contacts,
      { s with engine := reaction.next, log := s.log ++ reaction.entries })
  | .describe => (.text s.engine.shown, [], s)
  | .set setting => (.done, [], { s with script := s.script.set setting })

end EngineScenario

end ResourceGuard
