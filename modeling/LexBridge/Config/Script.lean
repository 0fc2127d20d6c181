import LexBridge.Config.Context
import LexBridge.Range.Untyped

/-!
# Scripts of configuration steps

A thread works through steps that set, reset and nest configurations, and sees after each step
which configuration is active. A step with bad settings changes nothing. Other threads begin with
the default configuration, copies of a context with what is active in it, and neither changes
anything outside.

## Main definitions

* `Config.Step`: the steps.
* `Config.Report`: what is seen after a step.
* `Config.runSteps`: what is seen after each of some steps.
-/

namespace LexBridge.Config

/-- What a thread does with configurations. -/
inductive Step
  | look
  | set (settings : Value)
  | reset
  /-- Enters a block. -/
  | enter (settings : Value)
  /-- Leaves the innermost block, if there is one. -/
  | leave
  /-- Has other steps done by a new thread. -/
  | thread (steps : List Step)
  /-- Does other steps in a copy of the context, with blocks of its own. -/
  | copy (steps : List Step)
  /-- Locates tokens in the units of the active configuration. -/
  | locate (source : Value) (tokens : List UntypedToken)
  deriving Inhabited

/-- What is seen after a step: the active configuration, and what else the step comes to. -/
inductive Report
  | plain (active : Config)
  | invalid (active : Config) (error : ConfigError)
  | inner (active : Config) (reports : List Report)
  | located (active : Config) (delivery : Delivery Located Value.Fault)

/-- A step that takes a configuration, which is made from settings. -/
def withSettings (context : Context) (settings : Value) (change : Config → Context) :
    Context × Report :=
  match ofValue settings with
  | .error error => (context, .invalid context.active error)
  | .ok config => (change config, .plain (change config).active)

mutual

/-- The context after a step, and what is seen then. -/
def runStep (context : Context) : Step → Context × Report
  | .look => (context, .plain context.active)
  | .set settings => withSettings context settings context.set
  | .reset => (context.reset, .plain context.reset.active)
  | .enter settings => withSettings context settings context.enter
  | .leave => (context.leave, .plain context.leave.active)
  | .thread steps => (context, .inner context.active (runSteps .initial steps))
  | .copy steps => (context, .inner context.active (runSteps (.ofConfig context.active) steps))
  | .locate source tokens =>
    (context, .located context.active
      (mapRangesUntyped context.active.offsetUnits .always id () source tokens))

/-- What is seen after each of some steps. -/
def runSteps (context : Context) : List Step → List Report
  | [] => []
  | step :: steps =>
    let (next, report) := runStep context step
    report :: runSteps next steps

end

end LexBridge.Config
