import LexBridge.Config.Basic

/-!
# The active configuration

Every thread has an active configuration. It can be set and reset, and a block makes another one
active for its duration: entering a block keeps what was active, leaving it brings that back.

## Main definitions

* `Context`: the active configuration and what the open blocks keep, innermost first.
* `Context.set`, `Context.reset`, `Context.enter`, `Context.leave?`: the operations.
* `Program`, `Program.run`: programs of such operations with errors and nested blocks.
-/

namespace LexBridge

/-- What a thread knows of configurations: the active one, and for each open block the one that
was active when it was entered, innermost block first. -/
structure Context where
  active : Config
  kept : List Config

namespace Context

/-- What a new thread begins with. -/
def initial : Context := ⟨.default, []⟩

/-- A context with a given active configuration and no open blocks. -/
def ofConfig (config : Config) : Context := ⟨config, []⟩

/-- Makes a configuration active. Open blocks still bring back what they keep. -/
def set (context : Context) (config : Config) : Context := { context with active := config }

/-- Makes the default configuration active. -/
def reset (context : Context) : Context := context.set .default

/-- Enters a block with a configuration. -/
def enter (context : Context) (config : Config) : Context :=
  ⟨config, context.active :: context.kept⟩

/-- Leaves the innermost block, if there is one, and brings back what it keeps. -/
def leave? (context : Context) : Option Context :=
  match context.kept with
  | [] => none
  | config :: kept => some ⟨config, kept⟩

/-- Leaves the innermost block; without one nothing changes. -/
def leave (context : Context) : Context := context.leave?.getD context

end Context

/-- A program on the active configuration. -/
inductive Program
  | skip
  | set (config : Config)
  | reset
  | raise
  /-- One program after the other; an error in the first one ends both. -/
  | andThen (first second : Program)
  /-- A program whose error, if it ends in one, is caught. -/
  | guarded (body : Program)
  /-- A block with a configuration around a program. -/
  | block (config : Config) (body : Program)

/-- Runs a program: the context afterwards, and whether it ended in an error. A block is left
whether or not its body ended in an error, and passes the error on. -/
def Program.run : Program → Context → Context × Bool
  | skip, context => (context, false)
  | set config, context => (context.set config, false)
  | reset, context => (context.reset, false)
  | raise, context => (context, true)
  | andThen first second, context =>
    match first.run context with
    | (next, false) => second.run next
    | (next, true) => (next, true)
  | guarded body, context => ((body.run context).1, false)
  | block config body, context =>
    let (next, raised) := body.run (context.enter config)
    (next.leave, raised)

end LexBridge
