import LexBridge.Config.Context

/-!
# Blocks bring back what they found

A run of a program does four things to a context: it sets the active configuration, resets it,
enters blocks and leaves them. What it does, and in which order, does not depend on the context. So
a run is told by the list of its actions, and what is active at some moment of the run is what the
actions up to that moment come to.

An error ends a program, but not the blocks around it: each of them is left all the same, the
innermost one first. So every block that a run enters it also leaves, and between the two there is
nothing but whole blocks, sets and resets. Such actions may change what is active, but not what the
open blocks keep: whatever a block inside keeps, it takes away again. This is the invariant
(`Context.kept_follow`), and by it a block finds, when it is left, what it kept itself.

A block is whole when it is left, so its own body begins with whole blocks as long as the body has
not set or reset anything itself. All that these blocks do is undone, so until then the
configuration of the block is active between them, no matter what they set inside.

## Main definitions

* `Context.Action`, `Context.follow`: what may be done to a context, and what it comes to.
* `Context.Whole`, `Context.Blocks`: actions that leave the blocks that they enter, and actions that
  are nothing but such blocks.
* `Program.actions`, `Program.raises`: what a run does, and whether it ends in an error.

## Main results

* `Program.run_eq`: a run does its actions.
* `Context.Whole.exists_leave`: every block that is entered is left.
* `Context.follow_block`: a block brings back the context in which it was entered.
* `Program.blocks_restore`: both, for every block of a run.
-/

namespace LexBridge

/-! ### Actions -/

namespace Context

/-- What may be done to a context. -/
inductive Action
  | set (config : Config)
  | reset
  | enter (config : Config)
  | leave

/-- The context after an action. -/
def act (context : Context) : Action → Context
  | .set config => context.set config
  | .reset => context.reset
  | .enter config => context.enter config
  | .leave => context.leave

/-- The context after some actions. -/
def follow (context : Context) (actions : List Action) : Context := actions.foldl act context

variable {context : Context} {config : Config} {actions before inside rest : List Action}

@[simp] theorem follow_nil (context : Context) : context.follow [] = context := rfl

@[simp] theorem follow_cons (context : Context) (action : Action) (rest : List Action) :
    context.follow (action :: rest) = (context.act action).follow rest := rfl

@[simp] theorem follow_append (context : Context) (actions rest : List Action) :
    context.follow (actions ++ rest) = (context.follow actions).follow rest :=
  List.foldl_append

/-- If nothing else is kept when a block is left than when it was entered, the context is that in
which it was entered. -/
theorem follow_block_of_kept (config : Config)
    (h : ((context.enter config).follow inside).kept = context.active :: context.kept)
    (rest : List Action) :
    context.follow (.enter config :: (inside ++ .leave :: rest)) = context.follow rest := by
  have hleave : ((context.enter config).follow inside).leave = context := by
    rw [leave, leave?, h, Option.getD_some]
  rw [follow_cons, follow_append, follow_cons, act, act, hleave]

/-! ### Whole blocks -/

/-- Actions that leave all the blocks that they enter, and no others. -/
inductive Whole : List Action → Prop
  | nil : Whole []
  | set {config : Config} {rest : List Action} (hrest : Whole rest) : Whole (.set config :: rest)
  | reset {rest : List Action} (hrest : Whole rest) : Whole (.reset :: rest)
  | block {config : Config} {inside rest : List Action} (hinside : Whole inside)
      (hrest : Whole rest) : Whole (.enter config :: (inside ++ .leave :: rest))

/-- Actions that are nothing but blocks: what is set and reset is so inside of them. -/
inductive Blocks : List Action → Prop
  | nil : Blocks []
  | block {config : Config} {inside rest : List Action} (hinside : Whole inside)
      (hrest : Blocks rest) : Blocks (.enter config :: (inside ++ .leave :: rest))

theorem Whole.append (h : Whole actions) (hrest : Whole rest) : Whole (actions ++ rest) := by
  induction h with
  | nil => exact hrest
  | set _ ih => exact .set ih
  | reset _ ih => exact .reset ih
  | block hinside _ _ ih =>
    rw [List.cons_append, List.append_assoc, List.cons_append]
    exact .block hinside ih

/-- **What the open blocks keep is not changed** by actions that leave the blocks that they
enter. -/
theorem kept_follow (h : Whole actions) (context : Context) :
    (context.follow actions).kept = context.kept := by
  induction h generalizing context with
  | nil => rfl
  | set _ ih | reset _ ih => exact ih _
  | @block config inside rest _ _ ihInside ihRest =>
    have hkept : ((context.enter config).follow inside).kept = context.active :: context.kept :=
      ihInside _
    rw [follow_block_of_kept config hkept, ihRest]

/-- **A block brings back the context** in which it was entered. -/
theorem follow_block (hinside : Whole inside) (context : Context) (config : Config)
    (rest : List Action) :
    context.follow (.enter config :: (inside ++ .leave :: rest)) = context.follow rest :=
  follow_block_of_kept config (kept_follow hinside _) rest

/-- Nothing but blocks leaves the context as it is. -/
theorem follow_blocks (h : Blocks actions) (context : Context) :
    context.follow actions = context := by
  induction h with
  | nil => rfl
  | block hinside _ ih => rw [follow_block hinside, ih]

/-- **Every block that is entered is left**, and what is done until then leaves the blocks that it
enters. -/
theorem Whole.exists_leave (h : Whole actions)
    (hactions : actions = before ++ .enter config :: rest) :
    ∃ inside later, Whole inside ∧ rest = inside ++ .leave :: later := by
  induction h generalizing before rest with
  | nil => cases before <;> cases hactions
  | set _ ih | reset _ ih =>
    cases before with
    | nil => cases hactions
    | cons first before => exact ih (List.cons.inj hactions).2
  | @block outer inner after hinner _ ihInner ihAfter =>
    cases before with
    | nil =>
      obtain ⟨-, rfl⟩ := List.cons.inj hactions
      exact ⟨inner, after, hinner, rfl⟩
    | cons first before =>
      -- the block is entered inside of this one or behind it, but not where this one is left
      rcases List.append_eq_append_iff.mp (List.cons.inj hactions).2 with
        ⟨front, hbefore, hafter⟩ | ⟨back, hinside, hrest⟩
      · cases front with
        | nil => cases hafter
        | cons left front => exact ihAfter (List.cons.inj hafter).2
      · cases back with
        | nil => cases hrest
        | cons entered back =>
          obtain ⟨rfl, hrest⟩ := List.cons.inj hrest
          obtain ⟨inside, later, hwhole, rfl⟩ := ihInner hinside
          exact ⟨inside, later ++ .leave :: after, hwhole, by simpa using hrest⟩

end Context

/-! ### Programs -/

namespace Program

/-- Whether a run ends in an error. -/
def raises : Program → Bool
  | skip | set _ | reset => false
  | raise => true
  | andThen first second => first.raises || second.raises
  | guarded _ => false
  | block _ body => body.raises

/-- What a run does to its context, one action after the other. -/
def actions : Program → List Context.Action
  | skip | raise => []
  | set config => [.set config]
  | reset => [.reset]
  | andThen first second =>
    if first.raises then first.actions else first.actions ++ second.actions
  | guarded body => body.actions
  | block config body => .enter config :: (body.actions ++ [.leave])

/-- **A run does its actions**, whatever the context is. -/
theorem run_eq (program : Program) (context : Context) :
    program.run context = (context.follow program.actions, program.raises) := by
  induction program generalizing context with
  | skip | set | reset | raise => rfl
  | andThen first second ihFirst ihSecond =>
    rw [run, ihFirst, raises, actions]
    cases first.raises with
    | false => simp [ihSecond]
    | true => simp
  | guarded body ih => rw [run, ih, raises, actions]
  | block config body ih =>
    rw [run, ih, raises, actions]
    simp [Context.act]

/-- A run leaves the blocks that it enters, whether or not it ends in an error. -/
theorem whole_actions (program : Program) : Context.Whole program.actions := by
  induction program with
  | skip | raise => exact .nil
  | set => exact .set .nil
  | reset => exact .reset .nil
  | andThen first second ihFirst ihSecond =>
    rw [actions]
    split
    · exact ihFirst
    · exact ihFirst.append ihSecond
  | guarded body ih => exact ih
  | block config body ih => exact .block ih .nil

/-- A block leaves the context as it is, and passes on the error in which its body ends. -/
theorem run_block (config : Config) (body : Program) (context : Context) :
    (block config body).run context = (context, body.raises) := by
  rw [run_eq, actions, Context.follow_block body.whole_actions, Context.follow_nil, raises]

/-- **Blocks bring back what they found.** A block leaves any context as it is, whatever its body
is, and passes on the error in which that ends. A run is told by its actions. Every block that is
entered in it is left, also when an error ends its body at any depth; the configuration that is
active then is the one that was active just before the block was entered. Inside of the block its
own configuration is active until something is set or reset there, whatever is set in blocks further
inside. -/
theorem blocks_restore (program : Program) (context : Context) :
    (∀ config, (block config program).run context = (context, program.raises)) ∧
      program.run context = (context.follow program.actions, program.raises) ∧
      (∀ before config rest, program.actions = before ++ .enter config :: rest →
        ∃ inside later, Context.Whole inside ∧ rest = inside ++ .leave :: later) ∧
      ∀ before config inside later, Context.Whole inside →
        program.actions = before ++ .enter config :: (inside ++ .leave :: later) →
          (context.follow (before ++ .enter config :: (inside ++ [.leave]))).active =
              (context.follow before).active ∧
            ∀ start, start <+: inside → Context.Blocks start →
              (context.follow (before ++ .enter config :: start)).active = config := by
  refine ⟨fun config => run_block config program context, program.run_eq context,
    fun before config rest => program.whole_actions.exists_leave,
    fun before config inside later hwhole _ => ⟨?_, fun start _ hblocks => ?_⟩⟩
  · rw [Context.follow_append, Context.follow_block hwhole, Context.follow_nil]
  · rw [Context.follow_append, Context.follow_cons, Context.follow_blocks hblocks]
    rfl

/-- Two blocks are left by errors, of which the inner one is caught. -/
theorem blocks_restore_raised :
    let first : Config := { Config.default with tempDir := .text (Text.of "first") }
    let outer : Config := { Config.default with offsetUnits := .codePoint }
    let program : Program :=
      .andThen (.set first)
        (.block outer (.andThen (.guarded (.block .default (.andThen .reset .raise))) .raise))
    let inside : List Context.Action := [.enter .default, .reset, .leave]
    program.actions = [.set first] ++ .enter outer :: (inside ++ .leave :: []) ∧
      program.raises = true ∧
      (Context.initial.follow ([.set first] ++ .enter outer :: inside)).active = outer ∧
      (Context.initial.follow ([.set first] ++ .enter outer :: (inside ++ [.leave]))).active =
        first := by
  intro first outer program inside
  have hwhole : Context.Whole inside := .block (.reset .nil) .nil
  have hblocks : Context.Blocks inside := .block (.reset .nil) .nil
  obtain ⟨hrestore, hinside⟩ :=
    (blocks_restore program .initial).2.2.2 [.set first] outer inside [] hwhole rfl
  exact ⟨rfl, rfl, hinside inside (List.prefix_refl inside) hblocks, hrestore⟩

end Program

end LexBridge
