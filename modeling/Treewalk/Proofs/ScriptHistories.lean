import Mathlib.Logic.Relation
import Treewalk.Proofs.Openings
import Treewalk.Proofs.StopHeeding

/-!
# Histories of scripts

A history is a sequence of calls that embedding code makes on the scripts of a graph: to run one, to
initialize one as a library, or to close one. Each call returns, in whichever way. Between two calls
another monitor and another host may take over, and arguments may be set; the bindings and what is
known about the scripts stay.

`ScriptGraph.Invariant` collects what has to be known of a property so that preparing and running
scripts keep it. A script is declared only if its variables are not bound yet, unless somebody asks
for it directly.
-/

namespace Treewalk

variable {World : Type}

/-- The declarations of the library with the given root are about to run. -/
def Occurrence.opensLibrary (root : NodeId) : Occurrence → Bool
  | .libraryOpened opened _ _ => opened == root
  | _ => false

/-- A library that is opened is one of the openings. -/
theorem Occurrence.isOpening_of_opensLibrary {root : NodeId} {occurrence : Occurrence}
    (opens : occurrence.opensLibrary root = true) : occurrence.isOpening = true := by
  cases occurrence with
  | libraryOpened => rfl
  | _ => cases opens

/-- How often the declarations of the library with the given root have been run. -/
def Machine.timesDeclared (machine : Machine World) (root : NodeId) : Nat :=
  machine.trace.countP (Occurrence.opensLibrary root)

/-- Only openings count. -/
theorem Machine.timesDeclared_eq (machine : Machine World) (root : NodeId) :
    machine.timesDeclared root = machine.openings.countP (Occurrence.opensLibrary root) := by
  rw [openings, sightings, List.countP_filter]
  apply List.countP_congr
  intro occurrence _
  simp only [Bool.and_eq_true, iff_self_and]
  exact Occurrence.isOpening_of_opensLibrary

namespace Workspace

/-- Nothing has changed about the flags that scripts go by, about the number of bindings, or about
how often libraries have been declared. -/
structure Akin (before after : Workspace World) : Prop where
  initialized : ∀ number, (after.status number).initialized = (before.status number).initialized
  libraryBound : ∀ number, (after.status number).libraryBound = (before.status number).libraryBound
  closed : ∀ number, (after.status number).closed = (before.status number).closed
  depth : ∀ cell, after.machine.store.depth cell = before.machine.store.depth cell
  timesDeclared : ∀ root, after.machine.timesDeclared root = before.machine.timesDeclared root

/-- Being akin can be followed along a history. -/
theorem Akin.trans {first second third : Workspace World} (earlier : first.Akin second)
    (later : second.Akin third) : first.Akin third where
  initialized number := (later.initialized number).trans (earlier.initialized number)
  libraryBound number := (later.libraryBound number).trans (earlier.libraryBound number)
  closed number := (later.closed number).trans (earlier.closed number)
  depth cell := (later.depth cell).trans (earlier.depth cell)
  timesDeclared root := (later.timesDeclared root).trans (earlier.timesDeclared root)

/-- Others may watch and host the next call, and scripts may get other arguments. -/
structure HandedOver (before after : Workspace World) : Prop where
  store : after.machine.store = before.machine.store
  trace : after.machine.trace = before.machine.trace
  status : ∀ number, ∃ argument, after.status number = { before.status number with argument }

/-- A workspace may stay in the same hands. -/
theorem HandedOver.refl (workspace : Workspace World) : workspace.HandedOver workspace where
  store := rfl
  trace := rfl
  status _ := ⟨_, rfl⟩

/-- Who watches, and with which arguments, makes no difference. -/
theorem HandedOver.akin {before after : Workspace World} (handed : before.HandedOver after) :
    before.Akin after := by
  refine ⟨?_, ?_, ?_, ?_, ?_⟩
  · intro number
    obtain ⟨argument, status⟩ := handed.status number
    rw [status]
  · intro number
    obtain ⟨argument, status⟩ := handed.status number
    rw [status]
  · intro number
    obtain ⟨argument, status⟩ := handed.status number
    rw [status]
  · intro cell
    rw [handed.store]
  · intro root
    rw [Machine.timesDeclared, handed.trace]
    rfl

/-- Running a script is no business of the flags that scripts go by. -/
theorem akin_hasRun (number : Nat) (workspace : Workspace World) :
    workspace.Akin (workspace.amend number fun status => { status with hasRun := true }) := by
  refine ⟨?_, ?_, ?_, fun _ => rfl, fun _ => rfl⟩ <;>
  · intro other
    rw [status_amend]
    split
    · next same => rw [same]
    · rfl

/-- Events are no business of the flags that scripts go by. -/
theorem akin_of_same {before after : Workspace World} (machine : after.machine = before.machine)
    (statuses : after.statuses = before.statuses) : before.Akin after := by
  have status (number : Nat) : after.status number = before.status number := by
    simp only [Workspace.status, statuses]
  refine ⟨?_, ?_, ?_, ?_, ?_⟩
  · intro number
    rw [status]
  · intro number
    rw [status]
  · intro number
    rw [status]
  · intro cell
    rw [machine]
  · intro root
    rw [machine]

/-- Once initialized, a script stays so. -/
def growing : Contract (Workspace World) where
  Raised _ := True
  Finished before after := ∀ number, (before.status number).initialized = true →
    (after.status number).initialized = true
  Reached _ _ := True
  refl _ _ initialized := initialized
  trans earlier later number initialized := later number (earlier number initialized)
  reached_of_finished _ := trivial
  reached_trans _ _ := trivial

/-- A property that outlasts whatever finishes. -/
def preserving (Holds : Workspace World → Prop) : Contract (Workspace World) where
  Raised _ := True
  Finished before after := Holds before → Holds after
  Reached _ _ := True
  refl _ holds := holds
  trans earlier later holds := later (earlier holds)
  reached_of_finished _ := trivial
  reached_trans _ _ := trivial

/-- Nothing is asked of a computation that starts where the property does not hold. -/
theorem preserving_of_holds {Result : Type} {Holds : Workspace World → Prop}
    {workspace : Workspace World} {outcome : Outcome (Workspace World) Result}
    (finished : Holds workspace → ∀ after, outcome.final? = some after → Holds after) :
    (preserving Holds).Fulfilled workspace outcome := by
  cases outcome with
  | done result after => exact fun holds => finished holds after rfl
  | failed fault after => exact ⟨trivial, fun holds => finished holds after rfl⟩
  | exhausted after => trivial

end Workspace

namespace ScriptGraph

open Contract Workspace

variable {graph : ScriptGraph World}

/-- A script includes another one as a library. -/
def Includes (graph : ScriptGraph World) (number library : Nat) : Prop :=
  ∃ smaller, ⟨library, smaller⟩ ∈ graph.libraries number

/-- Scripts include smaller ones only. -/
theorem Includes.lt {number library : Nat} (includes : graph.Includes number library) :
    library < number :=
  includes.1

/-- What is listed as a library is included. -/
theorem includes_of_mem {number : Nat} {library : { library // library < number }}
    (member : library ∈ graph.libraries number) : graph.Includes number library.1 :=
  ⟨library.2, member⟩

/-- A script is another one or includes it, directly or not. -/
abbrev Reaches (graph : ScriptGraph World) : Nat → Nat → Prop :=
  Relation.ReflTransGen graph.Includes

/-- Scripts reach smaller ones, or themselves. -/
theorem Reaches.le {number library : Nat} (reaches : graph.Reaches number library) :
    library ≤ number := by
  induction reaches with
  | refl => exact Nat.le_refl _
  | tail _ includes inductionHypothesis =>
    exact Nat.le_trans (Nat.le_of_lt includes.lt) inductionHypothesis

/-- One of several scripts reaches a library. -/
def ReachedFrom (graph : ScriptGraph World) (numbers : List Nat) (library : Nat) : Prop :=
  ∃ number ∈ numbers, graph.Reaches number library

/-- What is left to do for a script that has been flagged as initialized. -/
def prepareFlagged (graph : ScriptGraph World) (fuel number : Nat) (skipSelf : Bool) :
    Exec (Workspace World) Unit := do
  (graph.libraries number).forM fun library =>
    unlessInitialized library.1 (graph.prepare fuel library.1 false)
  if skipSelf then return () else graph.declare fuel number

/-- Flag a script as initialized. -/
abbrev flag (number : Nat) (workspace : Workspace World) : Workspace World :=
  workspace.amend number fun status => { status with initialized := true }

/-- Flagging a script as initialized does not bind it. -/
theorem libraryBound_flag (number other : Nat) (workspace : Workspace World) :
    ((flag number workspace).status other).libraryBound =
      (workspace.status other).libraryBound := by
  rw [status_amend]
  split
  · next same => rw [same]
  · rfl

/-- Preparing a script flags it first. -/
theorem prepare_apply (fuel number : Nat) (skipSelf : Bool) (before : Workspace World) :
    graph.prepare fuel number skipSelf before =
      graph.prepareFlagged fuel number skipSelf (flag number before) := by
  rw [prepare]
  rfl

/-- A contract that asks nothing of faults and of what is cut off is kept by declaring scripts if it
allows for what a declaration does. -/
theorem kept_declare {contract : Contract (Workspace World)}
    (raised : ∀ fault, contract.Raised fault)
    (reached : ∀ before after, contract.Reached before after)
    (declared : ∀ number layout before after, graph.Declared number layout before after →
      contract.Finished before after) (fuel number : Nat) :
    contract.Kept (graph.declare fuel number) := by
  intro before
  cases registered : (graph.script number).tree.rootLayout? (graph.script number).root with
  | none =>
    rw [declare_unregistered registered]
    exact ⟨raised _, contract.refl before⟩
  | some layout =>
    have allowed (after : Workspace World)
        (ended : (graph.declare fuel number before).final? = some after) :
        contract.Finished before after :=
      declared number layout before after (declared_of_declare registered ended)
    cases ended : graph.declare fuel number before with
    | done result after => exact allowed after (by rw [ended]; rfl)
    | failed fault after => exact ⟨raised fault, allowed after (by rw [ended]; rfl)⟩
    | exhausted after => exact reached before after

section

variable {contract : Contract (Workspace World)} {fuel : Nat}
  (flags : ∀ number workspace, contract.Finished workspace (flag number workspace))
  (declares : ∀ number, contract.Kept (graph.declare fuel number))

include flags declares

/-- Preparing a script flags and declares scripts and does nothing else. -/
theorem kept_prepareFlagged (number : Nat) (skipSelf : Bool) :
    contract.Kept (graph.prepareFlagged fuel number skipSelf) := by
  induction number using Nat.strongRecOn generalizing skipSelf with
  | ind number inductionHypothesis =>
    apply kept_bind
    · apply kept_forM
      intro library _
      apply kept_unlessInitialized
      intro workspace _
      rw [prepare_apply]
      exact (inductionHypothesis library.1 library.2 false _).after (flags _ _)
    · intro _
      split
      · exact kept_pure _
      · exact declares number

/-- The contract is kept along the whole preparation. -/
theorem kept_prepare (number : Nat) (skipSelf : Bool) :
    contract.Kept (graph.prepare fuel number skipSelf) := by
  intro before
  rw [prepare_apply]
  exact (kept_prepareFlagged flags declares number skipSelf _).after (flags number before)

end

/-- A script that is flagged joins those that are initialized. -/
theorem growing_flag (number : Nat) (workspace : Workspace World) :
    growing.Finished workspace (flag number workspace) := by
  intro other initialized
  rw [status_amend]
  split
  · rfl
  · exact initialized

/-- Declaring a library takes no flag away. -/
theorem growing_declare (fuel number : Nat) : growing.Kept (graph.declare fuel number) := by
  apply kept_declare (fun _ => trivial) (fun _ _ => trivial)
  intro number layout before after declared other initialized
  rw [declared.status]
  split
  · next same => rwa [← same]
  · exact initialized

/-- Preparing a script takes no flag away. -/
theorem growing_prepare (fuel number : Nat) (skipSelf : Bool) :
    growing.Kept (graph.prepare fuel number skipSelf) :=
  kept_prepare growing_flag (growing_declare fuel) number skipSelf

/-- A script that has been prepared is initialized, whatever the preparation came to. -/
theorem initialized_prepare {fuel number : Nat} {skipSelf : Bool} {before after : Workspace World}
    (ended : (graph.prepare fuel number skipSelf before).final? = some after) :
    (after.status number).initialized = true := by
  rw [prepare_apply] at ended
  apply (kept_prepareFlagged growing_flag (growing_declare fuel) number skipSelf _).finished ended
  rw [status_amend, if_pos rfl]

/-- When it has been seen to that all libraries in a list are initialized, they are. -/
theorem initialized_libraries {fuel number : Nat} {libraries : List { library // library < number }}
    {before after : Workspace World}
    (done : (libraries.forM fun library =>
      unlessInitialized library.1 (graph.prepare fuel library.1 false)) before = .done () after) :
    ∀ library ∈ libraries, (after.status library.1).initialized = true := by
  induction libraries generalizing before with
  | nil =>
    intro library member
    cases member
  | cons first rest inductionHypothesis =>
    obtain ⟨_, between, ended, continued⟩ := Exec.exists_of_bind_done done
    have first_initialized : (between.status first.1).initialized = true := by
      change (if (before.status first.1).initialized then pure ()
        else graph.prepare fuel first.1 false) before = _ at ended
      split at ended
      · next already =>
        cases ended
        exact already
      · exact initialized_prepare (congrArg Outcome.final? ended)
    have grown : growing.Finished between after := by
      refine Fulfilled.finished ?_ (congrArg Outcome.final? continued)
      apply kept_forM
      intro library _
      apply kept_unlessInitialized
      intro workspace _
      exact growing_prepare fuel library.1 false workspace
    intro library member
    rcases List.mem_cons.mp member with rfl | later
    · exact grown library.1 first_initialized
    · exact inductionHypothesis continued library later

/-- A property that scripts keep as long as only allowed ones are declared, and none of them while
it is bound. -/
structure Invariant (graph : ScriptGraph World) (Allowed : Nat → Prop)
    (Holds : Workspace World → Prop) : Prop where
  libraries {number library : Nat} (allowed : Allowed number)
    (includes : graph.Includes number library) : Allowed library
  akin {before after : Workspace World} (holds : Holds before) (akin : before.Akin after) :
    Holds after
  /-- What is not initialized is not bound. -/
  unbound {workspace : Workspace World} (holds : Holds workspace) {number : Nat}
    (uninitialized : (workspace.status number).initialized = false) :
    (workspace.status number).libraryBound = false
  flagged {workspace : Workspace World} (holds : Holds workspace) (number : Nat) :
    Holds (flag number workspace)
  declared {before after : Workspace World} (holds : Holds before) {number : Nat} {layout : Layout}
    (allowed : Allowed number) (initialized : (before.status number).initialized = true)
    (prepared : ∀ library, graph.Includes number library →
      (before.status library).initialized = true)
    (unbound : (before.status number).libraryBound = false)
    (declared : graph.Declared number layout before after) : Holds after

namespace Invariant

variable {Allowed : Nat → Prop} {Holds : Workspace World → Prop}
  (invariant : graph.Invariant Allowed Holds)

include invariant

/-- A script is declared only if its libraries are ready and it is not bound itself. -/
theorem declare {number : Nat} (allowed : Allowed number) (fuel : Nat) {before : Workspace World}
    (initialized : (before.status number).initialized = true)
    (prepared : ∀ library, graph.Includes number library →
      (before.status library).initialized = true)
    (unbound : (before.status number).libraryBound = false) :
    (preserving Holds).Fulfilled before (graph.declare fuel number before) := by
  apply preserving_of_holds
  intro holds after ended
  cases registered : (graph.script number).tree.rootLayout? (graph.script number).root with
  | none =>
    rw [declare_unregistered registered] at ended
    cases ended
    exact holds
  | some layout =>
    exact invariant.declared holds allowed initialized prepared unbound
      (declared_of_declare registered ended)

/-- The libraries are prepared one after the other, each of them only if it is not initialized and
hence not bound. Their turn leaves the status of the script itself alone. -/
theorem prepare {number : Nat} (allowed : Allowed number) (fuel : Nat) {skipSelf : Bool}
    {before : Workspace World}
    (unbound : skipSelf = false → (before.status number).libraryBound = false) :
    (preserving Holds).Fulfilled before (graph.prepare fuel number skipSelf before) := by
  induction number using Nat.strongRecOn generalizing skipSelf before with
  | ind number inductionHypothesis =>
    have library (library : { library // library < number })
        (member : library ∈ graph.libraries number) :
        (preserving Holds).Kept
          (unlessInitialized library.1 (graph.prepare fuel library.1 false)) := by
      apply kept_unlessInitialized
      intro workspace uninitialized
      apply preserving_of_holds
      intro holds after ended
      refine (inductionHypothesis library.1 library.2
        (invariant.libraries allowed (includes_of_mem member)) ?_).finished ended holds
      exact fun _ => invariant.unbound holds uninitialized
    have flagged : (preserving Holds).Finished before (flag number before) :=
      fun holds => invariant.flagged holds number
    rw [prepare_apply]
    refine Fulfilled.after flagged ?_
    apply fulfilled_bind (kept_forM library _)
    intro _ after ended _
    cases skipSelf with
    | true => exact kept_pure () after
    | false =>
      have spared : (sparing number).Finished (flag number before) after := by
        refine Fulfilled.finished ?_ (congrArg Outcome.final? ended)
        apply kept_forM
        intro library _
        apply kept_unlessInitialized
        intro workspace _
        exact sparing_prepare library.2 fuel false workspace
      have status := spared number (Nat.le_refl number)
      rw [status_amend, if_pos rfl] at status
      apply invariant.declare allowed fuel
      · rw [status]
      · rintro library ⟨smaller, member⟩
        exact initialized_libraries ended ⟨library, smaller⟩ member
      · rw [status]
        exact unbound rfl

/-- A root block leaves flags and depths alone. -/
theorem runRoot (fuel number : Nat) : (preserving Holds).Kept (graph.runRoot fuel number) := by
  intro before
  apply preserving_of_holds
  intro holds after ended
  cases registered : (graph.script number).tree.rootLayout? (graph.script number).root with
  | none =>
    rw [runRoot_unregistered registered] at ended
    cases ended
    exact holds
  | some layout =>
    have ran := ranRoot_of_runRoot registered ended
    have status (number : Nat) : after.status number = before.status number := by
      simp only [Workspace.status, ran.statuses]
    apply invariant.akin holds
    refine ⟨?_, ?_, ?_, ran.depth, ?_⟩
    · intro number
      rw [status]
    · intro number
      rw [status]
    · intro number
      rw [status]
    · intro root
      obtain ⟨frames, opened⟩ := ran.opened
      rw [Machine.timesDeclared_eq, Machine.timesDeclared_eq, opened]
      exact List.countP_cons_of_neg Bool.false_ne_true

/-- A run prepares all libraries but not the script itself. -/
theorem run {number : Nat} (allowed : Allowed number) (fuel : Nat) :
    (preserving Holds).Kept (graph.run fuel number) := by
  apply kept_bind
  · exact kept_update fun before holds => invariant.akin holds (akin_hasRun number before)
  · intro _
    apply kept_state
    intro workspace
    split
    · exact invariant.runRoot fuel number
    · apply kept_bind
      · intro before
        exact invariant.prepare allowed fuel fun declared => nomatch declared
      · intro _
        exact invariant.runRoot fuel number

/-- The events around a run leave the property alone. -/
theorem process {number : Nat} (allowed : Allowed number) (fuel : Nat) :
    (preserving Holds).Kept (graph.process fuel number) := by
  have announced (script : Script World) (event : Event) (workspace : Workspace World)
      (holds : Holds workspace) : Holds (workspace.announce script event) :=
    invariant.akin holds
      (akin_of_same (machine_announce script event workspace)
        (statuses_announce script event workspace))
  apply kept_state
  intro workspace
  split
  · exact kept_fail trivial
  · apply kept_bind
    · intro before holds
      exact announced _ _ _ (invariant.akin holds (akin_of_same rfl rfl))
    · intro _ before
      apply fulfilled_ensuring (invariant.run allowed fuel before)
      · intro after kept holds
        exact announced _ _ _ (kept holds)
      · exact fun _ _ => trivial

end Invariant

end ScriptGraph

/-- What is not cut off shows the state it ended in. -/
theorem Outcome.final?_eq_state {State Result : Type} {outcome : Outcome State Result}
    (finished : outcome.final?.isSome = true) : outcome.final? = some outcome.state := by
  cases outcome with
  | exhausted => cases finished
  | _ => rfl

/-- What embedding code asks of a script. -/
inductive Call where
  | process (number : Nat)
  /-- Initialize it as a library, unless only its libraries are to be. -/
  | prepare (number : Nat) (skipSelf : Bool)
  | close (number : Nat)
deriving DecidableEq

/-- A call, and the workspace in which it was made. -/
structure Entry (World : Type) where
  call : Call
  before : Workspace World

namespace ScriptGraph

variable {graph : ScriptGraph World}

/-- What a call that returns leads to, whatever its answer. -/
inductive Performs (graph : ScriptGraph World) : Call → Workspace World → Workspace World → Prop
    where
  | process {fuel number : Nat} {before after : Workspace World}
      (ended : (graph.process fuel number before).final? = some after) :
      Performs graph (.process number) before after
  | prepare {fuel number : Nat} {skipSelf : Bool} {before after : Workspace World}
      (ended : (graph.prepare fuel number skipSelf before).final? = some after) :
      Performs graph (.prepare number skipSelf) before after
  | close (number : Nat) (before : Workspace World) :
      Performs graph (.close number) before (graph.close number before)

/-- A run that was not cut off leads to the state it shows. -/
theorem Performs.processed {fuel number : Nat} {before : Workspace World}
    (returned : (graph.process fuel number before).final?.isSome = true) :
    graph.Performs (.process number) before (graph.process fuel number before).state :=
  .process (Outcome.final?_eq_state returned)

/-- A preparation that was not cut off leads to the state it shows. -/
theorem Performs.prepared {fuel number : Nat} {skipSelf : Bool} {before : Workspace World}
    (returned : (graph.prepare fuel number skipSelf before).final?.isSome = true) :
    graph.Performs (.prepare number skipSelf) before
      (graph.prepare fuel number skipSelf before).state :=
  .prepare (Outcome.final?_eq_state returned)

/-- Calls that have been made one after the other. -/
inductive History (graph : ScriptGraph World) (start : Workspace World) :
    List (Entry World) → Workspace World → Prop where
  | start : History graph start [] start
  | call {entries : List (Entry World)} {current ready after : Workspace World} {call : Call}
      (earlier : History graph start entries current) (handed : current.HandedOver ready)
      (performed : graph.Performs call ready after) :
      History graph start (entries ++ [⟨call, ready⟩]) after

/-- A property that no change of hands and no call of a history ends holds after the history. -/
theorem History.holds {start final : Workspace World} {entries : List (Entry World)}
    (history : graph.History start entries final) {Holds : Workspace World → Prop}
    (akin : ∀ before after, before.Akin after → Holds before → Holds after)
    (performs : ∀ entry ∈ entries, ∀ after, graph.Performs entry.call entry.before after →
      Holds entry.before → Holds after)
    (holds : Holds start) : Holds final := by
  induction history with
  | start => exact holds
  | @call entries current ready after call _ handed performed inductionHypothesis =>
    have earlier : Holds current := by
      apply inductionHypothesis
      intro entry member
      exact performs entry (List.mem_append_left _ member)
    exact performs ⟨call, ready⟩ (List.mem_append_right _ (List.mem_singleton_self _)) after
      performed (akin current ready handed.akin earlier)

end ScriptGraph

end Treewalk
