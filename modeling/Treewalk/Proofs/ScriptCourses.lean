import Treewalk.Proofs.Openings
import Treewalk.Proofs.PolicyChanges
import Treewalk.Proofs.ScriptCongruence
import Treewalk.Proofs.StopSignal

/-!
# The course of a script

A script has the machine do two things: run the declarations of a library and walk a root block,
each in a scope of its own among the frames of the libraries that are bound. Scopes of scripts are
never refused, so it is certain from which machines the two start. These are
`ScriptGraph.declarationsStart` and `ScriptGraph.rootStart`, and `ScriptGraph.declare_apply` and
`ScriptGraph.runRoot_apply` take the scopes off around them.

What comes before is the business of the workspace. A run that is not refused starts in the
workspace `ScriptGraph.started`, and `ScriptGraph.approach` leads it to its root block.
-/

namespace Treewalk

variable {World Result : Type}

/-- Two changes in a row are one change. -/
theorem Exec.ensuring_ensuring {State : Type} (body : Exec State Result)
    (inner outer : State → State) :
    Exec.ensuring (Exec.ensuring body inner) outer = Exec.ensuring body (outer ∘ inner) := by
  funext current
  simp only [Exec.ensuring]
  cases body current <;> rfl

/-- What is not changed in the end is what the body left. -/
theorem Exec.state_ensuring {State Part : Type} {cleanup : State → State} (part : State → Part)
    (silent : ∀ state, part (cleanup state) = part state) (body : Exec State Result)
    (before : State) :
    part (Exec.ensuring body cleanup before).state = part (body before).state := by
  simp only [Exec.ensuring]
  cases body before with
  | done result after => exact silent after
  | failed fault after => exact silent after
  | exhausted after => rfl

/-- What is done in another state was done. -/
theorem Outcome.exists_of_mapState_done {State Other : Type} {change : State → Other}
    {outcome : Outcome State Result} {result : Result} {after : Other}
    (done : outcome.mapState change = .done result after) :
    ∃ state, outcome = .done result state ∧ after = change state := by
  cases outcome <;> cases done
  exact ⟨_, rfl, rfl⟩

/-- The workspace with another machine. -/
def Workspace.withMachine (workspace : Workspace World) (machine : Machine World) :
    Workspace World :=
  { workspace with machine }

/-- A computation on the machine is one on the workspace that leaves everything else alone. -/
theorem Workspace.onMachine_apply (body : Exec (Machine World) Result)
    (workspace : Workspace World) :
    onMachine body workspace =
      (body workspace.machine).mapState workspace.withMachine := by
  simp only [onMachine, Exec.zoom]
  cases body workspace.machine <;> rfl

namespace Activation

/-- Inside frames that bind nothing, logged one after the other. -/
def amongFrames (layouts : List Layout) (machine : Machine World) : Machine World :=
  layouts.foldl (fun outer layout => opened { layout, ownsBindings := false } outer) machine

/-- Out of frames that bind nothing, the newest first. -/
def leaveFrames (layouts : List Layout) (machine : Machine World) : Machine World :=
  layouts.foldr (fun layout inner => exit { layout, ownsBindings := false } inner) machine

/-- A scope that is not counted is entered in any case. -/
theorem within_uncounted {activation : Activation}
    (uncounted : activation.layout.owner.isFunction = false) (body : Exec (Machine World) Result)
    (machine : Machine World) :
    activation.within body machine =
      Exec.ensuring body activation.exit (activation.opened machine) := by
  rw [within_apply, refuses_eq_none uncounted]

/-- Frames that are not counted are logged in any case. -/
theorem withinFrames_uncounted {layouts : List Layout}
    (uncounted : ∀ layout ∈ layouts, layout.owner.isFunction = false)
    (body : Exec (Machine World) Result) (machine : Machine World) :
    withinFrames layouts body machine =
      Exec.ensuring body (leaveFrames layouts) (amongFrames layouts machine) := by
  induction layouts generalizing machine with
  | nil =>
    simp only [withinFrames, Exec.ensuring, leaveFrames, amongFrames, List.foldl_nil,
      List.foldr_nil]
    cases body machine <;> rfl
  | cons layout rest inductionHypothesis =>
    obtain ⟨first, others⟩ := List.forall_mem_cons.mp uncounted
    have inside : withinFrames rest body =
        fun machine => Exec.ensuring body (leaveFrames rest) (amongFrames rest machine) :=
      funext (inductionHypothesis others)
    rw [withinFrames, within_uncounted first, inside]
    exact congrFun (Exec.ensuring_ensuring (fun outer => body (amongFrames rest outer))
      (leaveFrames rest) (exit { layout, ownsBindings := false })) _

/-- Scripts are entered without a call site, so entering them is not noted. -/
theorem trace_opened_uncalled (layout : Layout) (ownsBindings : Bool) (machine : Machine World) :
    (opened { layout, ownsBindings } machine).trace = machine.trace := by
  cases ownsBindings <;> rfl

/-- Logging frames notes nothing. -/
theorem trace_amongFrames (layouts : List Layout) (machine : Machine World) :
    (amongFrames layouts machine).trace = machine.trace := by
  induction layouts generalizing machine with
  | nil => rfl
  | cons layout rest inductionHypothesis =>
    exact (inductionHypothesis _).trans (trace_opened_uncalled layout false machine)

/-- Neither is leaving them. -/
theorem trace_exit_uncalled (layout : Layout) (ownsBindings : Bool) (machine : Machine World) :
    (exit { layout, ownsBindings } machine).trace = machine.trace := by
  cases ownsBindings <;> rfl

/-- Dropping frames of scripts notes nothing. -/
theorem trace_leaveFrames (layouts : List Layout) (machine : Machine World) :
    (leaveFrames layouts machine).trace = machine.trace := by
  induction layouts with
  | nil => rfl
  | cons layout rest inductionHypothesis =>
    exact (trace_exit_uncalled layout false _).trans inductionHypothesis

/-- Leaving frames does not move the stop signal. -/
theorem stopped_leaveFrames (layouts : List Layout) (machine : Machine World) :
    (leaveFrames layouts machine).stopped = machine.stopped := by
  induction layouts with
  | nil => rfl
  | cons layout rest inductionHypothesis =>
    have left := Machine.Confines.exit { layout, ownsBindings := false } (leaveFrames rest machine)
    exact (Machine.Confines.stopped_eq left).trans inductionHypothesis

end Activation

namespace ScriptGraph

open Workspace

/-- The machine in the scope of a script, among the frames of the libraries below the script. -/
def inScope (graph : ScriptGraph World) (number : Nat) (activation : Activation)
    (workspace : Workspace World) : Machine World :=
  activation.opened
    (Activation.amongFrames (graph.libraryLayouts workspace number) workspace.machine)

/-- The machine after the scope of a script was left, and the frames of the libraries. -/
def outOfScope (graph : ScriptGraph World) (number : Nat) (activation : Activation)
    (workspace : Workspace World) (inside : Machine World) : Machine World :=
  Activation.leaveFrames (graph.libraryLayouts workspace number) (activation.exit inside)

/-- The scope in which a root block is walked. A script that is bound as a library keeps those
bindings. -/
def rootScope (number : Nat) (layout : Layout) (workspace : Workspace World) : Activation :=
  { layout, ownsBindings := !(workspace.status number).libraryBound }

/-- The machine from which the root block of a script is walked. -/
def rootStart (graph : ScriptGraph World) (number : Nat) (layout : Layout)
    (workspace : Workspace World) : Machine World :=
  let entered := graph.inScope number (rootScope number layout workspace) workspace
  entered.note (.scriptOpened (graph.script number).root entered.monitor.frames entered.store)

/-- The machine from which the declarations of a library are run, in the workspace in which its
variables are not bound yet. -/
def declarationsStart (graph : ScriptGraph World) (number : Nat) (layout : Layout)
    (workspace : Workspace World) : Machine World :=
  let entered :=
    graph.inScope number { layout, ownsBindings := false } (bindLibrary number layout workspace)
  entered.note (.libraryOpened (graph.script number).root entered.monitor.frames entered.store)

/-- The program of a script that is being initialized as a library. -/
def libraryProgram (graph : ScriptGraph World) (number : Nat) (layout : Layout)
    (workspace : Workspace World) : Program World :=
  program (graph.script number) ((bindLibrary number layout workspace).status number)

/-- The workspace in which a script runs: it has said so, and it is flagged. -/
def started (graph : ScriptGraph World) (number : Nat) (workspace : Workspace World) :
    Workspace World :=
  let script := graph.script number
  let (run, board) := workspace.board.freshRun
  ({ workspace with board }.announce script ⟨.started, script.name, run⟩).amend number
    fun status => { status with hasRun := true }

/-- What a run does before the root block: it initializes the libraries, unless that was done. -/
def approach (graph : ScriptGraph World) (fuel number : Nat) : Exec (Workspace World) Unit :=
  unlessInitialized number (graph.prepare fuel number true)

variable {graph : ScriptGraph World} {number : Nat} {layout : Layout} {before : Workspace World}

/-- All that is noted on the way to a root block is that the script is opened. -/
theorem trace_rootStart (graph : ScriptGraph World) (number : Nat) (layout : Layout)
    (workspace : Workspace World) :
    ∃ frames store, (graph.rootStart number layout workspace).trace =
      .scriptOpened (graph.script number).root frames store :: workspace.machine.trace :=
  ⟨_, _, congrArg (List.cons _) ((Activation.trace_opened_uncalled _ _ _).trans
    (Activation.trace_amongFrames _ _))⟩

/-- All that is noted on the way to the declarations of a library is that it is opened. -/
theorem trace_declarationsStart (graph : ScriptGraph World) (number : Nat) (layout : Layout)
    (workspace : Workspace World) :
    ∃ frames store, (graph.declarationsStart number layout workspace).trace =
      .libraryOpened (graph.script number).root frames store :: workspace.machine.trace :=
  ⟨_, _, congrArg (List.cons _) ((Activation.trace_opened_uncalled _ _ _).trans
    (Activation.trace_amongFrames _ _))⟩

/-- Leaving the scope of a script notes nothing. -/
theorem trace_outOfScope (graph : ScriptGraph World) (number : Nat) (layout : Layout)
    (ownsBindings : Bool) (workspace : Workspace World) (inside : Machine World) :
    (graph.outOfScope number { layout, ownsBindings } workspace inside).trace = inside.trace :=
  (Activation.trace_leaveFrames _ _).trans (Activation.trace_exit_uncalled _ _ _)

/-- Leaving the scope of a script does not move the stop signal. -/
theorem stopped_outOfScope (graph : ScriptGraph World) (number : Nat) (activation : Activation)
    (workspace : Workspace World) (inside : Machine World) :
    (graph.outOfScope number activation workspace inside).stopped = inside.stopped :=
  (Activation.stopped_leaveFrames _ _).trans (Machine.Confines.stopped_eq (.exit _ _))

/-- That a script starts is no business of the machine. -/
theorem machine_started (graph : ScriptGraph World) (number : Nat) (workspace : Workspace World) :
    (graph.started number workspace).machine = workspace.machine :=
  machine_announce _ _ _

/-- A run that starts does not make its script an initialized library. -/
theorem initialized_started (graph : ScriptGraph World) (number : Nat)
    (workspace : Workspace World) :
    ((graph.started number workspace).status number).initialized =
      (workspace.status number).initialized := by
  rw [started, status_amend, if_pos rfl, Workspace.status, statuses_announce]
  rfl

section

variable (registered :
  (graph.script number).tree.rootLayout? (graph.script number).root = some layout)

include registered

/-- What is run in the scope of a script is run there in any case. -/
theorem withinScope_apply {activation : Activation} (own : activation.layout = layout)
    (body : Exec (Machine World) Result) (workspace : Workspace World) :
    Activation.withinFrames (graph.libraryLayouts workspace number) (activation.within body)
        workspace.machine =
      Exec.ensuring body (graph.outOfScope number activation workspace)
        (graph.inScope number activation workspace) := by
  have counted : activation.layout.owner.isFunction = false :=
    own ▸ uncounted_of_registered registered
  have inside : activation.within body =
      fun machine => Exec.ensuring body activation.exit (activation.opened machine) :=
    funext (Activation.within_uncounted counted body)
  rw [Activation.withinFrames_uncounted fun _ => uncounted_of_mem_libraryLayouts, inside]
  exact congrFun (Exec.ensuring_ensuring (fun outer => body (activation.opened outer))
    activation.exit (Activation.leaveFrames _)) _

/-- The root block of a script is walked from where the script starts. -/
theorem runRoot_apply (fuel : Nat) (workspace : Workspace World) :
    graph.runRoot fuel number workspace =
      (Exec.ensuring
        ((program (graph.script number) (workspace.status number)).process fuel
          (graph.script number).root)
        (graph.outOfScope number (rootScope number layout workspace) workspace)
        (graph.rootStart number layout workspace)).mapState workspace.withMachine := by
  have inside := withinScope_apply registered
    (show (rootScope number layout workspace).layout = layout from rfl)
    (do
      Exec.update fun machine => machine.note
        (.scriptOpened (graph.script number).root machine.monitor.frames machine.store)
      (program (graph.script number) (workspace.status number)).process fuel
        (graph.script number).root) workspace
  rw [runRoot, Exec.bind_apply, rootLayout_apply, registered]
  exact (onMachine_apply _ workspace).trans (congrArg _ inside)

/-- The declarations of a library are run from where they start. -/
theorem declare_apply (fuel : Nat) (workspace : Workspace World) :
    graph.declare fuel number workspace =
      (Exec.ensuring
        ((graph.libraryProgram number layout workspace).runDeclarations
          ((graph.libraryProgram number layout workspace).process fuel)
          ((graph.script number).tree.statements (graph.script number).root))
        (graph.outOfScope number { layout, ownsBindings := false }
          (bindLibrary number layout workspace))
        (graph.declarationsStart number layout workspace)).mapState
          (bindLibrary number layout workspace).withMachine := by
  have inside := withinScope_apply registered
    (show ({ layout, ownsBindings := false } : Activation).layout = layout from rfl)
    (do
      Exec.update fun machine => machine.note
        (.libraryOpened (graph.script number).root machine.monitor.frames machine.store)
      (graph.libraryProgram number layout workspace).runDeclarations
        ((graph.libraryProgram number layout workspace).process fuel)
        ((graph.script number).tree.statements (graph.script number).root))
    (bindLibrary number layout workspace)
  rw [declare, Exec.bind_apply, rootLayout_apply, registered]
  exact (onMachine_apply _ (bindLibrary number layout workspace)).trans (congrArg _ inside)

/-- The run of a root block notes what the walk of the block notes, after its opening. -/
theorem trace_runRoot (fuel : Nat) (workspace : Workspace World) :
    (graph.runRoot fuel number workspace).state.machine.trace =
      ((program (graph.script number) (workspace.status number)).process fuel
        (graph.script number).root (graph.rootStart number layout workspace)).state.trace := by
  rw [runRoot_apply registered, Outcome.state_mapState]
  exact Exec.state_ensuring Machine.trace (graph.trace_outOfScope number layout _ workspace) _ _

/-- Declaring a library notes what the loop over its declarations notes, after its opening. -/
theorem trace_declare (fuel : Nat) (workspace : Workspace World) :
    (graph.declare fuel number workspace).state.machine.trace =
      ((graph.libraryProgram number layout workspace).runDeclarations
        ((graph.libraryProgram number layout workspace).process fuel)
        ((graph.script number).tree.statements (graph.script number).root)
        (graph.declarationsStart number layout workspace)).state.trace := by
  rw [declare_apply registered, Outcome.state_mapState]
  exact Exec.state_ensuring Machine.trace
    (graph.trace_outOfScope number layout false (bindLibrary number layout workspace)) _ _

end

/-- A run that is not refused starts, comes to its root block and walks it, and says that it is
finished. -/
theorem process_apply (fresh : (before.status number).hasRun = false) (fuel : Nat) :
    graph.process fuel number before =
      Exec.ensuring
        (do
          graph.approach fuel number
          graph.runRoot fuel number)
        (announce (graph.script number)
          ⟨.finished, (graph.script number).name, before.board.freshRun.1⟩)
        (graph.started number before) := by
  have run : ∀ workspace : Workspace World, graph.run fuel number workspace =
      (do
        graph.approach fuel number
        graph.runRoot fuel number : Exec (Workspace World) Flow)
          (workspace.amend number fun status => { status with hasRun := true }) := by
    intro workspace
    simp only [ScriptGraph.run, approach, unlessInitialized, Exec.bind_apply, Exec.update,
      Exec.state]
    split <;> rfl
  rw [ScriptGraph.process, Exec.bind_apply]
  simp only [Exec.state, fresh]
  simp only [Exec.bind_apply, Exec.update, Exec.ensuring, run, Bool.false_eq_true, if_false,
    started]

/-- A script that has run is not run again. -/
theorem process_again {fuel : Nat} (ran : (before.status number).hasRun = true) :
    graph.process fuel number before =
      .failed (.ofCause (.misuse (.alreadyRun (graph.script number).name))) before := by
  rw [process, Exec.bind_apply]
  simp [Exec.state, ran, Exec.failFor, Exec.fail]

end ScriptGraph

end Treewalk
