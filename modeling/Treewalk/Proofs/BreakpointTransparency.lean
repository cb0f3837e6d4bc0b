import Treewalk.Proofs.MirroredRuns
import Treewalk.Proofs.ScriptContracts
import Treewalk.Proofs.StopSignal

/-!
# Breakpoints are transparent

A pause hook that only looks and always lets the run go on makes no difference to the run. Take away
from a machine its breakpoints, its hook, what the hook has seen and the pauses in the trace, and
every operation does the same to what is left. So a run with breakpoints has the run without any for
its image, and two runs with different breakpoints have the same image.
-/

namespace Treewalk

variable {World : Type}

/-- The hook looks and lets the run go on. -/
def PauseHook.Resumes (hook : PauseHook) : Prop :=
  ∀ seen, hook seen = .resume

/-- No breakpoints, no hook, and no sign of earlier pauses. -/
def Recasting.unwatched : Recasting where
  breakpoints _ := []
  pauseHook _ := none
  pauses _ := []
  shows occurrence := !occurrence.isPause
  shows_of_unpaused occurrence unpaused := by simp [unpaused]

namespace Machine

/-- The machine with these breakpoints and this hook. -/
def watching (breakpoints : List NodeId) (hook : Option PauseHook) (machine : Machine World) :
    Machine World :=
  { machine with monitor := { machine.monitor with breakpoints, pauseHook := hook } }

/-- A pause that resumes leaves nothing behind but the memory of it. -/
theorem unwatched_pause {machine : Machine World} (node : NodeId)
    (resumes : ∀ hook, machine.monitor.pauseHook = some hook → hook.Resumes) :
    Recasting.unwatched.machine (machine.pause node) = Recasting.unwatched.machine machine := by
  have noted : Recasting.unwatched.machine (machine.notePause node .resume) =
      Recasting.unwatched.machine machine := by
    simp [Recasting.machine, Recasting.monitor, Recasting.unwatched, notePause, note,
      Occurrence.isPause]
  cases hooked : machine.monitor.pauseHook with
  | none => simp only [pause, hooked]
  | some hook =>
    simp only [pause, hooked, resumes hook hooked _]
    exact noted

/-- Where nobody watches, no breakpoint is noticed. -/
theorem unwatched_enter {machine : Machine World} (node : NodeId)
    (resumes : ∀ hook, machine.monitor.pauseHook = some hook → hook.Resumes) :
    (Recasting.unwatched.machine machine).enter node =
      Recasting.unwatched.machine (machine.enter node) := by
  have unstopped : (Recasting.unwatched.machine machine).enter node =
      (Recasting.unwatched.machine machine).push node := rfl
  rw [unstopped, Recasting.push, enter]
  split
  · have pushed : ∀ hook, (machine.push node).monitor.pauseHook = some hook → hook.Resumes :=
      resumes
    exact (unwatched_pause node pushed).symm
  · rfl

/-- What a run without breakpoints shows of a machine is the same. -/
structure Resembles (left right : Machine World) : Prop where
  store : left.store = right.store
  errors : left.monitor.errors = right.monitor.errors
  stopped : left.stopped = right.stopped
  host : left.host = right.host
  invocations : left.invocations = right.invocations

/-- Constructs are invoked whether anybody watches or not. -/
theorem invocations_unwatched (machine : Machine World) :
    (Recasting.unwatched.machine machine).invocations = machine.invocations := by
  simp only [invocations, Recasting.machine, Recasting.unwatched, List.filterMap_filter]
  congr 1
  funext occurrence
  cases occurrence <;> rfl

/-- Machines that look alike to somebody who does not watch resemble each other. -/
theorem Resembles.of_unwatched {left right : Machine World}
    (same : Recasting.unwatched.machine left = Recasting.unwatched.machine right) :
    left.Resembles right where
  store := by simpa using congrArg (·.store) same
  errors := by simpa using congrArg (·.monitor.errors) same
  stopped := by simpa using congrArg (·.stopped) same
  host := by simpa using congrArg (·.host) same
  invocations := by rw [← invocations_unwatched left, same, invocations_unwatched]

end Machine

namespace Workspace

def watching (breakpoints : List NodeId) (hook : Option PauseHook) (workspace : Workspace World) :
    Workspace World :=
  { workspace with machine := workspace.machine.watching breakpoints hook }

/-- The same with the statuses of all scripts and all events. -/
structure Resembles (left right : Workspace World) : Prop where
  machine : left.machine.Resembles right.machine
  statuses : left.statuses = right.statuses
  board : left.board = right.board

/-- Workspaces that look alike to somebody who does not watch resemble each other. -/
theorem Resembles.of_unwatched {left right : Workspace World}
    (same : Recasting.unwatched.workspace left = Recasting.unwatched.workspace right) :
    left.Resembles right where
  machine := .of_unwatched (congrArg Workspace.machine same)
  statuses := by simpa [Recasting.workspace] using congrArg (·.statuses) same
  board := by simpa [Recasting.workspace] using congrArg (·.board) same

end Workspace

/-- The run without breakpoints beside one whose hook lets it go on. -/
def Comparison.unwatching (World : Type) : Comparison World where
  toRecasting := .unwatched
  Clear machine := ∀ hook, machine.monitor.pauseHook = some hook → hook.Resumes
  parts _ := false
  clear_of_later later clear hook hooked := clear hook (later.pauseHook ▸ hooked)
  enter node _ clear := Machine.unwatched_enter node clear
  refuses _ _ _ := .inl rfl

/-- Nothing parts the two. -/
theorem Comparison.unparted (machine : Machine World) :
    machine.trace.countP (unwatching World).parts = 0 :=
  List.countP_eq_zero.mpr fun _ _ => Bool.false_ne_true

/-- A script runs the same with nobody watching, except for what is remembered of the pauses. -/
theorem ScriptGraph.process_unwatched (graph : ScriptGraph World) (fuel number : Nat)
    {before : Workspace World}
    (resumes : ∀ hook, before.machine.monitor.pauseHook = some hook → hook.Resumes) :
    graph.process fuel number (Recasting.unwatched.workspace before) =
      (graph.process fuel number before).mapState Recasting.unwatched.workspace :=
  (((Comparison.unwatching World).ofScripts graph fuel).process number).same resumes
    ((Comparison.unparted _).trans (Comparison.unparted _).symm)

/-- A program runs the same with nobody watching, except for what is remembered of the pauses. -/
theorem Program.process_unwatched (program : Program World) (fuel : Nat) (node : NodeId)
    {before : Machine World}
    (resumes : ∀ hook, before.monitor.pauseHook = some hook → hook.Resumes) :
    program.process fuel node (Recasting.unwatched.machine before) =
      (program.process fuel node before).mapState Recasting.unwatched.machine :=
  (((Comparison.unwatching World).ofProgram program).process fuel node).same resumes
    ((Comparison.unparted _).trans (Comparison.unparted _).symm)

/-- Breakpoints are transparent. A script is run twice from the same state, with breakpoints and
hooks of any kind, as long as the hooks always answer that the run is to go on. With whatever fuel,
either neither run returns or both return the same, and in either case they leave the same bindings,
recorded errors, stop signal, world, invocations, statuses of the scripts and events. The same holds
of the walk of every node. -/
theorem breakpoints_transparent {leftPoints rightPoints : List NodeId}
    {leftHook rightHook : Option PauseHook}
    (leftResumes : ∀ hook, leftHook = some hook → hook.Resumes)
    (rightResumes : ∀ hook, rightHook = some hook → hook.Resumes) :
    (∀ (graph : ScriptGraph World) (fuel number : Nat) (before : Workspace World),
      let left := graph.process fuel number (before.watching leftPoints leftHook)
      let right := graph.process fuel number (before.watching rightPoints rightHook)
      left.result? = right.result? ∧ left.state.Resembles right.state) ∧
    (∀ (program : Program World) (fuel : Nat) (node : NodeId) (before : Machine World),
      let left := program.process fuel node (before.watching leftPoints leftHook)
      let right := program.process fuel node (before.watching rightPoints rightHook)
      left.result? = right.result? ∧ left.state.Resembles right.state) := by
  constructor
  · intro graph fuel number before left right
    have image : left.mapState Recasting.unwatched.workspace =
        right.mapState Recasting.unwatched.workspace := by
      rw [← graph.process_unwatched fuel number leftResumes,
        ← graph.process_unwatched fuel number rightResumes]
      rfl
    have results := congrArg Outcome.result? image
    have states := congrArg Outcome.state image
    simp only [Outcome.result?_mapState, Outcome.state_mapState] at results states
    exact ⟨results, .of_unwatched states⟩
  · intro program fuel node before left right
    have image : left.mapState Recasting.unwatched.machine =
        right.mapState Recasting.unwatched.machine := by
      rw [← program.process_unwatched fuel node leftResumes,
        ← program.process_unwatched fuel node rightResumes]
      rfl
    have results := congrArg Outcome.result? image
    have states := congrArg Outcome.state image
    simp only [Outcome.result?_mapState, Outcome.state_mapState] at results states
    exact ⟨results, .of_unwatched states⟩

/-- A script that declares a variable and passes it to a construct. -/
def echoingScript : List (Directive Unit) :=
  [.node (.statement (.declareVariable ⟨"v", .plain, some ⟨1⟩⟩)),
    .node (.expression (.literal (.bool true))),
    .node (.expression (.construct ⟨"echo", 1, fun _ host => (.ok .null, host)⟩ [⟨3⟩])),
    .node (.expression (.read ⟨0⟩)),
    .root [⟨0⟩, ⟨2⟩]]

/-- One run pauses at both statements, the other at none. -/
theorem breakpoints_transparent_echo :
    let graph := ScriptGraph.sole echoingScript ⟨4⟩
    let before : Workspace Unit := { machine := { host := { world := () } } }
    let left := graph.process 4 0 (before.watching [⟨0⟩, ⟨2⟩] (some fun _ => .resume))
    let right := graph.process 4 0 (before.watching [] (some fun _ => .resume))
    left.state.machine.monitor.pauses.length = 2 ∧ right.state.machine.monitor.pauses = [] ∧
    left.state.machine.invocations.length = 1 ∧ left.result?.isSome = true ∧
    left.result? = right.result? ∧ left.state.Resembles right.state := by
  intro graph before left right
  have resumes : ∀ hook, some (fun _ => PauseAction.resume) = some hook →
      PauseHook.Resumes hook := by
    rintro hook ⟨⟩ seen
    rfl
  have paused : left.state.machine.monitor.pauses.length = 2 ∧
      right.state.machine.monitor.pauses.length = 0 ∧
      left.state.machine.invocations.length = 1 ∧ left.result?.isSome = true := by
    decide +kernel
  obtain ⟨twice, never, invoked, returned⟩ := paused
  exact ⟨twice, List.length_eq_zero_iff.mp never, invoked, returned,
    (breakpoints_transparent resumes resumes).1 graph 4 0 before⟩

end Treewalk
