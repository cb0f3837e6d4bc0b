import Treewalk.Proofs.PolicyChanges

/-!
# Recast machines

A monitor can be set up in different ways for the same run: with other breakpoints, another pause
hook, another limit on nested calls. A `Recasting` turns the monitor of one such run into that of
another and drops from the trace what the other does not see, which can be pauses only.

Breakpoints and the hook are asked where a node is entered, the limit where a frame is logged. All
other operations of the machine commute with every recasting, one lemma for each of them.
-/

namespace Treewalk

variable {World : Type}

/-- A breakpoint was hit. -/
def Occurrence.isPause : Occurrence → Bool
  | .paused .. => true
  | _ => false

/-- Another setup of the monitor, and what is seen of the trace under it. -/
structure Recasting where
  maxCallDepth : Option Nat → Option Nat := id
  breakpoints : List NodeId → List NodeId := id
  pauseHook : Option PauseHook → Option PauseHook := id
  pauses : List Snapshot → List Snapshot := id
  shows : Occurrence → Bool := fun _ => true
  shows_of_unpaused (occurrence : Occurrence) (unpaused : occurrence.isPause = false) :
    shows occurrence = true

namespace Recasting

variable (recasting : Recasting)

def monitor (monitor : Monitor) : Monitor :=
  { monitor with
    maxCallDepth := recasting.maxCallDepth monitor.maxCallDepth
    breakpoints := recasting.breakpoints monitor.breakpoints
    pauseHook := recasting.pauseHook monitor.pauseHook
    pauses := recasting.pauses monitor.pauses }

/-- The machine as the other run has it. -/
def machine (machine : Machine World) : Machine World :=
  { machine with
    monitor := recasting.monitor machine.monitor
    trace := machine.trace.filter recasting.shows }

/-- The workspace as the other run has it. -/
def workspace (workspace : Workspace World) : Workspace World :=
  { workspace with machine := recasting.machine workspace.machine }

section

variable (machine : Machine World)

/-- A recasting changes the setup of the monitor, what it remembers of pauses, and their notes. -/
@[simp] theorem store_machine : (recasting.machine machine).store = machine.store :=
  rfl

@[simp] theorem scopes_machine : (recasting.machine machine).scopes = machine.scopes :=
  rfl

@[simp] theorem host_machine : (recasting.machine machine).host = machine.host :=
  rfl

/-- The stop signal is none of these. -/
@[simp] theorem stopped_machine : (recasting.machine machine).stopped = machine.stopped :=
  rfl

@[simp] theorem top?_machine :
    (recasting.machine machine).monitor.top? = machine.monitor.top? :=
  rfl

@[simp] theorem policy_machine :
    (recasting.machine machine).monitor.policy = machine.monitor.policy :=
  rfl

@[simp] theorem errors_machine :
    (recasting.machine machine).monitor.errors = machine.monitor.errors :=
  rfl

end

/-- Whatever is noted, apart from pauses, is noted in a recast machine as well. -/
theorem note {occurrence : Occurrence} (unpaused : occurrence.isPause = false)
    (machine : Machine World) :
    (recasting.machine machine).note occurrence =
      recasting.machine (machine.note occurrence) := by
  simp [Recasting.machine, Machine.note, recasting.shows_of_unpaused occurrence unpaused]

/-- The signal moves alike in a recast machine. -/
theorem signal (raised : Bool) (machine : Machine World) :
    (recasting.machine machine).signal raised = recasting.machine (machine.signal raised) := by
  simp only [Machine.signal, Recasting.machine, Recasting.monitor]
  split <;> rfl

/-- A move of the signal is noted alike in a recast machine. -/
theorem noteMove (mover : SignalMover) (earlier : Bool) (machine : Machine World) :
    (recasting.machine machine).noteMove mover earlier =
      recasting.machine (machine.noteMove mover earlier) := by
  rw [Machine.noteMove, Machine.noteMove, apply_ite recasting.machine, stopped_machine,
    recasting.note rfl]

/-- The signal is raised alike in a recast machine. -/
theorem raise (mover : SignalMover) (machine : Machine World) :
    (recasting.machine machine).raise mover = recasting.machine (machine.raise mover) := by
  rw [Machine.raise, signal, noteMove]
  rfl

/-- The signal is moved from outside alike in a recast machine. -/
theorem moveOutside (raised : Bool) (machine : Machine World) :
    (recasting.machine machine).moveOutside raised =
      recasting.machine (machine.moveOutside raised) := by
  rw [Machine.moveOutside, signal, noteMove]
  rfl

/-- What comes from outside comes to both. -/
theorem poll (machine : Machine World) :
    Machine.poll (recasting.machine machine) =
      (Machine.poll machine).mapState recasting.machine := by
  have moves : (recasting.machine machine).outside (recasting.machine machine).looks =
      machine.outside machine.looks := rfl
  have moved (raised : Bool) := recasting.moveOutside raised machine.countLook
  simp only [Machine.poll, moves]
  cases machine.outside machine.looks with
  | none => rfl
  | some raised =>
    exact congrArg (fun looked => Outcome.done looked.shouldStop looked) (moved raised)

/-- A node is pushed alike in a recast machine. -/
theorem push (node : NodeId) (machine : Machine World) :
    (recasting.machine machine).push node = recasting.machine (machine.push node) :=
  recasting.note rfl
    { machine with monitor := { machine.monitor with stack := machine.monitor.stack.push node } }

/-- A node is left alike in a recast machine. -/
theorem leave (node : NodeId) (machine : Machine World) :
    (recasting.machine machine).leave node = recasting.machine (machine.leave node) :=
  recasting.note rfl
    { machine with monitor := { machine.monitor with stack := machine.monitor.stack.pop } }

/-- Bindings are opened alike in a recast machine. -/
theorem bind (activation : Activation) (machine : Machine World) :
    activation.bind (recasting.machine machine) = recasting.machine (activation.bind machine) := by
  simp only [Activation.bind]
  split <;> rfl

/-- Bindings are taken back alike in a recast machine. -/
theorem unbind (activation : Activation) (machine : Machine World) :
    activation.unbind (recasting.machine machine) =
      recasting.machine (activation.unbind machine) := by
  simp only [Activation.unbind]
  split <;> rfl

/-- Frames are logged alike, because their limit is checked before. -/
theorem framed (activation : Activation) (machine : Machine World) :
    activation.framed (recasting.machine machine) =
      recasting.machine (activation.framed machine) := by
  simp only [Activation.framed, bind]
  rfl

/-- A frame is dropped alike in a recast machine. -/
theorem exitFrame (machine : Machine World) :
    (recasting.machine machine).exitFrame = recasting.machine machine.exitFrame := by
  simp only [Machine.exitFrame, Monitor.dropFrame, Recasting.machine, Recasting.monitor]
  split <;> rfl

/-- A scope is left alike in a recast machine. -/
theorem exit (activation : Activation) (machine : Machine World) :
    activation.exit (recasting.machine machine) = recasting.machine (activation.exit machine) := by
  simp only [Activation.exit]
  split
  · rw [leave, exitFrame, unbind]
  · rw [exitFrame, unbind]

/-- A refusal notes the limit that it was refused for. -/
theorem refused (activation : Activation) (limit : Nat) (machine : Machine World) :
    activation.refused limit (recasting.machine machine) =
      recasting.machine (activation.refused limit machine) := by
  rw [Activation.refused, bind, note _ rfl, unbind]
  rfl

/-- A write succeeds or fails on the store. -/
theorem write (site : WriteSite) (name : String) (cell : Cell) (value : Value)
    (machine : Machine World) :
    Machine.write site name cell value (recasting.machine machine) =
      (Machine.write site name cell value machine).mapState recasting.machine := by
  simp only [Machine.write, store_machine]
  split
  · rfl
  · exact congrArg (Outcome.failed _) (recasting.note rfl machine)

/-- A construct works on its host. -/
theorem invoke (construct : Construct World) (arguments : List Value) (machine : Machine World) :
    Machine.invoke construct arguments (recasting.machine machine) =
      (Machine.invoke construct arguments machine).mapState recasting.machine := by
  have left (host : Host World) :
      { (recasting.machine machine).note (.invoked construct.name arguments machine.stopped) with
        host }.noteMove (.construct construct.name) machine.stopped =
      recasting.machine
        ({ machine.note (.invoked construct.name arguments machine.stopped) with host }.noteMove
          (.construct construct.name) machine.stopped) := by
    rw [recasting.note rfl, ← noteMove]
    rfl
  simp only [Machine.invoke, host_machine, stopped_machine, left]
  rcases construct.invoke arguments machine.host with ⟨_ | value, host⟩ <;> rfl

/-- A fault is handed on alike, because error scopes and policy are not recast. -/
theorem hand (fault : Fault) (machine : Machine World) :
    Machine.hand fault (recasting.machine machine) =
      (Machine.hand fault machine).mapState recasting.machine := by
  have tops := recasting.top?_machine machine
  have policies := recasting.policy_machine machine
  simp only [Machine.hand, Machine.handUncaught, scopes_machine, tops, policies]
  split
  · split
    · rfl
    · split
      · rfl
      · split
        · rfl
        · rfl
        · exact congrArg (Outcome.done ()) (recasting.raise .policy
            { machine with monitor := machine.monitor.record (fault.attributedTo _) })
  · split <;> rfl

/-- A fault is handed on from a statement alike in a recast machine. -/
theorem handFrom (statement : NodeId) (fault : Fault) (machine : Machine World) :
    Machine.handFrom statement fault (recasting.machine machine) =
      (Machine.handFrom statement fault machine).mapState recasting.machine := by
  change Machine.hand fault ((recasting.machine machine).note
    (.handed statement machine.monitor.top? machine.scopes.length fault)) = _
  rw [recasting.note rfl]
  exact recasting.hand fault _

end Recasting

end Treewalk
