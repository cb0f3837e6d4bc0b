import Treewalk.Proofs.PolicyChanges
import Treewalk.Proofs.Sightings

/-!
# Changes apart from a run

The open error scopes and the trace are read by few operations of the machine. A change that
concerns only these two is apart from the rest (`Machine.Apart`): whether it is made before or after
any other operation comes to the same, one lemma for each of them. The operations that do read the
scopes, routing a fault and looking for a recorded one, are left to the change in question.
-/

namespace Treewalk.Machine

variable {World : Type}

/-- A change that leaves bindings, monitor and host alone, and beside which is noted whatever the
operations note by themselves. -/
structure Apart (change : Machine World → Machine World) : Prop where
  aside (machine : Machine World) (store : Store) (monitor : Monitor) (host : Host World) :
    change { machine with store, monitor, host } = { change machine with store, monitor, host }
  note (machine : Machine World) {occurrence : Occurrence}
    (routine : occurrence.isRoutine = true) :
    change (machine.note occurrence) = (change machine).note occurrence
  countLook (machine : Machine World) : change machine.countLook = (change machine).countLook
  moves (machine : Machine World) :
    (change machine).outside (change machine).looks = machine.outside machine.looks

namespace Apart

variable {change : Machine World → Machine World} (apart : Apart change)
  (machine : Machine World)

include apart

/-- All that changes is what is set again here. -/
theorem self : change machine =
    { change machine with
      store := machine.store, monitor := machine.monitor, host := machine.host } :=
  apart.aside machine machine.store machine.monitor machine.host

@[simp] theorem store : (change machine).store = machine.store := by
  rw [apart.self]

@[simp] theorem monitor : (change machine).monitor = machine.monitor := by
  rw [apart.self]

@[simp] theorem host : (change machine).host = machine.host := by
  rw [apart.self]

/-- The signal belongs to the monitor or to the host, so the change does not touch it. -/
@[simp] theorem stopped : (change machine).stopped = machine.stopped := by
  simp only [Machine.stopped, apart.monitor, apart.host]

/-- A pause hook gets to see none of what changes. -/
@[simp] theorem snapshot (node : NodeId) :
    (change machine).snapshot node = machine.snapshot node := by
  simp only [Machine.snapshot, apart.monitor, apart.stopped, apart.store]

/-- The signal moves on a changed machine as on the machine itself. -/
theorem signal (raised : Bool) :
    (change machine).signal raised = change (machine.signal raised) := by
  simp only [Machine.signal, apart.store, apart.monitor, apart.host]
  split
  · exact (apart.aside machine _ _ _).symm
  · exact (apart.aside machine _ _ _).symm

theorem noteMove (mover : SignalMover) (earlier : Bool) :
    (change machine).noteMove mover earlier = change (machine.noteMove mover earlier) := by
  rw [Machine.noteMove, Machine.noteMove, apply_ite change, apart.stopped, apart.note _ rfl]

/-- Raising the signal notes it on top of a changed trace. -/
theorem raise (mover : SignalMover) :
    (change machine).raise mover = change (machine.raise mover) := by
  rw [Machine.raise, apart.signal, apart.noteMove, apart.stopped, Machine.raise]

theorem moveOutside (raised : Bool) :
    (change machine).moveOutside raised = change (machine.moveOutside raised) := by
  rw [Machine.moveOutside, apart.signal, apart.noteMove, apart.stopped, Machine.moveOutside]

/-- A look finds the same move from outside. -/
theorem look : (change machine).look = change machine.look := by
  rw [look_eq, look_eq, apart.moves]
  split
  · exact (apart.countLook machine).symm
  · rw [← apart.countLook, apart.moveOutside]

/-- What is kept of a pause does not depend on the change. -/
theorem notePause (node : NodeId) (action : PauseAction) :
    (change machine).notePause node action = change (machine.notePause node action) := by
  simp only [Machine.notePause, apart.snapshot, apart.store, apart.monitor, apart.host]
  rw [apart.note _ rfl]
  exact congrArg (Machine.note _) (apart.aside machine _ _ _).symm

theorem obey (action : PauseAction) :
    (change machine).obey action = change (machine.obey action) := by
  cases action with
  | stop => exact apart.raise machine .pauseHook
  | resume => rfl

/-- A pause hook gives the same answer before and after the change. -/
theorem pause (node : NodeId) : (change machine).pause node = change (machine.pause node) := by
  simp only [Machine.pause, apart.monitor, apart.snapshot, apart.notePause, apart.obey]
  split <;> rfl

theorem push (node : NodeId) : (change machine).push node = change (machine.push node) := by
  simp only [Machine.push, apart.store, apart.monitor, apart.host]
  rw [apart.note _ rfl]
  exact congrArg (Machine.note _) (apart.aside machine _ _ _).symm

/-- Entering a node commutes with the change, with the pause there. -/
theorem enter (node : NodeId) : (change machine).enter node = change (machine.enter node) := by
  simp only [Machine.enter, apart.push, apart.pause, apart.monitor]
  split <;> rfl

theorem leave (node : NodeId) : (change machine).leave node = change (machine.leave node) := by
  simp only [Machine.leave, apart.store, apart.monitor, apart.host]
  rw [apart.note _ rfl]
  exact congrArg (Machine.note _) (apart.aside machine _ _ _).symm

/-- A frame is refused on the changed machine exactly if it is on the machine itself. -/
theorem enterFrame (scope : Scope) (entries : List Variable) :
    Machine.enterFrame scope entries (change machine) =
      (Machine.enterFrame scope entries machine).mapState change := by
  simp only [Machine.enterFrame, apart.store, apart.monitor, apart.host]
  split
  · exact congrArg (Outcome.failed _) (apart.note machine rfl).symm
  · exact congrArg (Outcome.done ()) (apart.aside machine _ _ _).symm

theorem exitFrame : (change machine).exitFrame = change machine.exitFrame := by
  simp only [Machine.exitFrame, apart.store, apart.monitor, apart.host]
  exact (apart.aside machine _ _ _).symm

theorem bind (activation : Activation) :
    activation.bind (change machine) = change (activation.bind machine) := by
  simp only [Activation.bind, apart.store, apart.monitor, apart.host]
  split
  · exact (apart.aside machine _ _ _).symm
  · rfl

theorem unbind (activation : Activation) :
    activation.unbind (change machine) = change (activation.unbind machine) := by
  simp only [Activation.unbind, apart.store, apart.monitor, apart.host]
  split
  · exact (apart.aside machine _ _ _).symm
  · rfl

theorem framed (activation : Activation) :
    activation.framed (change machine) = change (activation.framed machine) := by
  simp only [Activation.framed, apart.bind, apart.store, apart.monitor, apart.host]
  exact (apart.aside (activation.bind machine) _ _ _).symm

/-- A scope is opened alike before and after the change. -/
theorem opened (activation : Activation) :
    activation.opened (change machine) = change (activation.opened machine) := by
  simp only [Activation.opened, apart.framed]
  split
  · exact apart.enter _ _
  · rfl

theorem refused (activation : Activation) (limit : Nat) :
    activation.refused limit (change machine) = change (activation.refused limit machine) := by
  rw [Activation.refused, apart.bind, ← apart.note _ rfl, apart.unbind, Activation.refused]

/-- Entering a scope, be it refused or not. -/
theorem enterScope (activation : Activation) :
    activation.enter (change machine) = (activation.enter machine).mapState change := by
  rw [Activation.enter_apply, Activation.enter_apply, apart.monitor]
  split
  · exact congrArg (Outcome.failed _) (apart.refused machine activation _)
  · exact congrArg (Outcome.done ()) (apart.opened machine activation)

theorem exit (activation : Activation) :
    activation.exit (change machine) = change (activation.exit machine) := by
  simp only [Activation.exit]
  split
  · rw [apart.leave, apart.exitFrame, apart.unbind]
  · rw [apart.exitFrame, apart.unbind]

/-- A write succeeds or fails on the store, which is not changed. -/
theorem write (site : WriteSite) (name : String) (cell : Cell) (value : Value) :
    Machine.write site name cell value (change machine) =
      (Machine.write site name cell value machine).mapState change := by
  simp only [Machine.write, apart.store, apart.monitor, apart.host]
  split
  · exact congrArg (Outcome.done ()) (apart.aside machine _ _ _).symm
  · exact congrArg (Outcome.failed _) (apart.note machine rfl).symm

/-- A construct works on the host, which is not changed. -/
theorem invoke (construct : Construct World) (arguments : List Value) :
    Machine.invoke construct arguments (change machine) =
      (Machine.invoke construct arguments machine).mapState change := by
  let occurrence : Occurrence := .invoked construct.name arguments machine.stopped
  have noted (host : Host World) :
      { (change machine).note occurrence with host } =
        change { machine.note occurrence with host } := by
    have same := apart.aside (machine.note occurrence) machine.store machine.monitor host
    rw [apart.note machine rfl] at same
    simp only [Machine.note, apart.store, apart.monitor] at same ⊢
    exact same.symm
  have left (host : Host World) :
      { (change machine).note occurrence with host }.noteMove (.construct construct.name)
          machine.stopped =
        change ({ machine.note occurrence with host }.noteMove (.construct construct.name)
          machine.stopped) := by
    rw [noted, apart.noteMove]
  simp only [Machine.invoke, apart.host, apart.stopped, left, occurrence]
  rcases construct.invoke arguments machine.host with ⟨_ | value, host⟩ <;> rfl

end Apart

end Treewalk.Machine
