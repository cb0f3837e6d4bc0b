import Treewalk.Proofs.Contract

/-!
# What is recorded

Faults are recorded in two places: by the monitor when nobody caught them, and by the error scopes.
Only routing a fault records one. `Machine.SameRecords` says that two machines have the same
records, and one lemma for each other operation of the machine shows that it leaves them alone.

Some of a machine is settled before a run and no operation changes it at all:
`Machine.SameSettings`.
-/

namespace Treewalk.Machine

variable {World Result : Type}

/-- What is settled before a run: the policy for faults that nobody caught, the pause hook, and
what comes from outside. -/
structure SameSettings (before after : Machine World) : Prop where
  policy : after.monitor.policy = before.monitor.policy
  pauseHook : after.monitor.pauseHook = before.monitor.pauseHook
  outside : after.outside = before.outside

/-- Settings that stay the same twice stay the same. -/
theorem SameSettings.trans {first second third : Machine World}
    (earlier : SameSettings first second) (later : SameSettings second third) :
    SameSettings first third where
  policy := later.policy.trans earlier.policy
  pauseHook := later.pauseHook.trans earlier.pauseHook
  outside := later.outside.trans earlier.outside

/-- The monitor has recorded the same faults, and the same error scopes are open. -/
structure SameRecords (before after : Machine World) : Prop extends SameSettings before after where
  errors : after.monitor.errors = before.monitor.errors
  scopes : after.scopes = before.scopes

namespace SameRecords

/-- Nothing is recorded where nothing happens. -/
theorem refl (machine : Machine World) : SameRecords machine machine :=
  ⟨⟨rfl, rfl, rfl⟩, rfl, rfl⟩

/-- Two stretches that record nothing record nothing together. -/
theorem trans {first second third : Machine World} (earlier : SameRecords first second)
    (later : SameRecords second third) : SameRecords first third where
  toSameSettings := earlier.toSameSettings.trans later.toSameSettings
  errors := later.errors.trans earlier.errors
  scopes := later.scopes.trans earlier.scopes

/-- A note is no record of a failure. -/
theorem note (machine : Machine World) (occurrence : Occurrence) :
    SameRecords machine (machine.note occurrence) :=
  { refl machine with }

/-- The note of a moved signal is no record of a failure. -/
theorem noteMove (mover : SignalMover) (earlier : Bool) (machine : Machine World) :
    SameRecords machine (machine.noteMove mover earlier) := by
  simp only [Machine.noteMove]
  split
  · exact refl machine
  · exact note machine _

/-- Moving the signal records nothing, whoever owns it. -/
theorem signal (raised : Bool) (machine : Machine World) :
    SameRecords machine (machine.signal raised) := by
  simp only [Machine.signal]
  split
  · exact { refl machine with }
  · exact { refl machine with }

/-- Raising the signal records nothing. -/
theorem raise (mover : SignalMover) (machine : Machine World) :
    SameRecords machine (machine.raise mover) :=
  (signal true machine).trans (noteMove mover machine.stopped _)

/-- A look at the stop signal records nothing. -/
theorem look (machine : Machine World) : SameRecords machine machine.look := by
  have counted : SameRecords machine machine.countLook := { refl machine with }
  rw [look_eq]
  split
  · exact counted
  · exact (counted.trans (signal _ _)).trans (noteMove .outside _ _)

/-- What is remembered of a pause is no failure. -/
theorem pause (node : NodeId) (machine : Machine World) :
    SameRecords machine (machine.pause node) := by
  simp only [Machine.pause]
  split
  · exact refl machine
  · next hook _ =>
    generalize hook _ = action
    have noted : SameRecords machine (machine.notePause node action) := { refl machine with }
    cases action with
    | stop => exact noted.trans (raise .pauseHook _)
    | resume => exact noted

/-- Entering a node records nothing, with the pause there. -/
theorem enter (node : NodeId) (machine : Machine World) :
    SameRecords machine (machine.enter node) := by
  have pushed : SameRecords machine (machine.push node) := { refl machine with }
  dsimp only [Machine.enter]
  split
  · exact pushed.trans (pause node _)
  · exact pushed

/-- Leaving a node records nothing. -/
theorem leave (node : NodeId) (machine : Machine World) :
    SameRecords machine (machine.leave node) :=
  { refl machine with }

/-- Dropping a frame records nothing. -/
theorem exitFrame (machine : Machine World) : SameRecords machine machine.exitFrame := by
  simp only [Machine.exitFrame, Monitor.dropFrame]
  split
  · exact refl machine
  · exact { refl machine with }

/-- Bindings are opened without a record. -/
theorem bind (activation : Activation) (machine : Machine World) :
    SameRecords machine (activation.bind machine) := by
  simp only [Activation.bind]
  split
  · exact { refl machine with }
  · exact refl machine

/-- Taking bindings back records nothing. -/
theorem unbind (activation : Activation) (machine : Machine World) :
    SameRecords machine (activation.unbind machine) := by
  simp only [Activation.unbind]
  split
  · exact { refl machine with }
  · exact refl machine

/-- Opening a scope records nothing, with the pause at its call site. -/
theorem opened (activation : Activation) (machine : Machine World) :
    SameRecords machine (activation.opened machine) := by
  have framed : SameRecords machine (activation.framed machine) :=
    { refl machine with
      outside := (bind activation machine).outside
      scopes := (bind activation machine).scopes }
  simp only [Activation.opened]
  split
  · exact framed.trans (enter _ _)
  · exact framed

/-- Leaving a scope records nothing. -/
theorem exit (activation : Activation) (machine : Machine World) :
    SameRecords machine (activation.exit machine) := by
  simp only [Activation.exit]
  split
  · exact ((leave _ machine).trans (exitFrame _)).trans (unbind activation _)
  · exact (exitFrame machine).trans (unbind activation _)

/-- A refusal is noted and not recorded. -/
theorem refused (activation : Activation) (limit : Nat) (machine : Machine World) :
    SameRecords machine (activation.refused limit machine) :=
  ((bind activation machine).trans (note _ _)).trans (unbind activation _)

/-- A failed write is noted and not recorded. -/
theorem write (site : WriteSite) (name : String) (cell : Cell) (value : Value)
    (machine : Machine World) :
    SameRecords machine (Machine.write site name cell value machine).state := by
  simp only [Machine.write]
  split
  · exact { refl machine with }
  · exact note machine _

/-- A construct may fail and may move the stop signal, but it records nothing. -/
theorem invoke (construct : Construct World) (arguments : List Value) (machine : Machine World) :
    SameRecords machine (Machine.invoke construct arguments machine).state := by
  have noted (host : Host World) :
      SameRecords machine
        { machine.note (.invoked construct.name arguments machine.stopped) with host } :=
    { refl machine with }
  simp only [Machine.invoke]
  split
  · exact (noted _).trans (noteMove _ _ _)
  · exact (noted _).trans (noteMove _ _ _)

end SameRecords

end Treewalk.Machine
