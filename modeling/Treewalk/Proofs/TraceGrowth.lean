import Treewalk.Activation

/-!
# What a run adds to the trace

No operation of the machine takes anything back from the trace, and none changes how the monitor was
set up. `Machine.Later` says so of two machines and also of what kind everything is that the trace
has gained. What the operations note by themselves is of few kinds: a failed write, the frame log as
it is where a node is entered or a breakpoint is hit, and things that show neither bindings nor
frames. There is one lemma for each operation.
-/

namespace Treewalk

variable {World : Type}

/-- What operations of the machine note while these frames are logged and only these nodes are
entered, apart from failed writes. -/
def Occurrence.NotedAmong (Sites : NodeId → Prop) (frames : List Frame) : Occurrence → Prop
  | .entered node seen => Sites node ∧ seen = frames
  | .paused snapshot _ => Sites snapshot.node ∧ snapshot.frames = frames
  | .unbound .. => False
  | .scriptOpened .. => False
  | .libraryOpened .. => False
  | _ => True

/-- Where everything may be noted, any node may be entered. -/
theorem Occurrence.freely {frames : List Frame} (occurrence : Occurrence)
    (_ : occurrence.NotedAmong (fun _ => True) frames) : True :=
  trivial

namespace Machine

/-- The second machine is what a run made of the first. It is set up the same, and what it knows
more of what happened is all of one kind. -/
structure Later (Allowed : Occurrence → Prop) (before after : Machine World) : Prop where
  trace : ∃ added, after.trace = added ++ before.trace ∧
    ∀ occurrence ∈ added, Allowed occurrence
  maxCallDepth : after.monitor.maxCallDepth = before.monitor.maxCallDepth
  pauseHook : after.monitor.pauseHook = before.monitor.pauseHook

namespace Later

variable {Allowed : Occurrence → Prop} {first second third before after : Machine World}

/-- What leaves the trace and the setup alone. -/
theorem of_same (trace : after.trace = before.trace)
    (maxCallDepth : after.monitor.maxCallDepth = before.monitor.maxCallDepth)
    (pauseHook : after.monitor.pauseHook = before.monitor.pauseHook) :
    Later Allowed before after :=
  ⟨⟨[], trace, List.forall_mem_nil _⟩, maxCallDepth, pauseHook⟩

/-- What notes one thing and leaves the setup alone. -/
theorem of_noted {occurrence : Occurrence} (allowed : Allowed occurrence)
    (trace : after.trace = occurrence :: before.trace)
    (maxCallDepth : after.monitor.maxCallDepth = before.monitor.maxCallDepth)
    (pauseHook : after.monitor.pauseHook = before.monitor.pauseHook) :
    Later Allowed before after :=
  ⟨⟨[occurrence], trace, by simpa using allowed⟩, maxCallDepth, pauseHook⟩

/-- Where nothing happens, nothing is gained. -/
theorem refl (machine : Machine World) : Later Allowed machine machine :=
  of_same rfl rfl rfl

/-- What happened in two stretches is what happened in both. -/
theorem trans (earlier : Later Allowed first second) (later : Later Allowed second third) :
    Later Allowed first third where
  trace := by
    obtain ⟨old, oldTrace, oldAllowed⟩ := earlier.trace
    obtain ⟨new, newTrace, newAllowed⟩ := later.trace
    refine ⟨new ++ old, by rw [newTrace, oldTrace, List.append_assoc], ?_⟩
    intro occurrence member
    rcases List.mem_append.mp member with late | early
    · exact newAllowed occurrence late
    · exact oldAllowed occurrence early
  maxCallDepth := later.maxCallDepth.trans earlier.maxCallDepth
  pauseHook := later.pauseHook.trans earlier.pauseHook

/-- What is allowed may be described more loosely. -/
theorem mono {Wider : Occurrence → Prop} (later : Later Allowed before after)
    (included : ∀ occurrence, Allowed occurrence → Wider occurrence) :
    Later Wider before after := by
  obtain ⟨added, trace, allowed⟩ := later.trace
  exact ⟨⟨added, trace, fun occurrence member => included occurrence (allowed occurrence member)⟩,
    later.maxCallDepth, later.pauseHook⟩

/-- What is later knows all that was known before. -/
theorem suffix (later : Later Allowed before after) : before.trace <:+ after.trace := by
  obtain ⟨added, trace, -⟩ := later.trace
  exact ⟨added, trace.symm⟩

/-- A note is all that is gained. -/
theorem note {occurrence : Occurrence} (allowed : Allowed occurrence) (machine : Machine World) :
    Later Allowed machine (machine.note occurrence) :=
  of_noted allowed rfl rfl rfl

/-- Opening bindings notes nothing. -/
theorem bind (activation : Activation) (machine : Machine World) :
    Later Allowed machine (activation.bind machine) := by
  simp only [Activation.bind]
  split <;> exact of_same rfl rfl rfl

/-- Taking bindings back notes nothing. -/
theorem unbind (activation : Activation) (machine : Machine World) :
    Later Allowed machine (activation.unbind machine) := by
  simp only [Activation.unbind]
  split <;> exact of_same rfl rfl rfl

/-- Logging the frame of a scope notes nothing. -/
theorem framed (activation : Activation) (machine : Machine World) :
    Later Allowed machine (activation.framed machine) :=
  ⟨(bind activation machine).trace, rfl, rfl⟩

/-- Dropping a frame notes nothing. -/
theorem exitFrame (machine : Machine World) : Later Allowed machine machine.exitFrame := by
  simp only [Machine.exitFrame, Monitor.dropFrame]
  split <;> exact of_same rfl rfl rfl

/-- Only the one failure of a write is noted. -/
theorem write {site : WriteSite} {cell : Cell} {machine : Machine World}
    (unbound : machine.store.bindings cell = [] → Allowed (.unbound site cell machine.store))
    (name : String) (value : Value) :
    Later Allowed machine (Machine.write site name cell value machine).state := by
  simp only [Machine.write, Store.replace?]
  cases bound : machine.store.bindings cell with
  | nil => exact note (unbound bound) machine
  | cons newest older => exact of_same rfl rfl rfl

/-- A move of the signal is noted with its mover. -/
theorem noteMove {mover : SignalMover} (allowed : ∀ raised, Allowed (.signalled mover raised))
    (earlier : Bool) (machine : Machine World) :
    Later Allowed machine (machine.noteMove mover earlier) := by
  simp only [Machine.noteMove]
  split
  · exact refl machine
  · exact note (allowed machine.stopped) machine

/-- Moving the signal notes nothing by itself. -/
theorem signal (raised : Bool) (machine : Machine World) :
    Later Allowed machine (machine.signal raised) := by
  simp only [Machine.signal]
  split <;> exact of_same rfl rfl rfl

/-- Raising the signal is noted if it was down. -/
theorem raise {mover : SignalMover} (allowed : ∀ raised, Allowed (.signalled mover raised))
    (machine : Machine World) : Later Allowed machine (machine.raise mover) :=
  (signal true machine).trans (noteMove allowed _ _)

/-- A look notes at most a move from outside. -/
theorem look (allowed : ∀ raised, Allowed (.signalled .outside raised))
    (machine : Machine World) : Later Allowed machine machine.look := by
  have counted : Later Allowed machine machine.countLook := of_same rfl rfl rfl
  rw [Machine.look_eq]
  split
  · exact counted
  · exact (counted.trans (signal _ _)).trans (noteMove allowed _ _)

section

variable (machine : Machine World) {Sites : NodeId → Prop}
  (allows : ∀ occurrence : Occurrence,
    occurrence.NotedAmong Sites machine.monitor.frames → Allowed occurrence)

include allows

/-- A pause is noted with the node and the frames that are logged. -/
theorem pause {node : NodeId} (site : Sites node) :
    Later Allowed machine (machine.pause node) := by
  have noted (action : PauseAction) : Later Allowed machine (machine.notePause node action) :=
    of_noted (allows (.paused (machine.snapshot node) action) ⟨site, rfl⟩) rfl rfl rfl
  simp only [Machine.pause]
  split
  · exact refl machine
  · next hook _ =>
    generalize hook _ = action
    cases action with
    | stop =>
      exact (noted .stop).trans (raise (fun raised => allows (.signalled _ raised) trivial) _)
    | resume => exact noted .resume

/-- Entering a node is noted before the pause there. -/
theorem enter {node : NodeId} (site : Sites node) :
    Later Allowed machine (machine.enter node) := by
  have pushed : Later Allowed machine (machine.push node) :=
    of_noted (allows (.entered node machine.monitor.frames) ⟨site, rfl⟩) rfl rfl rfl
  have paused : Later Allowed (machine.push node) ((machine.push node).pause node) :=
    pause (machine.push node) allows site
  dsimp only [Machine.enter]
  split
  · exact pushed.trans paused
  · exact pushed

/-- Leaving a node is noted. -/
theorem leave (node : NodeId) : Later Allowed machine (machine.leave node) :=
  of_noted (allows (.left node machine.monitor.top?) trivial) rfl rfl rfl

/-- Leaving a scope is noted for its call site. -/
theorem exit (activation : Activation) : Later Allowed machine (activation.exit machine) := by
  simp only [Activation.exit]
  split
  · exact ((leave machine allows _).trans (exitFrame _)).trans (unbind activation _)
  · exact (exitFrame machine).trans (unbind activation _)

/-- A refusal is noted with its limit. -/
theorem refused (activation : Activation) (limit : Nat) :
    Later Allowed machine (activation.refused limit machine) := by
  have noted := note (allows (.refused activation.layout.owner limit) trivial)
    (activation.bind machine)
  exact ((bind activation machine).trans noted).trans (unbind activation _)

/-- A construct is noted when it is invoked, and a move of the signal afterwards. -/
theorem invoke (construct : Construct World) (arguments : List Value) :
    Later Allowed machine (Machine.invoke construct arguments machine).state := by
  have noted (host : Host World) : Later Allowed machine
      { machine.note (.invoked construct.name arguments machine.stopped) with host } :=
    of_noted (allows (.invoked construct.name arguments machine.stopped) trivial) rfl rfl rfl
  have moved (raised : Bool) : Allowed (.signalled (.construct construct.name) raised) :=
    allows _ trivial
  simp only [Machine.invoke]
  split
  · exact (noted _).trans (noteMove moved _ _)
  · exact (noted _).trans (noteMove moved _ _)

/-- Handing a fault on notes at most that the policy raises the signal. -/
theorem hand (fault : Fault) : Later Allowed machine (Machine.hand fault machine).state := by
  have recorded (fault : Fault) :
      Later Allowed machine { machine with monitor := machine.monitor.record fault } :=
    of_same rfl rfl rfl
  simp only [Machine.hand, handUncaught]
  split
  · split
    · exact refl machine
    · split
      · exact refl machine
      · split
        · exact refl machine
        · exact recorded _
        · exact (recorded _).trans (raise (fun raised => allows (.signalled _ raised) trivial) _)
  · split
    · exact refl machine
    · exact of_same rfl rfl rfl

/-- Handing a fault on from a statement notes that first. -/
theorem handFrom (statement : NodeId) (fault : Fault) :
    Later Allowed machine (Machine.handFrom statement fault machine).state := by
  let occurrence : Occurrence :=
    .handed statement machine.monitor.top? machine.scopes.length fault
  have noted : Later Allowed machine (machine.note occurrence) :=
    note (allows occurrence trivial) machine
  exact noted.trans (hand (machine.note occurrence) allows fault)

end

/-- The call site is entered while the frame of the scope is logged. -/
theorem opened (activation : Activation) (machine : Machine World) {Sites : NodeId → Prop}
    (allows : ∀ occurrence : Occurrence,
      occurrence.NotedAmong Sites (activation.framed machine).monitor.frames → Allowed occurrence)
    (sites : ∀ site ∈ activation.callSite, Sites site) :
    Later Allowed machine (activation.opened machine) := by
  simp only [Activation.opened]
  split
  · next site called => exact (framed activation machine).trans (enter _ allows (sites site called))
  · exact framed activation machine

end Later

end Machine

end Treewalk
