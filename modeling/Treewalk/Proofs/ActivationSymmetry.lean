import Treewalk.Proofs.Bindings
import Treewalk.Proofs.Contract
import Treewalk.Tree.Builder

/-!
# Activation symmetry

Whatever a finished evaluation came to, the call stack, the frame log and the call depth are what
they were, every node that was left meanwhile was the one on top of the call stack, and of the
bindings only the newest of each declaration may have changed. `Machine.Restored` says so of two
machines, `Machine.restoring` makes it a contract, and one lemma for each operation of the machine
shows that the contract is upheld.

Running a script or initializing a library may leave bindings behind, so only the part that
concerns the monitor, `Machine.Balanced`, is claimed of them.
-/

namespace Treewalk

variable {World Result : Type}

/-- A departure takes off the call stack exactly the node that is left. -/
def Occurrence.Matched : Occurrence → Prop
  | .left node taken => taken = some node
  | _ => True

namespace Machine

/-- The stacks of the monitor are as they were, and every departure in between was matched. -/
structure Balanced (before after : Machine World) : Prop where
  stack : after.monitor.stack = before.monitor.stack
  frames : after.monitor.frames = before.monitor.frames
  callDepth : after.monitor.callDepth = before.monitor.callDepth
  departures : ∃ added, after.trace = added ++ before.trace ∧
    ∀ occurrence ∈ added, occurrence.Matched

/-- The machine is balanced, and at most the newest binding of each declaration has changed. -/
structure Restored (before after : Machine World) : Prop extends Balanced before after where
  bindings : before.store.SameBelowTop after.store

namespace Balanced

/-- Where nothing happens, the departures are those there were. -/
theorem refl (machine : Machine World) : Balanced machine machine where
  stack := rfl
  frames := rfl
  callDepth := rfl
  departures := ⟨[], rfl, fun _ member => nomatch member⟩

/-- Departures of two stretches are those of both. -/
theorem trans {first second third : Machine World} (earlier : Balanced first second)
    (later : Balanced second third) : Balanced first third where
  stack := later.stack.trans earlier.stack
  frames := later.frames.trans earlier.frames
  callDepth := later.callDepth.trans earlier.callDepth
  departures := by
    obtain ⟨earlierAdded, earlierTrace, earlierMatched⟩ := earlier.departures
    obtain ⟨laterAdded, laterTrace, laterMatched⟩ := later.departures
    refine ⟨laterAdded ++ earlierAdded, ?_, ?_⟩
    · rw [laterTrace, earlierTrace, List.append_assoc]
    · intro occurrence member
      rcases List.mem_append.mp member with late | early
      · exact laterMatched occurrence late
      · exact earlierMatched occurrence early

end Balanced

/-- The single operations do not touch the stacks: of the monitor only the recorded faults and the
signal change, and no node is left. -/
structure Quiet (before after : Machine World) : Prop where
  monitor : ∃ errors signal, after.monitor = { before.monitor with errors, signal }
  trace : ∃ added, after.trace = added ++ before.trace ∧ ∀ occurrence ∈ added, occurrence.Matched
  bindings : before.store.SameBelowTop after.store

namespace Quiet

theorem refl (machine : Machine World) : Quiet machine machine where
  monitor := ⟨_, _, rfl⟩
  trace := ⟨[], rfl, fun _ member => nomatch member⟩
  bindings := Store.SameBelowTop.refl machine.store

/-- What is quiet restores whatever a scope has to restore. -/
theorem restored {before after : Machine World} (quiet : Quiet before after) :
    Restored before after := by
  obtain ⟨errors, signal, monitor⟩ := quiet.monitor
  exact {
    stack := by rw [monitor]
    frames := by rw [monitor]
    callDepth := by rw [monitor]
    departures := quiet.trace
    bindings := quiet.bindings }

/-- A quiet step has not paused. -/
theorem pauses {before after : Machine World} (quiet : Quiet before after) :
    after.monitor.pauses = before.monitor.pauses := by
  obtain ⟨errors, signal, monitor⟩ := quiet.monitor
  rw [monitor]

/-- Quiet steps in a row are quiet. -/
theorem trans {first second third : Machine World} (earlier : Quiet first second)
    (later : Quiet second third) : Quiet first third where
  monitor := by
    obtain ⟨_, _, earlierMonitor⟩ := earlier.monitor
    obtain ⟨errors, signal, laterMonitor⟩ := later.monitor
    exact ⟨errors, signal, by rw [laterMonitor, earlierMonitor]⟩
  trace := (earlier.restored.toBalanced.trans later.restored.toBalanced).departures
  bindings := earlier.bindings.trans later.bindings

/-- Anything may be noted that is no departure. -/
theorem note (machine : Machine World) {occurrence : Occurrence}
    (matched : occurrence.Matched) : Quiet machine (machine.note occurrence) where
  monitor := ⟨_, _, rfl⟩
  trace := ⟨[occurrence], rfl, by simpa using matched⟩
  bindings := Store.SameBelowTop.refl machine.store

/-- The stop signal is no part of what has to be restored. -/
theorem signal (raised : Bool) (machine : Machine World) :
    Quiet machine (machine.signal raised) := by
  simp only [Machine.signal]
  split
  · exact { Quiet.refl machine with }
  · exact { Quiet.refl machine with monitor := ⟨_, _, rfl⟩ }

/-- The note that the stop signal has moved is no departure. -/
theorem noteMove (mover : SignalMover) (earlier : Bool) (machine : Machine World) :
    Quiet machine (machine.noteMove mover earlier) := by
  simp only [Machine.noteMove]
  split
  · exact Quiet.refl machine
  · exact note machine trivial

theorem raise (mover : SignalMover) (machine : Machine World) :
    Quiet machine (machine.raise mover) :=
  (signal true machine).trans (noteMove mover machine.stopped _)

/-- What comes from outside can move the signal, and nothing else. -/
theorem moveOutside (machine : Machine World) (raised : Bool) :
    Quiet machine (machine.moveOutside raised) :=
  (signal raised machine).trans (noteMove .outside machine.stopped _)

/-- All that obeying a pause hook can do is raise the stop signal. -/
theorem obey (action : PauseAction) (machine : Machine World) :
    Quiet machine (machine.obey action) := by
  cases action with
  | stop => exact raise .pauseHook machine
  | resume => exact Quiet.refl machine

end Quiet

/-- Changing nothing but what the single operations change. -/
def quietly : Contract (Machine World) where
  Raised _ := True
  Finished := Quiet
  Reached := Quiet
  refl := Quiet.refl
  trans := Quiet.trans
  reached_of_finished quiet := quiet
  reached_trans := Quiet.trans

/-- Looking at the stop signal counts the look and perhaps moves the signal, and nothing else. -/
theorem quietly_poll : quietly.Kept (poll : Exec (Machine World) Bool) :=
  Contract.kept_poll (fun before => { Quiet.refl before with }) Quiet.moveOutside

/-- A write overwrites the newest binding of a cell and leaves those below alone. -/
theorem quietly_write (site : WriteSite) (name : String) (cell : Cell) (value : Value) :
    quietly.Kept (write site name cell value : Exec (Machine World) Unit) := by
  intro before
  simp only [write]
  split
  · next store replaced =>
    exact { Quiet.refl before with bindings := Store.SameBelowTop.of_replace? replaced }
  · exact ⟨trivial, Quiet.note before trivial⟩

/-- A construct gets to see its host and no more of the machine. -/
theorem quietly_invoke (construct : Construct World) (arguments : List Value) :
    quietly.Kept (invoke construct arguments) := by
  intro before
  have noted : Quiet before (before.note (.invoked construct.name arguments before.stopped)) :=
    Quiet.note before trivial
  have left (host : Host World) :
      Quiet before
        { before.note (.invoked construct.name arguments before.stopped) with host } :=
    { noted with }
  simp only [invoke]
  split
  · exact (left _).trans (Quiet.noteMove _ _ _)
  · exact ⟨trivial, (left _).trans (Quiet.noteMove _ _ _)⟩

/-- Whoever routes a fault passes it on, perhaps attributed, and changes nothing, or absorbs it. -/
theorem hand_cases (fault : Fault) (machine : Machine World) :
    (∃ passed, passed.cause = fault.cause ∧ hand fault machine = .failed passed machine) ∨
      ∃ after, hand fault machine = .done () after ∧ Quiet machine after := by
  have recorded (attributed : Fault) :
      Quiet machine { machine with monitor := machine.monitor.record attributed } :=
    { Quiet.refl machine with monitor := ⟨_, _, rfl⟩ }
  simp only [hand, handUncaught]
  split
  · split
    · exact Or.inl ⟨fault, rfl, rfl⟩
    · split
      · exact Or.inl ⟨fault.attributedTo machine.monitor.top?, rfl, rfl⟩
      · split
        · exact Or.inl ⟨fault.attributedTo machine.monitor.top?, rfl, rfl⟩
        · exact Or.inr ⟨_, rfl, recorded _⟩
        · exact Or.inr ⟨_, rfl, (recorded _).trans (Quiet.raise .policy _)⟩
  · split
    · exact Or.inl ⟨fault, rfl, rfl⟩
    · exact Or.inr ⟨_, rfl, { Quiet.refl machine with }⟩

/-- Handing a fault on records it in an error scope or in the monitor. -/
theorem quietly_hand (fault : Fault) : quietly.Kept (hand fault : Exec (Machine World) Unit) := by
  intro machine
  rcases hand_cases fault machine with ⟨passed, -, ended⟩ | ⟨after, ended, quiet⟩
  · rw [ended]
    exact ⟨trivial, Quiet.refl machine⟩
  · rw [ended]
    exact quiet

theorem quietly_handFrom (statement : NodeId) (fault : Fault) :
    quietly.Kept (handFrom statement fault : Exec (Machine World) Unit) := by
  apply Contract.kept_state
  intro machine
  apply Contract.kept_bind
  · exact Contract.kept_update fun before => Quiet.note before trivial
  · intro _
    exact quietly_hand fault

namespace Restored

theorem refl (machine : Machine World) : Restored machine machine :=
  (Quiet.refl machine).restored

/-- What is restored twice is restored. -/
theorem trans {first second third : Machine World} (earlier : Restored first second)
    (later : Restored second third) : Restored first third where
  toBalanced := earlier.toBalanced.trans later.toBalanced
  bindings := earlier.bindings.trans later.bindings

theorem note (machine : Machine World) {occurrence : Occurrence}
    (matched : occurrence.Matched) : Restored machine (machine.note occurrence) :=
  (Quiet.note machine matched).restored

/-- A pause hook sees the machine and answers, so a pause restores everything. -/
theorem pause (node : NodeId) (machine : Machine World) :
    Restored machine (machine.pause node) := by
  simp only [Machine.pause]
  split
  · exact Restored.refl machine
  · next hook _ =>
    -- What the hook has seen is no part of the stacks.
    have seen (pauses : List Snapshot) :
        Restored machine { machine with monitor := { machine.monitor with pauses } } :=
      { Restored.refl machine with }
    have noted (action : PauseAction) : Restored machine (machine.notePause node action) :=
      (seen _).trans (note _ trivial)
    exact (noted _).trans (Quiet.obey _ _).restored

/-- A breakpoint on the way in does not show in the stacks. -/
theorem enter (node : NodeId) (machine : Machine World) :
    Restored (machine.push node) (machine.enter node) := by
  dsimp only [Machine.enter]
  split
  · exact pause node _
  · exact Restored.refl _

/-- Leaving a node undoes entering it. -/
theorem leave {node : NodeId} {before after : Machine World}
    (inside : Restored (before.push node) after) : Restored before (after.leave node) where
  stack := by
    change after.monitor.stack.pop = before.monitor.stack
    rw [inside.stack]
    exact CallStack.pop_push before.monitor.stack node
  frames := inside.frames
  callDepth := inside.callDepth
  departures := by
    obtain ⟨added, trace, matched⟩ := inside.departures
    have top : after.monitor.top? = some node := by
      rw [Monitor.top?, inside.stack]
      rfl
    refine ⟨.left node after.monitor.top? :: added ++
      [.entered node before.monitor.frames], ?_, ?_⟩
    · change _ :: after.trace = _
      rw [trace, List.append_assoc]
      rfl
    · intro occurrence member
      rcases List.mem_append.mp member with inner | entering
      · rcases List.mem_cons.mp inner with rfl | earlier
        · exact top
        · exact matched occurrence earlier
      · rw [List.mem_singleton.mp entering]
        trivial
  bindings := inside.bindings

/-- Dropping the frame of a scope and closing its bindings undoes entering it. -/
theorem exitFrame {activation : Activation} {before after : Machine World}
    (inside : Restored (activation.framed before) after) :
    Restored before (activation.unbind after.exitFrame) := by
  have logged : after.monitor.frames =
      ⟨activation.layout.owner, before.monitor.stack.depth, activation.layout.debugInfo⟩ ::
        before.monitor.frames := inside.frames
  have counted : after.monitor.callDepth =
      if activation.layout.owner.isFunction then before.monitor.callDepth + 1
      else before.monitor.callDepth := inside.callDepth
  have dropped : after.exitFrame.monitor =
      { after.monitor with
        frames := before.monitor.frames, callDepth := before.monitor.callDepth } := by
    simp only [Machine.exitFrame, Monitor.dropFrame, logged, counted]
    split <;> simp
  have balanced : Balanced before after.exitFrame := by
    obtain ⟨added, trace, matched⟩ := inside.departures
    have opened : (activation.framed before).trace = before.trace := by
      simp only [Activation.framed, Activation.bind]
      split <;> rfl
    exact {
      stack := by
        rw [dropped]
        exact inside.stack
      frames := by rw [dropped]
      callDepth := by rw [dropped]
      departures := ⟨added, opened ▸ trace, matched⟩ }
  have bindings := inside.bindings
  simp only [Activation.framed, Activation.bind] at bindings
  simp only [Activation.unbind]
  by_cases owns : activation.ownsBindings
  · simp only [owns, if_true] at bindings ⊢
    exact { balanced with bindings := bindings.unbind }
  · simp only [owns] at bindings ⊢
    exact { balanced with bindings := bindings }

/-- Leaving a scope undoes entering it. -/
theorem exit {activation : Activation} {before after : Machine World}
    (inside : Restored (activation.opened before) after) :
    Restored before (activation.exit after) := by
  simp only [Activation.opened] at inside
  split at inside
  · next site found =>
    simp only [Activation.exit, found]
    exact exitFrame (leave ((enter site _).trans inside))
  · next found =>
    simp only [Activation.exit, found]
    exact exitFrame inside

/-- A refused scope leaves nothing behind. -/
theorem refused (activation : Activation) (limit : Nat) (machine : Machine World) :
    Restored machine (activation.refused limit machine) := by
  simp only [Activation.refused, Activation.bind, Activation.unbind]
  by_cases owns : activation.ownsBindings
  · simp only [owns, if_true]
    have noted := note { machine with store := machine.store.bind activation.layout }
      (show (Occurrence.refused activation.layout.owner limit).Matched from trivial)
    exact {
      stack := rfl
      frames := rfl
      callDepth := rfl
      departures := noted.departures
      bindings := Store.SameBelowTop.of_bindings fun cell =>
        Store.bindings_unbind_bind machine.store activation.layout cell }
  · simp only [owns]
    exact note machine trivial

end Restored

/-- Finishing with everything restored. -/
def restoring : Contract (Machine World) where
  Raised _ := True
  Finished := Restored
  Reached _ _ := True
  refl := Restored.refl
  trans := Restored.trans
  reached_of_finished _ := trivial
  reached_trans _ _ := trivial

/-- What is quiet all along is symmetric in any case. -/
theorem restoring_of_quietly {body : Exec (Machine World) Result} (kept : quietly.Kept body) :
    restoring.Kept body :=
  kept.mono (fun _ raised => raised) (fun _ _ => Quiet.restored) (fun _ _ _ => trivial)

/-- A body run inside a scope restores what entering the scope changed. -/
theorem restoring_within (activation : Activation) {body : Exec (Machine World) Result}
    (bodyKept : restoring.Kept body) : restoring.Kept (activation.within body) :=
  fun before => Contract.fulfilled_within activation (bodyKept _) (fun _ => trivial)
    (fun limit => Restored.refused activation limit before)
    (fun _ => Restored.exit) (fun _ _ => trivial)

/-- Frames that are logged around a body are dropped again. -/
theorem restoring_withinFrames (layouts : List Layout) {body : Exec (Machine World) Result}
    (bodyKept : restoring.Kept body) : restoring.Kept (Activation.withinFrames layouts body) := by
  induction layouts with
  | nil => exact bodyKept
  | cons layout rest inductionHypothesis => exact restoring_within _ inductionHypothesis

/-- Every operation of the machine restores what it changes for a while. -/
theorem restoring_upheld (program : Program World) : restoring.Upheld program where
  raises_ofCause _ := trivial
  poll := restoring_of_quietly quietly_poll
  write site name cell value := restoring_of_quietly (quietly_write site name cell value)
  invoke construct arguments := restoring_of_quietly (quietly_invoke construct arguments)
  hand _ := restoring_of_quietly (quietly_hand _)
  handFrom statement fault _ _ := restoring_of_quietly (quietly_handFrom statement fault)
  tracked node _ _ kept :=
    Contract.kept_tracked node kept
      (fun before _ inside => Restored.leave ((Restored.enter node before).trans inside))
      (fun _ _ _ => trivial)
  protect kept :=
    Contract.kept_protect kept (fun _ _ inside => { inside with }) (fun _ _ _ => trivial)
  call _ _ _ _ _ _ kept := restoring_within _ kept

end Machine

/-- Finishing with a balanced machine. -/
def Workspace.balancing : Contract (Workspace World) where
  Raised _ := True
  Finished before after := before.machine.Balanced after.machine
  Reached _ _ := True
  refl workspace := Machine.Balanced.refl workspace.machine
  trans := Machine.Balanced.trans
  reached_of_finished _ := trivial
  reached_trans _ _ := trivial

/-- What does not touch the machine keeps it balanced. -/
theorem Workspace.balancing_of_machine {before after : Workspace World}
    (same : after.machine = before.machine) : balancing.Finished before after := by
  change before.machine.Balanced after.machine
  rw [same]
  exact Machine.Balanced.refl before.machine

namespace ScriptGraph

open Contract Workspace

/-- What is known about scripts is no business of the machine. -/
theorem balancing_amend (number : Nat) (change : ScriptStatus → ScriptStatus) :
    balancing.Kept (Exec.update (Workspace.amend number change : Workspace World → _)) :=
  kept_update fun _ => balancing_of_machine rfl

/-- What a computation restores on the machine it restores in the workspace. -/
theorem balancing_onMachine {body : Exec (Machine World) Result}
    (bodyKept : Machine.restoring.Kept body) : balancing.Kept (Workspace.onMachine body) := by
  intro before
  have fulfilled := bodyKept before.machine
  simp only [Workspace.onMachine, Exec.zoom]
  cases ended : body before.machine with
  | done result after =>
    rw [ended] at fulfilled
    exact fulfilled.toBalanced
  | failed fault after =>
    rw [ended] at fulfilled
    exact ⟨trivial, fulfilled.2.toBalanced⟩
  | exhausted after => trivial

/-- Looking up the layout of a script changes nothing. -/
theorem rootLayout_apply (script : Script World) (workspace : Workspace World) :
    rootLayout script workspace =
      match script.tree.rootLayout? script.root with
      | some layout => .done layout workspace
      | none => .failed (.ofCause (.unknownNode script.root)) workspace := by
  simp only [rootLayout]
  cases script.tree.rootLayout? script.root <;> rfl

/-- What is done with the layout of a script is done with a layout of the tree, from the same
workspace. -/
theorem fulfilled_rootLayout {contract : Contract (Workspace World)} {script : Script World}
    (raised : contract.Raised (.ofCause (.unknownNode script.root)))
    {next : Layout → Exec (Workspace World) Result} {workspace : Workspace World}
    (fulfilled : ∀ layout, script.tree.rootLayout? script.root = some layout →
      contract.Fulfilled workspace (next layout workspace)) :
    contract.Fulfilled workspace ((rootLayout script >>= next) workspace) := by
  rw [Exec.bind_apply, rootLayout_apply]
  cases registered : script.tree.rootLayout? script.root with
  | some layout => exact fulfilled layout registered
  | none => exact ⟨raised, contract.refl workspace⟩

/-- A computation on the layout of a root may count on the layout being registered. -/
theorem kept_rootLayout {contract : Contract (Workspace World)} {script : Script World}
    (raised : contract.Raised (.ofCause (.unknownNode script.root)))
    {next : Layout → Exec (Workspace World) Result}
    (nextKept : ∀ layout, script.tree.rootLayout? script.root = some layout →
      contract.Kept (next layout)) :
    contract.Kept (rootLayout script >>= next) :=
  fun before =>
    fulfilled_rootLayout raised fun layout registered => nextKept layout registered before

/-- Where a script is initialized already, nothing is done for it. -/
theorem kept_unlessInitialized {contract : Contract (Workspace World)} {number : Nat}
    {body : Exec (Workspace World) Unit}
    (fulfilled : ∀ workspace : Workspace World, (workspace.status number).initialized = false →
      contract.Fulfilled workspace (body workspace)) :
    contract.Kept (unlessInitialized number body) := by
  intro workspace
  change contract.Fulfilled workspace
    ((if (workspace.status number).initialized then pure () else body) workspace)
  split
  · exact kept_pure () workspace
  · next uninitialized => exact fulfilled workspace (by simpa using uninitialized)

/-- Declaring a library binds its variables and leaves the rest of the machine as it was. -/
theorem balancing_declare (graph : ScriptGraph World) (fuel number : Nat) :
    balancing.Kept (graph.declare fuel number) := by
  apply kept_rootLayout trivial
  intro layout _
  apply kept_bind
  · exact kept_update fun before => { Machine.Balanced.refl before.machine with }
  · intro _
    apply kept_state
    intro workspace
    apply balancing_onMachine
    apply Machine.restoring_withinFrames
    apply Machine.restoring_within
    apply kept_bind
    · exact kept_update fun machine => Machine.Restored.note machine trivial
    · intro _
      exact (Machine.restoring_upheld _).runDeclarations fuel _

/-- Preparing a script balances, by induction on its number: libraries have smaller ones. -/
theorem balancing_prepare (graph : ScriptGraph World) (fuel number : Nat) (skipSelf : Bool) :
    balancing.Kept (graph.prepare fuel number skipSelf) := by
  induction number using Nat.strongRecOn generalizing skipSelf with
  | ind number inductionHypothesis =>
    rw [prepare]
    apply kept_bind (balancing_amend number _)
    intro _
    apply kept_bind
    · apply kept_forM
      intro library _
      apply kept_unlessInitialized
      intro workspace _
      exact inductionHypothesis library.1 library.2 false workspace
    · intro _
      split
      · exact kept_pure _
      · exact balancing_declare graph fuel number

/-- Walking a root block balances like any scope. -/
theorem balancing_runRoot (graph : ScriptGraph World) (fuel number : Nat) :
    balancing.Kept (graph.runRoot fuel number) := by
  apply kept_rootLayout trivial
  intro layout _
  apply kept_state
  intro workspace
  apply balancing_onMachine
  apply Machine.restoring_withinFrames
  apply Machine.restoring_within
  apply kept_bind
  · exact kept_update fun machine => Machine.Restored.note machine trivial
  · intro _
    exact (Machine.restoring_upheld _).process fuel _

/-- A run prepares the libraries and walks the root block. -/
theorem balancing_run (graph : ScriptGraph World) (fuel number : Nat) :
    balancing.Kept (graph.run fuel number) := by
  apply kept_bind (balancing_amend number _)
  intro _
  apply kept_state
  intro workspace
  split
  · exact balancing_runRoot graph fuel number
  · apply kept_bind (balancing_prepare graph fuel number true)
    intro _
    exact balancing_runRoot graph fuel number

/-- The events around a run are no business of the machine. -/
theorem balancing_process (graph : ScriptGraph World) (fuel number : Nat) :
    balancing.Kept (graph.process fuel number) := by
  apply kept_state
  intro workspace
  split
  · exact kept_fail trivial
  · apply kept_bind
    · exact kept_update fun before => balancing_of_machine (machine_announce _ _ _)
    · intro _ before
      apply fulfilled_ensuring (balancing_run graph fuel number _)
      · intro after balanced
        exact balancing.trans balanced (balancing_of_machine (machine_announce _ _ after))
      · intro _ _
        trivial

end ScriptGraph

/-- Whatever a walk, an evaluation, a block, a run of a script or an initialization finishes with,
the call stack, the frame log and the call depth are restored and every departure on the way was
matched; the first three leave all bindings but the newest of each declaration as they were. -/
theorem activation_symmetry (program : Program World) (graph : ScriptGraph World) (fuel : Nat) :
    (∀ node before after, (program.process fuel node before).final? = some after →
      before.Restored after) ∧
    (∀ node before after, (program.eval fuel node before).final? = some after →
      before.Restored after) ∧
    (∀ statements before after,
      (program.processStatements fuel statements before).final? = some after →
      before.Restored after) ∧
    (∀ number before after, (graph.process fuel number before).final? = some after →
      before.machine.Balanced after.machine) ∧
    (∀ number skipSelf before after,
      (graph.prepare fuel number skipSelf before).final? = some after →
      before.machine.Balanced after.machine) := by
  have upheld := Machine.restoring_upheld program
  refine ⟨?_, ?_, ?_, ?_, ?_⟩
  · intro node before after ended
    exact (upheld.process fuel node before).finished ended
  · intro node before after ended
    exact (upheld.eval fuel node before).finished ended
  · intro statements before after ended
    exact (upheld.processStatements fuel statements before).finished ended
  · intro number before after ended
    exact (ScriptGraph.balancing_process graph fuel number before).finished ended
  · intro number skipSelf before after ended
    exact (ScriptGraph.balancing_prepare graph fuel number skipSelf before).finished ended

/-- A call of a function whose only statement reads a node that does not exist. -/
def failingCall : Program Unit where
  tree :=
    ((Builder.applyAll { }
      [.node (.statement (.declareFunction ⟨"f", [⟨1⟩], ⟨2⟩⟩)),
        .node (.statement (.declareVariable ⟨"n", .plain, none⟩)),
        .node (.statement (.block [⟨3⟩])),
        .node (.expression (.read ⟨9⟩)),
        .node (.expression (.call ⟨0⟩ []))]).getD { }).finish 0

/-- The failure unwinds a block, a call site, a frame and a binding, and all are restored. -/
theorem activation_symmetry_failing_call :
    ∃ fault after,
      failingCall.process 4 ⟨4⟩ { host := { world := () } } = .failed fault after ∧
      Machine.Restored { host := { world := () } } after :=
  ⟨_, _, rfl, (activation_symmetry failingCall { } 4).1 ⟨4⟩ _ _ rfl⟩

end Treewalk
