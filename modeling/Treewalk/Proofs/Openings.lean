import Treewalk.Proofs.Sightings
import Treewalk.Proofs.StackRelativeLookup

/-!
# Openings

The trace notes when the root block of a script is about to run and when the declarations of a
library are. Only scripts note such openings, the evaluator never does, so it can be said exactly
what the two things that scripts have the machine do leave behind. `Declared` says it of running the
declarations of a library, which binds the variables of the library for good, and `RanRoot` of
running a root block, which leaves all bindings in number as they were. Each notes one opening.
-/

namespace Treewalk

variable {World Result : Type}

/-- A script or a library was opened. -/
def Occurrence.isOpening : Occurrence → Bool
  | .scriptOpened .. => true
  | .libraryOpened .. => true
  | _ => false

/-- An opening is no departure. -/
theorem Occurrence.matched_of_isOpening {occurrence : Occurrence}
    (opening : occurrence.isOpening = true) : occurrence.Matched := by
  cases occurrence with
  | left => cases opening
  | _ => trivial

/-- Only scripts open anything. -/
theorem Occurrence.unopening_of_isRoutine (occurrence : Occurrence)
    (routine : occurrence.isRoutine = true) : occurrence.isOpening = false := by
  cases occurrence with
  | scriptOpened => cases routine
  | libraryOpened => cases routine
  | _ => rfl

namespace Machine

/-- The openings of scripts and libraries, newest first. -/
def openings (machine : Machine World) : List Occurrence :=
  machine.sightings Occurrence.isOpening

/-- Opening neither scripts nor libraries. -/
def unopening : Contract (Machine World) where
  Raised _ := True
  Finished before after := after.openings = before.openings
  Reached before after := after.openings = before.openings
  refl _ := rfl
  trans earlier later := later.trans earlier
  reached_of_finished same := same
  reached_trans earlier later := later.trans earlier

/-- Only what adds an opening to the trace opens anything. -/
theorem unopening_of_state {body : Exec (Machine World) Result}
    (same : ∀ machine, (body machine).state.openings = machine.openings) : unopening.Kept body :=
  Contract.kept_of_finished (fun _ => trivial) same

/-- Scopes of functions open nothing either. -/
theorem unopening_within (activation : Activation) {body : Exec (Machine World) Result}
    (kept : unopening.Kept body) : unopening.Kept (activation.within body) := by
  intro before
  have opened := sightings_opened Occurrence.unopening_of_isRoutine activation before
  refine Contract.fulfilled_within activation (kept _) (fun _ => trivial) ?_ ?_ ?_
  · intro limit
    exact sightings_refused Occurrence.unopening_of_isRoutine activation limit before
  · intro after inside
    exact (sightings_exit Occurrence.unopening_of_isRoutine activation after).trans
      (inside.trans opened)
  · intro after inside
    exact inside.trans opened

/-- The evaluator opens neither scripts nor libraries. -/
theorem unopening_upheld (program : Program World) : unopening.Upheld program where
  raises_ofCause _ := trivial
  poll := unopening_of_state fun machine => by
    rw [poll_apply]
    exact sightings_look Occurrence.unopening_of_isRoutine machine
  write site name cell value :=
    unopening_of_state (sightings_write Occurrence.unopening_of_isRoutine site name cell value)
  invoke construct arguments :=
    unopening_of_state (sightings_invoke Occurrence.unopening_of_isRoutine construct arguments)
  hand _ := unopening_of_state (sightings_hand Occurrence.unopening_of_isRoutine _)
  handFrom statement _ _ _ := by
    apply unopening_of_state
    intro machine
    exact (sightings_hand Occurrence.unopening_of_isRoutine _ _).trans
      (sightings_note_unwatched rfl machine)
  tracked node _ _ kept := by
    apply Contract.kept_tracked node kept
    · intro before after inside
      exact (sightings_leave Occurrence.unopening_of_isRoutine node after).trans
        (inside.trans (sightings_enter Occurrence.unopening_of_isRoutine node before))
    · intro before after inside
      exact inside.trans (sightings_enter Occurrence.unopening_of_isRoutine node before)
  protect kept :=
    Contract.kept_protect kept (fun _ _ inside => inside) (fun _ _ inside => inside)
  call _ _ _ _ _ _ kept := unopening_within _ kept

/-- One opening was noted, and everything else was restored. -/
structure Visited (opening : Occurrence) (before after : Machine World) : Prop
    extends Restored before after where
  openings : after.openings = opening :: before.openings

/-- What was noted inside a scope is still noted when the scope is left. -/
theorem Visited.exit {opening : Occurrence} {activation : Activation}
    {before inside : Machine World} (visited : Visited opening (activation.opened before) inside) :
    Visited opening before (activation.exit inside) where
  toRestored := Restored.exit visited.toRestored
  openings := by
    have opened := sightings_opened Occurrence.unopening_of_isRoutine activation before
    have left := sightings_exit Occurrence.unopening_of_isRoutine activation inside
    exact left.trans (visited.openings.trans (congrArg (List.cons opening) opened))

end Machine

namespace Activation

open Machine

/-- Scopes of scripts are not counted, so they are never refused. -/
theorem refuses_eq_none {activation : Activation}
    (uncounted : activation.layout.owner.isFunction = false) (machine : Machine World) :
    machine.monitor.refuses activation.layout.owner = none := by
  simp only [Monitor.refuses, uncounted]
  split <;> rfl

/-- What finishes inside a scope that is not counted was run there and then left the scope. -/
theorem exists_of_within_final? {activation : Activation}
    (uncounted : activation.layout.owner.isFunction = false) {body : Exec (Machine World) Result}
    {before after : Machine World} (ended : (activation.within body before).final? = some after) :
    ∃ inside, (body (activation.opened before)).final? = some inside ∧
      after = activation.exit inside := by
  rw [within_apply, refuses_eq_none uncounted] at ended
  simp only [Exec.ensuring] at ended
  cases reached : body (activation.opened before) with
  | done result inside =>
    rw [reached] at ended
    cases ended
    exact ⟨inside, rfl, rfl⟩
  | failed fault inside =>
    rw [reached] at ended
    cases ended
    exact ⟨inside, rfl, rfl⟩
  | exhausted inside =>
    rw [reached] at ended
    cases ended

/-- Scripts are entered without a call site, so only bindings and frames are opened. -/
theorem store_opened (layout : Layout) (ownsBindings : Bool) (machine : Machine World) :
    (Activation.opened { layout, ownsBindings } machine).store =
      if ownsBindings then machine.store.bind layout else machine.store := by
  cases ownsBindings <;> rfl

end Activation

namespace Machine

/-- Noting an opening and running what opens nothing. -/
theorem visited_note {opening : Machine World → Occurrence}
    (opens : ∀ machine, (opening machine).isOpening = true)
    {body : Exec (Machine World) Result} (restores : restoring.Kept body)
    (unopens : unopening.Kept body) {before after : Machine World}
    (ended : ((do
      Exec.update fun machine => machine.note (opening machine)
      body : Exec (Machine World) Result) before).final? = some after) :
    Visited (opening before) before after := by
  have noted : Restored before (before.note (opening before)) := 
    Restored.note before (Occurrence.matched_of_isOpening (opens before))
  have ran : (body (before.note (opening before))).final? = some after := ended
  refine { noted.trans ((restores _).finished ran) with openings := ?_ }
  have same : after.openings = (before.note (opening before)).openings := (unopens _).finished ran
  rw [same, openings, sightings_note, if_pos (opens before)]
  rfl

/-- Among frames that bind nothing, a scope is entered, an opening is noted in it, and the rest
opens nothing. -/
theorem visited_amongFrames {layouts : List Layout}
    (uncounted : ∀ layout ∈ layouts, layout.owner.isFunction = false) {layout : Layout}
    (own : layout.owner.isFunction = false) {ownsBindings : Bool}
    {opening : List Frame → Store → Occurrence}
    (opens : ∀ frames store, (opening frames store).isOpening = true)
    {body : Exec (Machine World) Result} (restores : restoring.Kept body)
    (unopens : unopening.Kept body) {before after : Machine World}
    (ended : (Activation.withinFrames layouts (Activation.within { layout, ownsBindings } do
      Exec.update fun machine => machine.note (opening machine.monitor.frames machine.store)
      body) before).final? = some after) :
    ∃ frames, Visited
      (opening frames (if ownsBindings then before.store.bind layout else before.store))
      before after := by
  induction layouts generalizing before after with
  | nil =>
    obtain ⟨inside, reached, rfl⟩ := Activation.exists_of_within_final? own ended
    rw [← Activation.store_opened]
    exact ⟨_, (visited_note (fun _ => opens _ _) restores unopens reached).exit⟩
  | cons outermost rest inductionHypothesis =>
    obtain ⟨first, others⟩ := List.forall_mem_cons.mp uncounted
    obtain ⟨inside, reached, rfl⟩ := Activation.exists_of_within_final? first ended
    obtain ⟨frames, visited⟩ := inductionHypothesis others reached
    exact ⟨frames, visited.exit⟩

end Machine

namespace ScriptGraph

open Contract Machine Workspace

variable {graph : ScriptGraph World}

/-- The declarations of a script have been run: its variables are bound once more, it says so, and
one opening was noted. -/
structure Declared (graph : ScriptGraph World) (number : Nat) (layout : Layout)
    (before after : Workspace World) : Prop where
  registered : (graph.script number).tree.rootLayout? (graph.script number).root = some layout
  status : ∀ other, after.status other =
    if other = number then { before.status number with libraryBound := true }
    else before.status other
  depth : ∀ cell, after.machine.store.depth cell =
    layout.multiplicity cell + before.machine.store.depth cell
  opened : ∃ frames, after.machine.openings =
    .libraryOpened (graph.script number).root frames (before.machine.store.bind layout) ::
      before.machine.openings

/-- The store in which the root block of a script runs. -/
def rootStore (workspace : Workspace World) (number : Nat) (layout : Layout) : Store :=
  if (workspace.status number).libraryBound then workspace.machine.store
  else workspace.machine.store.bind layout

/-- A root block starts from the bindings there are, and its own unless the script is bound already.
-/
theorem rootStore_eq (workspace : Workspace World) (number : Nat) (layout : Layout) :
    rootStore workspace number layout =
      if !(workspace.status number).libraryBound then workspace.machine.store.bind layout
      else workspace.machine.store := by
  simp only [rootStore]
  cases (workspace.status number).libraryBound <;> rfl

/-- The root block of a script has been run: one opening was noted, and nothing has changed about
the scripts and the number of bindings. -/
structure RanRoot (graph : ScriptGraph World) (number : Nat) (layout : Layout)
    (before after : Workspace World) : Prop where
  registered : (graph.script number).tree.rootLayout? (graph.script number).root = some layout
  statuses : after.statuses = before.statuses
  depth : ∀ cell, after.machine.store.depth cell = before.machine.store.depth cell
  opened : ∃ frames, after.machine.openings =
    .scriptOpened (graph.script number).root frames (rootStore before number layout) ::
      before.machine.openings

/-- Scopes of scripts do not count as calls. -/
theorem uncounted_of_registered {tree : Tree World} {root : NodeId} {layout : Layout}
    (registered : tree.rootLayout? root = some layout) : layout.owner.isFunction = false := by
  rw [(Tree.rootLayout?_eq_some registered).2]
  rfl

/-- Neither do those of the libraries below a script. -/
theorem uncounted_of_mem_libraryLayouts {workspace : Workspace World} {number : Nat}
    {layout : Layout} (listed : layout ∈ graph.libraryLayouts workspace number) :
    layout.owner.isFunction = false := by
  obtain ⟨library, -, -, registered⟩ := mem_libraryLayouts listed
  exact uncounted_of_registered registered

/-- What finishes on the machine leaves the rest of the workspace alone. -/
theorem exists_of_onMachine_final? {body : Exec (Machine World) Result}
    {before after : Workspace World} (ended : (onMachine body before).final? = some after) :
    ∃ machine, (body before.machine).final? = some machine ∧ after = { before with machine } := by
  simp only [onMachine, Exec.zoom] at ended
  cases reached : body before.machine with
  | done result machine =>
    rw [reached] at ended
    cases ended
    exact ⟨machine, rfl, rfl⟩
  | failed fault machine =>
    rw [reached] at ended
    cases ended
    exact ⟨machine, rfl, rfl⟩
  | exhausted machine =>
    rw [reached] at ended
    cases ended

/-- A script without a registered root cannot be declared. -/
theorem declare_unregistered {number : Nat}
    (unregistered : (graph.script number).tree.rootLayout? (graph.script number).root = none)
    (fuel : Nat) (before : Workspace World) :
    graph.declare fuel number before =
      .failed (.ofCause (.unknownNode (graph.script number).root)) before := by
  rw [declare, Exec.bind_apply, rootLayout_apply, unregistered]

/-- A script with a registered root is declared, whatever its declarations come to. -/
theorem declared_of_declare {number : Nat} {layout : Layout}
    (registered :
      (graph.script number).tree.rootLayout? (graph.script number).root = some layout)
    {fuel : Nat} {before after : Workspace World}
    (ended : (graph.declare fuel number before).final? = some after) :
    graph.Declared number layout before after := by
  rw [declare, Exec.bind_apply, rootLayout_apply, registered] at ended
  obtain ⟨machine, ran, rfl⟩ := exists_of_onMachine_final? ended
  obtain ⟨frames, visited⟩ := visited_amongFrames
    (fun _ listed => uncounted_of_mem_libraryLayouts listed) (uncounted_of_registered registered)
    (fun _ _ => rfl) ((restoring_upheld _).runDeclarations fuel _)
    ((unopening_upheld _).runDeclarations fuel _) ran
  refine ⟨registered, ?_, ?_, frames, visited.openings⟩
  · intro other
    exact status_amend number other _
  · intro cell
    exact (visited.bindings cell).1.trans (Store.depth_bind _ layout cell)

/-- A root that is not registered cannot be run. -/
theorem runRoot_unregistered {number : Nat}
    (unregistered : (graph.script number).tree.rootLayout? (graph.script number).root = none)
    (fuel : Nat) (before : Workspace World) :
    graph.runRoot fuel number before =
      .failed (.ofCause (.unknownNode (graph.script number).root)) before := by
  rw [runRoot, Exec.bind_apply, rootLayout_apply, unregistered]

/-- A script with a registered root runs it, whatever it comes to. -/
theorem ranRoot_of_runRoot {number : Nat} {layout : Layout}
    (registered :
      (graph.script number).tree.rootLayout? (graph.script number).root = some layout)
    {fuel : Nat} {before after : Workspace World}
    (ended : (graph.runRoot fuel number before).final? = some after) :
    graph.RanRoot number layout before after := by
  rw [runRoot, Exec.bind_apply, rootLayout_apply, registered] at ended
  obtain ⟨machine, ran, rfl⟩ := exists_of_onMachine_final? ended
  obtain ⟨frames, visited⟩ := visited_amongFrames
    (fun _ listed => uncounted_of_mem_libraryLayouts listed) (uncounted_of_registered registered)
    (fun _ _ => rfl) ((restoring_upheld _).process fuel _)
    ((unopening_upheld _).process fuel _) ran
  rw [← rootStore_eq] at visited
  exact ⟨registered, rfl, fun cell => (visited.bindings cell).1, frames, visited.openings⟩

end ScriptGraph

end Treewalk
