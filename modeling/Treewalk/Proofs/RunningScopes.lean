import Treewalk.Proofs.BoundVariables
import Treewalk.Proofs.ScriptCongruence
import Treewalk.Proofs.Teardown

/-!
# Declarations in a running scope are bound

The root block of a script runs with bindings of its own, unless the script is bound as a library:
then it runs with those. That they are there follows from the accounts of library bindings. Calls
that bind a library twice or that close one do not upset the accounts, as long as it does not matter
how many bindings there were to begin with; this is `ScriptGraph.Booked`.

So in any history of calls, a variable without a binding is met by assignments only.
-/

namespace Treewalk

variable {World : Type}

/-- A variable without a binding was to be overwritten. -/
def Occurrence.isUnbound : Occurrence → Bool
  | .unbound .. => true
  | _ => false

/-- An opening is no failed write. -/
theorem Occurrence.excused_of_isOpening {tree : Tree World} {occurrence : Occurrence}
    (opening : occurrence.isOpening = true) : occurrence.Excused tree := by
  cases occurrence with
  | unbound => cases opening
  | _ => trivial

namespace Workspace

@[simp] theorem machine_state_onMachine {Result : Type} (body : Exec (Machine World) Result)
    (workspace : Workspace World) :
    (onMachine body workspace).state.machine = (body workspace.machine).state := by
  simp only [onMachine, Exec.zoom]
  cases body workspace.machine <;> rfl

end Workspace

namespace ScriptGraph

open Contract Machine Workspace

variable {graph : ScriptGraph World} {before after workspace : Workspace World} {number : Nat}

/-- The bindings of bound scripts are accounted for, whatever else is bound. -/
def Booked (graph : ScriptGraph World) (workspace : Workspace World) : Prop :=
  ∃ base, graph.Accounted base workspace

namespace Booked

/-- Books are kept about flags and depths only. -/
theorem akin (booked : graph.Booked before) (akin : before.Akin after) : graph.Booked after := by
  obtain ⟨base, accounted⟩ := booked
  exact ⟨base, accounted.akin akin⟩

/-- Flagging a script as initialized books nothing. -/
theorem flagged (booked : graph.Booked workspace) (number : Nat) :
    graph.Booked (flag number workspace) := by
  obtain ⟨base, accounted⟩ := booked
  exact ⟨base, accounted.flagged number⟩

/-- Declaring a script once more only changes what there is to begin with. -/
theorem declared {layout : Layout} (booked : graph.Booked before)
    (declared : graph.Declared number layout before after) : graph.Booked after := by
  obtain ⟨base, accounted⟩ := booked
  cases bound : (before.status number).libraryBound with
  | false => exact ⟨base, accounted.declared bound declared⟩
  | true => exact ⟨_, accounted.declared_again bound declared⟩

/-- Closing a script takes out what was booked for it. -/
theorem close (booked : graph.Booked workspace) (number : Nat) :
    graph.Booked (graph.close number workspace) := by
  obtain ⟨base, accounted⟩ := booked
  exact ⟨base, close_preserves (graph.Accounted base) (fun number _ kept => kept.release number)
    number accounted⟩

/-- The variables of a bound script have bindings. -/
theorem live (booked : graph.Booked workspace) {layout : Layout}
    (registered :
      (graph.script number).tree.rootLayout? (graph.script number).root = some layout)
    (bound : (workspace.status number).libraryBound = true) : workspace.machine.Live layout := by
  obtain ⟨base, accounted⟩ := booked
  intro cell binds
  have positive := Layout.multiplicity_pos.mpr binds
  have held : graph.share workspace cell number ≤ graph.libraryDepth workspace cell :=
    share_le_libraryDepth number cell
  rw [share_of_bound registered bound] at held
  rw [accounted cell]
  omega

end Booked

/-- If this is a failed write, then an assignment in the tree of a script made it, and its target
had no binding. -/
def Excuses (graph : ScriptGraph World) (occurrence : Occurrence) : Prop :=
  ∃ number, occurrence.Excused (graph.script number).tree

/-- Failed writes are excused, and the accounts stay in order. -/
def covering (graph : ScriptGraph World) : Contract (Workspace World) where
  Raised _ := True
  Finished before after := graph.Booked before →
    graph.Booked after ∧ before.machine.Later graph.Excuses after.machine
  Reached before after := graph.Booked before →
    before.machine.Later graph.Excuses after.machine
  refl workspace booked := ⟨booked, .refl workspace.machine⟩
  trans earlier later booked :=
    ⟨(later (earlier booked).1).1, (earlier booked).2.trans (later (earlier booked).1).2⟩
  reached_of_finished finished booked := (finished booked).2
  reached_trans earlier later booked := (earlier booked).2.trans (later (earlier booked).1)

/-- What is no business of the machine covers nothing new. -/
theorem covering_akin (akin : before.Akin after) (machine : after.machine = before.machine) :
    graph.covering.Finished before after :=
  fun booked => ⟨booked.akin akin, by rw [machine]; exact .refl before.machine⟩

/-- A computation is covered if it keeps the accounts in order when it finishes and excuses what it
notes wherever it stands. -/
theorem covering_of_later {Result : Type} {outcome : Outcome (Workspace World) Result}
    (booked : ∀ after, outcome.final? = some after → graph.Booked before → graph.Booked after)
    (later : graph.Booked before →
      before.machine.Later graph.Excuses outcome.state.machine) :
    graph.covering.Fulfilled before outcome := by
  cases outcome with
  | done result after => exact fun start => ⟨booked after rfl start, later start⟩
  | failed fault after => exact ⟨trivial, fun start => ⟨booked after rfl start, later start⟩⟩
  | exhausted after => exact later

/-- A body among the frames of libraries and in the scope of a script. The variables of the script
have to be bound before, unless entering the scope binds them. -/
theorem covering_amongFrames {tree : Tree World} {Result : Type} (libraries : List Layout)
    {outer layout : Layout} {ownsBindings : Bool} (outside : ownsBindings = false → outer = layout)
    {opening : List Frame → Store → Occurrence}
    (opens : ∀ frames store, (opening frames store).isOpening = true)
    {body : Exec (Machine World) Result}
    (kept : (Machine.covering tree layout).contract.Kept body) :
    (Machine.covering tree outer).contract.Kept
      (Activation.withinFrames libraries (Activation.within { layout, ownsBindings } do
        Exec.update fun machine => machine.note (opening machine.monitor.frames machine.store)
        body)) := by
  induction libraries with
  | nil =>
    have noted : (Machine.covering tree layout).contract.Kept
        (Exec.update fun machine : Machine World =>
          machine.note (opening machine.monitor.frames machine.store)) :=
      kept_update fun before => ⟨.note before (Occurrence.matched_of_isOpening (opens _ _)),
        fun _ => .note (Occurrence.excused_of_isOpening (opens _ _)) before⟩
    refine covering_within _ (kept_bind noted fun _ => kept) fun before live => ?_
    cases ownsBindings with
    | true => exact live_bind layout rfl
    | false =>
      rw [outside rfl] at live
      exact live
  | cons library rest inductionHypothesis =>
    exact covering_within _ inductionHypothesis fun before live => live

/-- The declarations of a library are run while its variables are bound. -/
theorem covering_declaring (built : graph.IsBuilt) {layout : Layout}
    (registered :
      (graph.script number).tree.rootLayout? (graph.script number).root = some layout)
    (fuel : Nat) (status : ScriptStatus) (libraries : List Layout) :
    (Machine.covering (graph.script number).tree layout).contract.Kept
      (graph.declaring fuel number status libraries layout) := by
  have tree := built number (known_of_registered registered)
  have region := tree.rootRegion registered
  obtain ⟨statements, block⟩ := built.root_block registered
  have inside : ∀ statement ∈ (graph.script number).tree.statements (graph.script number).root,
      statement = (graph.script number).root ∨
        (graph.script number).tree.InScope (graph.script number).root statement := by
    intro statement listed
    refine .inr (.child ?_)
    rw [Tree.children_of_instruction block]
    rw [Tree.statements_of_instruction block] at listed
    exact listed
  refine covering_amongFrames libraries (fun _ => rfl) (fun _ _ => rfl) ?_
  have covers : (program (graph.script number) status).Covers _ :=
    Program.covers_process tree fuel
  exact covers.runDeclarations region inside

/-- A root block is walked while its variables are bound, by the run or for the library it is. -/
theorem covering_rooting (built : graph.IsBuilt) {layout : Layout}
    (registered :
      (graph.script number).tree.rootLayout? (graph.script number).root = some layout)
    (fuel : Nat) (status : ScriptStatus) (libraries : List Layout) :
    (Machine.covering (graph.script number).tree
      (if status.libraryBound then layout else .empty)).contract.Kept
      (graph.rooting fuel number status libraries layout) := by
  have tree := built number (known_of_registered registered)
  have region := tree.rootRegion registered
  refine covering_amongFrames libraries ?_ (fun _ _ => rfl) ?_
  · intro lent
    rw [if_pos (by simpa using lent)]
  · have covers : (program (graph.script number) status).Covers _ :=
      Program.covers_process tree fuel
    exact covers region (.inl rfl)

/-- A library that is declared is booked from then on. -/
theorem covering_declare (built : graph.IsBuilt) (fuel number : Nat) :
    graph.covering.Kept (graph.declare fuel number) := by
  intro before
  cases registered : (graph.script number).tree.rootLayout? (graph.script number).root with
  | none =>
    rw [declare_unregistered registered]
    exact ⟨trivial, graph.covering.refl before⟩
  | some layout =>
    refine covering_of_later (fun after ended booked =>
      booked.declared (declared_of_declare registered ended)) fun _ => ?_
    rw [declare, Exec.bind_apply, rootLayout_apply, registered]
    let bound := bindLibrary number layout before
    have kept := covering_declaring built registered fuel (bound.status number)
      (graph.libraryLayouts bound number) bound.machine
    change before.machine.Later graph.Excuses (onMachine (graph.declaring fuel number
      (bound.status number) (graph.libraryLayouts bound number) layout) bound).state.machine
    rw [machine_state_onMachine]
    have binding : before.machine.Later graph.Excuses bound.machine := .of_same rfl rfl rfl
    exact binding.trans ((kept.reached (live_bind layout rfl)).mono fun _ excused =>
      ⟨number, excused⟩)

/-- A root block gives back what it bound. -/
theorem covering_runRoot (built : graph.IsBuilt) (fuel number : Nat) :
    graph.covering.Kept (graph.runRoot fuel number) := by
  intro before
  cases registered : (graph.script number).tree.rootLayout? (graph.script number).root with
  | none =>
    rw [runRoot_unregistered registered]
    exact ⟨trivial, graph.covering.refl before⟩
  | some layout =>
    refine covering_of_later ?_ fun booked => ?_
    · rintro after ended ⟨base, accounted⟩
      have ran := ranRoot_of_runRoot registered ended
      have status (number : Nat) : after.status number = before.status number := by
        simp only [Workspace.status, ran.statuses]
      refine ⟨base, fun cell => ?_⟩
      rw [ran.depth, accounted cell, libraryDepth_congr fun number => by rw [status]]
    · have kept := covering_rooting built registered fuel (before.status number)
        (graph.libraryLayouts before number) before.machine
      have live : before.machine.Live
          (if (before.status number).libraryBound then layout else .empty) := by
        split
        · next bound => exact booked.live registered bound
        · rintro cell ⟨entry, listed, -⟩
          cases listed
      rw [runRoot, Exec.bind_apply, rootLayout_apply, registered]
      change before.machine.Later graph.Excuses (onMachine (graph.rooting fuel number
        (before.status number) (graph.libraryLayouts before number) layout) before).state.machine
      rw [machine_state_onMachine]
      exact (kept.reached live).mono fun _ excused => ⟨number, excused⟩

/-- Preparing a script declares libraries one after the other. -/
theorem covering_prepare (built : graph.IsBuilt) (fuel number : Nat) (skipSelf : Bool) :
    graph.covering.Kept (graph.prepare fuel number skipSelf) := by
  refine kept_prepare ?_ (covering_declare built fuel) number skipSelf
  intro other workspace booked
  exact ⟨booked.flagged other, .refl workspace.machine⟩

/-- A run prepares the libraries and walks the root block. -/
theorem covering_run (built : graph.IsBuilt) (fuel number : Nat) :
    graph.covering.Kept (graph.run fuel number) := by
  refine kept_bind (kept_update fun before => covering_akin (akin_hasRun number before) rfl) ?_
  intro _
  refine kept_state fun workspace => ?_
  split
  · exact covering_runRoot built fuel number
  · exact kept_bind (covering_prepare built fuel number true) fun _ =>
      covering_runRoot built fuel number

/-- The events around a run bind nothing. -/
theorem covering_process (built : graph.IsBuilt) (fuel number : Nat) :
    graph.covering.Kept (graph.process fuel number) := by
  have announced (script : Script World) (event : Event) (workspace : Workspace World) :
      graph.covering.Finished workspace (workspace.announce script event) :=
    covering_akin (akin_of_same (machine_announce script event workspace)
      (statuses_announce script event workspace)) (machine_announce script event workspace)
  refine kept_state fun workspace => ?_
  split
  · exact kept_fail trivial
  · refine kept_bind (kept_update fun before => ?_) fun _ before => ?_
    · let counted : Workspace World := { before with board := workspace.board.freshRun.2 }
      have started : graph.covering.Finished before counted :=
        covering_akin (akin_of_same rfl rfl) rfl
      exact graph.covering.trans started (announced _ _ counted)
    · refine fulfilled_ensuring (covering_run built fuel number before) ?_ fun _ reached => reached
      intro after finished
      exact graph.covering.trans finished (announced _ _ _)

/-- No call of a history upsets the accounts. -/
theorem History.booked (built : graph.IsBuilt) {start current : Workspace World}
    {entries : List (Entry World)} (untouched : start.Untouched)
    (history : graph.History start entries current) : graph.Booked current := by
  refine history.holds (fun _ _ akin booked => booked.akin akin) ?_
    ⟨_, .of_unbound untouched.libraryBound⟩
  intro entry _ after performed booked
  obtain ⟨call, before⟩ := entry
  cases performed with
  | process ended => exact ((covering_process built _ _ before).finished ended booked).1
  | prepare ended => exact ((covering_prepare built _ _ _ before).finished ended booked).1
  | close number => exact booked.close number

/-- From one machine to a later one, every write to a variable without a binding was made by an
assignment in the tree of a script, and at that moment the target of the assignment had none. -/
def OnlyAssignmentsUnbound (graph : ScriptGraph World) (before after : Machine World) : Prop :=
  ∃ added, after.trace = added ++ before.trace ∧
    ∀ site cell store, .unbound site cell store ∈ added →
      site = .assignment ∧ store.bindings cell = [] ∧
        ∃ number node target operand,
          (graph.script number).tree.instruction node =
            .ok (.expression (.assign target operand)) ∧
          cell = (graph.script number).tree.cell target

/-- What a later machine excuses was excused all along. -/
theorem OnlyAssignmentsUnbound.of_later {before after : Machine World}
    (later : before.Later graph.Excuses after) : graph.OnlyAssignmentsUnbound before after := by
  obtain ⟨added, trace, excused⟩ := later.trace
  refine ⟨added, trace, fun site cell store member => ?_⟩
  obtain ⟨number, assigned, empty, node, target, operand, found, same⟩ := excused _ member
  exact ⟨assigned, empty, number, node, target, operand, found, same⟩

end ScriptGraph

open ScriptGraph in
/-- Declarations in a running scope are always bound. After any history of calls on scripts in trees
that directives built, whichever of them were initialized, run or closed, and with whatever fuel:
running a script or initializing one as a library meets a variable without a binding only where an
assignment is to write it. Declarations, parameters, loop variables and causes of error blocks can
always be written. -/
theorem unbound_only_by_assignment {graph : ScriptGraph World} (built : graph.IsBuilt)
    {start current ready : Workspace World} {entries : List (Entry World)}
    (untouched : start.Untouched) (history : graph.History start entries current)
    (handed : current.HandedOver ready) (fuel number : Nat) :
    graph.OnlyAssignmentsUnbound ready.machine (graph.process fuel number ready).state.machine ∧
    ∀ skipSelf, graph.OnlyAssignmentsUnbound ready.machine
      (graph.prepare fuel number skipSelf ready).state.machine := by
  have booked : graph.Booked ready := (history.booked built untouched).akin handed.akin
  constructor
  · exact .of_later ((covering_process built fuel number ready).reached booked)
  · intro skipSelf
    exact .of_later ((covering_prepare built fuel number skipSelf ready).reached booked)

/-- A library with one variable, and a script that declares a variable of its own and then assigns
to both. -/
def assigningTree : List (Directive Unit) :=
  [.node (.expression (.literal (.int 7))),
    .node (.statement (.declareVariable ⟨"lent", .plain, some ⟨0⟩⟩)),
    .root [⟨1⟩],
    .node (.statement (.declareVariable ⟨"own", .plain, some ⟨0⟩⟩)),
    .node (.expression (.assign ⟨3⟩ ⟨0⟩)),
    .node (.expression (.assign ⟨1⟩ ⟨0⟩)),
    .root [⟨3⟩, ⟨4⟩, ⟨5⟩]]

def assigningGraph : ScriptGraph Unit :=
  let tree := ((Builder.applyAll { } assigningTree).getD { }).finish 0
  ⟨#[{ name := ⟨"library"⟩, tree, root := ⟨2⟩ },
    { name := ⟨"main"⟩, tree, root := ⟨6⟩, libraries := [0] }]⟩

/-- The library is initialized and closed before the script runs. Of its three writes, the one to
the variable of the library fails. -/
theorem unbound_only_by_assignment_closed_library :
    let start : Workspace Unit := { machine := { host := { world := () } } }
    let initialized := (assigningGraph.prepare 4 0 false start).state
    let closed := assigningGraph.close 0 initialized
    let ended := assigningGraph.process 4 1 closed
    ended.state.machine.trace.countP Occurrence.isUnbound = 1 ∧
    closed.machine.trace.countP Occurrence.isUnbound = 0 ∧
    assigningGraph.OnlyAssignmentsUnbound closed.machine ended.state.machine := by
  intro start initialized closed ended
  have built : assigningGraph.IsBuilt := fun number known =>
    match number, known with
    | 0, _ => ⟨assigningTree, _, 0, rfl, rfl⟩
    | 1, _ => ⟨assigningTree, _, 0, rfl, rfl⟩
  have history : assigningGraph.History start _ closed :=
    (ScriptGraph.History.start.call (.refl start)
      (ScriptGraph.Performs.prepared (by decide +kernel))).call (.refl initialized) (.close 0 _)
  have counted : ended.state.machine.trace.countP Occurrence.isUnbound = 1 ∧
      closed.machine.trace.countP Occurrence.isUnbound = 0 := by
    decide +kernel
  exact ⟨counted.1, counted.2,
    (unbound_only_by_assignment built (.of_statuses rfl) history (.refl closed) 4 1).1⟩

end Treewalk
