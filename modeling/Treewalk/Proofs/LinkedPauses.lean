import Treewalk.Proofs.ActivationSymmetry
import Treewalk.Proofs.LinkedFrames

/-!
# Linked pauses

A machine whose frames and bindings belong together stays so while a program runs, and shows the
pause hook nothing else. `Machine.linking` makes this a contract. It is upheld by every operation of
the machine in a settled tree whose declarations have one scope each; scripts are entered outside
the evaluator, so for them it is shown at a given machine, in `linking_withinScript` and
`linking_withinFrames`.
-/

namespace Treewalk

variable {World Result : Type}

/-- What the pause hook sees belongs together. -/
def Snapshot.IsLinked (tree : Tree World) (snapshot : Snapshot) : Prop :=
  Linked tree snapshot.stack snapshot.frames snapshot.store

namespace Machine

/-- Call stack, frame log and bindings of the machine belong together. -/
def IsLinked (tree : Tree World) (machine : Machine World) : Prop :=
  Linked tree machine.monitor.stack machine.monitor.frames machine.store

/-- From a linked machine on, the pause hook has seen only what belongs together. -/
def ShowsLinked (tree : Tree World) (before after : Machine World) : Prop :=
  before.IsLinked tree → ∀ snapshot ∈ after.monitor.pauses,
    snapshot ∈ before.monitor.pauses ∨ snapshot.IsLinked tree

variable {tree : Tree World}

/-- Whatever restores the stacks keeps them linked. -/
theorem Restored.isLinked {before after : Machine World} (restored : Restored before after)
    (linked : before.IsLinked tree) : after.IsLinked tree := by
  simp only [IsLinked]
  rw [restored.stack, restored.frames]
  exact Linked.of_depths linked fun cell => (restored.bindings cell).1

namespace ShowsLinked

/-- Where nobody paused since, nothing new was shown. -/
theorem of_pauses_eq {before after : Machine World}
    (same : after.monitor.pauses = before.monitor.pauses) : ShowsLinked tree before after := by
  intro _ snapshot seen
  rw [same] at seen
  exact Or.inl seen

/-- What is shown later is linked if the machine is still linked by then. -/
theorem trans {first second third : Machine World}
    (kept : first.IsLinked tree → second.IsLinked tree) (earlier : ShowsLinked tree first second)
    (later : ShowsLinked tree second third) : ShowsLinked tree first third := by
  intro linked snapshot seen
  rcases later (kept linked) snapshot seen with early | shown
  · exact earlier linked snapshot early
  · exact Or.inr shown

/-- The hook sees the machine as it is. -/
theorem pause (node : NodeId) (machine : Machine World) :
    ShowsLinked tree machine (machine.pause node) := by
  intro linked snapshot seen
  simp only [Machine.pause] at seen
  split at seen
  · exact Or.inl seen
  · rw [(Quiet.obey _ _).pauses] at seen
    rcases List.mem_cons.mp seen with rfl | early
    · exact Or.inr linked
    · exact Or.inl early

/-- A breakpoint on the way in shows the machine with the node on its call stack. -/
theorem enter (node : NodeId) (machine : Machine World) :
    ShowsLinked tree machine (machine.enter node) := by
  have pushed : machine.IsLinked tree → (machine.push node).IsLinked tree :=
    fun linked => Linked.push linked node
  apply trans pushed (of_pauses_eq rfl)
  dsimp only [Machine.enter]
  split
  · exact pause node _
  · exact of_pauses_eq rfl

/-- A scope whose frame belongs to its bindings can be opened. -/
theorem opened {activation : Activation} {machine : Machine World} :
    ShowsLinked tree (activation.framed machine) (activation.opened machine) := by
  simp only [Activation.opened]
  split
  · next site _ => exact enter site _
  · exact of_pauses_eq rfl

end ShowsLinked

/-- Entering a node keeps a machine linked. -/
theorem IsLinked.enter {machine : Machine World} (linked : machine.IsLinked tree) (node : NodeId) :
    (machine.enter node).IsLinked tree :=
  (Restored.enter node machine).isLinked (Linked.push linked node)

/-- The call site is entered while the frame of the scope is logged. -/
theorem IsLinked.opened {activation : Activation} {machine : Machine World}
    (linked : (activation.framed machine).IsLinked tree) :
    (activation.opened machine).IsLinked tree := by
  simp only [Activation.opened]
  split
  · exact linked.enter _
  · exact linked

/-- Restoring what was changed, and showing only what belongs together meanwhile. -/
def linking (tree : Tree World) : Contract (Machine World) where
  Raised _ := True
  Finished before after := Restored before after ∧ ShowsLinked tree before after
  Reached := ShowsLinked tree
  refl machine := ⟨Restored.refl machine, ShowsLinked.of_pauses_eq rfl⟩
  trans earlier later :=
    ⟨earlier.1.trans later.1, earlier.2.trans earlier.1.isLinked later.2⟩
  reached_of_finished finished := finished.2
  reached_trans earlier later := earlier.2.trans earlier.1.isLinked later

/-- Quiet computations do not pause, and they keep frames and bindings linked. -/
theorem linking_of_quietly {body : Exec (Machine World) Result} (kept : quietly.Kept body) :
    (linking tree).Kept body :=
  kept.mono (fun _ _ => trivial)
    (fun _ _ quiet => ⟨quiet.restored, ShowsLinked.of_pauses_eq quiet.pauses⟩)
    (fun _ _ quiet => ShowsLinked.of_pauses_eq quiet.pauses)

/-- Notes are no part of what is linked. -/
theorem linking_note (machine : Machine World) {occurrence : Occurrence}
    (matched : occurrence.Matched) : (linking tree).Finished machine (machine.note occurrence) :=
  ⟨Restored.note machine matched, ShowsLinked.of_pauses_eq rfl⟩

/-- Leaving a scope shows the hook nothing. -/
theorem pauses_exit (activation : Activation) (machine : Machine World) :
    (activation.exit machine).monitor.pauses = machine.monitor.pauses := by
  have stepped (other : Machine World) :
      (activation.unbind other.exitFrame).monitor.pauses = other.monitor.pauses := by
    simp only [Activation.unbind, Machine.exitFrame, Monitor.dropFrame]
    split <;> split <;> rfl
  simp only [Activation.exit]
  rw [stepped]
  split <;> rfl

/-- A body is run inside a scope whose frame belongs to its bindings. -/
theorem linking_within {activation : Activation} {before : Machine World}
    {body : Exec (Machine World) Result}
    (framed : before.IsLinked tree → (activation.framed before).IsLinked tree)
    (fulfilled : (linking tree).Fulfilled (activation.opened before)
      (body (activation.opened before))) :
    (linking tree).Fulfilled before (activation.within body before) := by
  have opens : ShowsLinked tree before (activation.opened before) :=
    ShowsLinked.trans framed (ShowsLinked.of_pauses_eq rfl) ShowsLinked.opened
  have covers : ∀ after, ShowsLinked tree (activation.opened before) after →
      ShowsLinked tree before after :=
    fun _ inside => opens.trans (fun linked => (framed linked).opened) inside
  refine Contract.fulfilled_within activation fulfilled (fun _ => trivial) ?_ ?_ covers
  · intro limit
    refine ⟨Restored.refused activation limit before, ShowsLinked.of_pauses_eq ?_⟩
    simp only [Activation.refused, Activation.unbind]
    split <;> exact congrArg Monitor.pauses (Activation.monitor_bind activation before)
  · rintro after ⟨restored, shown⟩
    refine ⟨restored.exit, ?_⟩
    intro linked snapshot seen
    rw [pauses_exit] at seen
    exact covers after shown linked snapshot seen

/-- Every operation of the machine keeps frames and bindings together. -/
theorem linking_upheld (settled : tree.Settled) (single : tree.SingleScoped)
    {program : Program World} (walked : program.tree = tree) : (linking tree).Upheld program where
  raises_ofCause _ := trivial
  poll := linking_of_quietly quietly_poll
  write site name cell value := linking_of_quietly (quietly_write site name cell value)
  invoke construct arguments := linking_of_quietly (quietly_invoke construct arguments)
  hand _ := linking_of_quietly (quietly_hand _)
  handFrom statement fault _ _ := linking_of_quietly (quietly_handFrom statement fault)
  tracked node _ _ kept := by
    have covers : ∀ before after : Machine World, ShowsLinked tree (before.enter node) after →
        ShowsLinked tree before after :=
      fun before _ inside =>
        (ShowsLinked.enter node before).trans (fun linked => linked.enter node) inside
    apply Contract.kept_tracked node kept
    · rintro before after ⟨restored, shown⟩
      exact ⟨Restored.leave ((Restored.enter node before).trans restored),
        covers before after shown⟩
    · exact covers
  protect kept :=
    Contract.kept_protect kept (fun _ _ inside => ⟨{ inside.1 with }, inside.2⟩)
      (fun _ _ inside => inside)
  call site callee _ _ _ _ kept := by
    intro before
    refine linking_within (fun linked => ?_) (kept _)
    subst walked
    exact Linked.enterFunction settled single linked callee

/-- A script is entered with its variables bound once, either from before or by entering it. -/
theorem linking_withinScript (settled : tree.Settled) (single : tree.SingleScoped)
    {layout : Layout} (member : layout ∈ tree.layouts) (script : layout.owner.isFunction = false)
    {owns : Bool} {before : Machine World} {body : Exec (Machine World) Result}
    (depths : ∀ entry ∈ layout.entries,
      before.store.depth entry.cell = if owns then 0 else 1)
    (kept : (linking tree).Kept body) :
    (linking tree).Fulfilled before
      (Activation.within { layout, ownsBindings := owns } body before) := by
  refine linking_within (fun linked => ?_) (kept _)
  cases owns with
  | false => exact Linked.enterScript settled linked member script depths
  | true =>
    apply Linked.enterScript settled (Linked.bindScript settled single linked member script depths)
      member script
    intro entry listed
    rw [Store.depth_bind, depths entry listed, settled.multiplicity single member member listed,
      if_pos rfl]
    rfl

/-- Scripts whose variables are bound once are entered one inside the other, and none of this
changes the bindings. -/
theorem linking_withinFrames (settled : tree.Settled) {layouts : List Layout} {store : Store}
    (scripts : ∀ layout ∈ layouts, layout ∈ tree.layouts ∧ layout.owner.isFunction = false ∧
      ∀ entry ∈ layout.entries, store.depth entry.cell = 1)
    {body : Exec (Machine World) Result}
    (fulfilled : ∀ machine : Machine World, machine.store = store →
      (linking tree).Fulfilled machine (body machine))
    {before : Machine World} (bound : before.store = store) :
    (linking tree).Fulfilled before (Activation.withinFrames layouts body before) := by
  induction layouts generalizing before with
  | nil => exact fulfilled before bound
  | cons layout rest inductionHypothesis =>
    obtain ⟨member, script, depths⟩ := scripts layout List.mem_cons_self
    apply linking_within
    · intro linked
      exact Linked.enterScript settled linked member script (bound ▸ depths)
    · refine inductionHypothesis ?_ bound
      intro other listed
      exact scripts other (List.mem_cons_of_mem layout listed)

end Machine

end Treewalk
