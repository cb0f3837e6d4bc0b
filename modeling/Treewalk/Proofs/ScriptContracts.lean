import Treewalk.Proofs.ActivationSymmetry
import Treewalk.Proofs.ScopeLayouts

/-!
# Contracts of scripts

A contract of the machine holds for a whole script when the two things keep it that scripts have the
machine do: running the declarations of a library and walking a registered root.
`Contract.Lifted` asks for these, and for the little that happens around them: bindings are opened,
frames are logged, and the opening of a script is noted. Statuses and events are no
business of the machine. Then the preparation of every script keeps the contract, and so does its
run, except that a script that runs again blames whoever asked for it.

Roots are registered by building a tree. In a tree that directives built, a registered root is a
block.
-/

namespace Treewalk

variable {World Result : Type}

/-- A contract of the machine, held by computations on the workspace. Misuse is not for the machine
to raise. -/
def Contract.onWorkspace (contract : Contract (Machine World)) : Contract (Workspace World) where
  Raised fault := contract.Raised fault ∨ fault.isMisuse = true
  Finished before after := contract.Finished before.machine after.machine
  Reached before after := contract.Reached before.machine after.machine
  refl workspace := contract.refl workspace.machine
  trans earlier later := contract.trans earlier later
  reached_of_finished finished := contract.reached_of_finished finished
  reached_trans earlier later := contract.reached_trans earlier later

/-- What scripts have the machine do keeps a contract. -/
structure Contract.Lifted (contract : Contract (Machine World)) (graph : ScriptGraph World) :
    Prop where
  raises_unknownNode (node : NodeId) : contract.Raised (.ofCause (.unknownNode node))
  binds (layout : Layout) (machine : Machine World) :
    contract.Finished machine { machine with store := machine.store.bind layout }
  notes_script (root : NodeId) (frames : List Frame) (store : Store) (machine : Machine World) :
    contract.Finished machine (machine.note (.scriptOpened root frames store))
  /-- Running a body in a scope that no call entered. -/
  within (layout : Layout) (ownsBindings : Bool) {Result : Type}
    {body : Exec (Machine World) Result} (kept : contract.Kept body) :
    contract.Kept (Activation.within { layout, ownsBindings } body)
  /-- Announcing a library and running its declarations. -/
  library (number : Nat) (status : ScriptStatus) (fuel : Nat) :
    let script := graph.script number
    let program := ScriptGraph.program script status
    contract.Kept do
      Exec.update fun machine =>
        machine.note (.libraryOpened script.root machine.monitor.frames machine.store)
      program.runDeclarations (program.process fuel) (script.tree.statements script.root)
  root (number : Nat) (status : ScriptStatus) (fuel : Nat) {layout : Layout}
    (registered : (graph.script number).tree.rootLayout? (graph.script number).root =
      some layout) :
    contract.Kept
      ((ScriptGraph.program (graph.script number) status).process fuel (graph.script number).root)

namespace Contract.Lifted

open ScriptGraph Workspace

variable {contract : Contract (Machine World)} {graph : ScriptGraph World}

/-- A computation on the machine keeps the contract if it does so there. -/
theorem kept_onMachine {body : Exec (Machine World) Result} (kept : contract.Kept body) :
    contract.onWorkspace.Kept (onMachine body) := by
  intro before
  have fulfilled := kept before.machine
  simp only [onMachine, Exec.zoom]
  cases ended : body before.machine with
  | done result after =>
    rw [ended] at fulfilled
    exact fulfilled
  | failed fault after =>
    rw [ended] at fulfilled
    exact ⟨Or.inl fulfilled.1, fulfilled.2⟩
  | exhausted after =>
    rw [ended] at fulfilled
    exact fulfilled

/-- What leaves the machine alone keeps every contract of the machine. -/
theorem kept_aside {change : Workspace World → Workspace World}
    (aside : ∀ workspace, (change workspace).machine = workspace.machine) :
    contract.onWorkspace.Kept (Exec.update change) := by
  apply kept_update
  intro workspace
  change contract.Finished workspace.machine (change workspace).machine
  rw [aside workspace]
  exact contract.refl workspace.machine

variable (lifted : contract.Lifted graph)

include lifted

/-- The frames of libraries are scopes of scripts. -/
theorem withinFrames (layouts : List Layout) {body : Exec (Machine World) Result}
    (kept : contract.Kept body) : contract.Kept (Activation.withinFrames layouts body) := by
  induction layouts with
  | nil => exact kept
  | cons layout rest inductionHypothesis => exact lifted.within layout false inductionHypothesis

/-- Declaring a library binds its variables and runs its declarations. -/
theorem declare (fuel number : Nat) : contract.onWorkspace.Kept (graph.declare fuel number) := by
  apply kept_rootLayout (Or.inl (lifted.raises_unknownNode _))
  intro layout _
  apply kept_bind
  · exact kept_update fun before => lifted.binds layout before.machine
  · intro _
    apply kept_state
    intro workspace
    apply kept_onMachine
    apply lifted.withinFrames
    apply lifted.within
    exact lifted.library number _ fuel

/-- The induction is on the number of the script. -/
theorem prepare (fuel number : Nat) (skipSelf : Bool) :
    contract.onWorkspace.Kept (graph.prepare fuel number skipSelf) := by
  induction number using Nat.strongRecOn generalizing skipSelf with
  | ind number inductionHypothesis =>
    rw [ScriptGraph.prepare]
    apply kept_bind
    · exact kept_aside fun _ => rfl
    · intro _
      apply kept_bind
      · apply kept_forM
        intro library _
        apply kept_unlessInitialized
        intro workspace _
        exact inductionHypothesis library.1 library.2 false workspace
      · intro _
        split
        · exact kept_pure _
        · exact lifted.declare fuel number

/-- A root block is walked in a scope of its own, after its opening was noted. -/
theorem runRoot (fuel number : Nat) : contract.onWorkspace.Kept (graph.runRoot fuel number) := by
  apply kept_rootLayout (Or.inl (lifted.raises_unknownNode _))
  intro layout registered
  apply kept_state
  intro workspace
  apply kept_onMachine
  apply lifted.withinFrames
  apply lifted.within
  apply kept_bind
  · exact kept_update fun machine => lifted.notes_script _ _ _ machine
  · intro _
    exact lifted.root number _ fuel registered

/-- A run prepares the libraries and walks the root block. -/
theorem run (fuel number : Nat) : contract.onWorkspace.Kept (graph.run fuel number) := by
  apply kept_bind
  · exact kept_aside fun _ => rfl
  · intro _
    apply kept_state
    intro workspace
    split
    · exact lifted.runRoot fuel number
    · exact kept_bind (lifted.prepare fuel number true) fun _ => lifted.runRoot fuel number

/-- The events around a run are no business of the machine. -/
theorem process (fuel number : Nat) : contract.onWorkspace.Kept (graph.process fuel number) := by
  apply kept_state
  intro workspace
  split
  · exact kept_fail (Or.inr rfl)
  · apply kept_bind
    · exact kept_aside fun _ => machine_announce _ _ _
    · intro _ before
      apply fulfilled_ensuring (lifted.run fuel number before)
      · intro after finished
        change contract.Finished before.machine (after.announce _ _).machine
        rw [machine_announce]
        exact finished
      · exact fun _ reached => reached

end Contract.Lifted

namespace Builder

/-- Registered roots are blocks. -/
def RootsAreBlocks (builder : Builder World) : Prop :=
  ∀ root ∈ builder.roots, ∃ statements,
    builder.instruction? root = some (.statement (.block statements))

/-- Giving the next identity to a node leaves the others alone. -/
theorem instruction?_push {builder : Builder World} {node : NodeId} (fresh : Node World)
    {instruction : Instruction World} (found : builder.instruction? node = some instruction) :
    ({ builder with nodes := builder.nodes.push fresh } : Builder World).instruction? node =
      some instruction := by
  simp only [instruction?, Option.map_eq_some_iff] at found ⊢
  obtain ⟨present, atIndex, same⟩ := found
  refine ⟨present, ?_, same⟩
  obtain ⟨below, -⟩ := Array.getElem?_eq_some_iff.mp atIndex
  rw [Array.getElem?_push_lt below, ← Array.getElem?_eq_getElem below]
  exact atIndex

/-- A block stays a block, whatever is amended about functions and lines. -/
theorem instruction?_amend {builder : Builder World} {node amended : NodeId}
    {change : Node World → Node World} {statements : List NodeId}
    (keeps : ∀ found : Node World, found.instruction = .statement (.block statements) →
      (change found).instruction = .statement (.block statements))
    (found : builder.instruction? node = some (.statement (.block statements))) :
    (builder.amend amended change).instruction? node = some (.statement (.block statements)) := by
  simp only [instruction?, amend, Option.map_eq_some_iff, Array.getElem?_modify] at found ⊢
  obtain ⟨present, atIndex, block⟩ := found
  split
  · exact ⟨change present, by rw [atIndex]; rfl, keeps present block⟩
  · exact ⟨present, atIndex, block⟩

/-- A new root is a block, and no directive makes something else of it. -/
theorem RootsAreBlocks.apply {builder next : Builder World} {directive : Directive World}
    {given : Option NodeId} (blocks : builder.RootsAreBlocks)
    (applied : builder.apply directive = some (given, next)) : next.RootsAreBlocks := by
  cases directive with
  | node instruction =>
    simp only [Builder.apply, allocate] at applied
    split at applied
    · cases applied
      intro root member
      obtain ⟨statements, found⟩ := blocks root member
      exact ⟨statements, instruction?_push _ found⟩
    · cases applied
  | root statements =>
    simp only [Builder.apply, allocate] at applied
    split at applied
    · cases applied
      intro root member
      rcases List.mem_append.mp member with older | newer
      · obtain ⟨others, found⟩ := blocks root older
        exact ⟨others, instruction?_push _ found⟩
      · rw [List.mem_singleton.mp newer]
        exact ⟨statements, by simp [instruction?]⟩
    · cases applied
  | define function parameters body =>
    cases applied
    intro root member
    obtain ⟨statements, found⟩ := blocks root member
    refine ⟨statements, instruction?_amend ?_ found⟩
    intro node block
    simp only [block, redefine]
  | line node line =>
    cases applied
    intro root member
    obtain ⟨statements, found⟩ := blocks root member
    exact ⟨statements, instruction?_amend (fun _ block => block) found⟩

/-- The induction is on the directives. -/
theorem RootsAreBlocks.applyAll {builder final : Builder World}
    {directives : List (Directive World)} (blocks : builder.RootsAreBlocks)
    (built : builder.applyAll directives = some final) : final.RootsAreBlocks := by
  induction directives generalizing builder with
  | nil =>
    cases built
    exact blocks
  | cons directive rest inductionHypothesis =>
    obtain ⟨⟨given, next⟩, applied, remaining⟩ := Option.bind_eq_some_iff.mp built
    exact inductionHypothesis (blocks.apply applied) remaining

end Builder

/-- The tree was built by directives. -/
def Tree.IsBuilt (tree : Tree World) : Prop :=
  ∃ directives builder key,
    Builder.applyAll { } directives = some builder ∧ tree = builder.finish key

/-- In a built tree the registered roots are blocks. -/
theorem Tree.IsBuilt.block_of_rootLayout? {tree : Tree World} (built : tree.IsBuilt)
    {root : NodeId} {layout : Layout} (registered : tree.rootLayout? root = some layout) :
    ∃ statements, tree.instruction root = .ok (.statement (.block statements)) := by
  obtain ⟨directives, builder, key, applied, rfl⟩ := built
  obtain ⟨listed, owner⟩ := Tree.rootLayout?_eq_some registered
  have start : ({ } : Builder World).RootsAreBlocks := List.forall_mem_nil _
  have known : root ∈ builder.roots := by
    simp only [Builder.finish, Builder.scopes, List.mem_map, List.mem_append] at listed
    obtain ⟨scope, ⟨other, known, rfl⟩ | ⟨function, -, rfl⟩, rfl⟩ := listed
    · rw [Layout.owner_ofVariables] at owner
      cases owner
      exact known
    · rw [Layout.owner_ofVariables] at owner
      cases owner
  obtain ⟨statements, found⟩ := start.applyAll applied root known
  obtain ⟨node, atIndex, block⟩ := Option.map_eq_some_iff.mp found
  refine ⟨statements, ?_⟩
  simp only [Tree.instruction, Tree.get?, Builder.finish, atIndex, block]

/-- The trees of all scripts were built by directives. -/
def ScriptGraph.IsBuilt (graph : ScriptGraph World) : Prop :=
  ∀ number < graph.scripts.size, (graph.script number).tree.IsBuilt

/-- In a graph with built trees the registered roots of scripts are blocks. -/
theorem ScriptGraph.IsBuilt.root_block {graph : ScriptGraph World} (built : graph.IsBuilt)
    {number : Nat} {layout : Layout}
    (registered : (graph.script number).tree.rootLayout? (graph.script number).root =
      some layout) :
    ∃ statements, (graph.script number).tree.instruction (graph.script number).root =
      .ok (.statement (.block statements)) := by
  by_cases known : number < graph.scripts.size
  · exact (built number known).block_of_rootLayout? registered
  · -- The blank script has no tree, and no root is registered in it.
    have blank : graph.script number = .blank World := by
      simp [ScriptGraph.script, Array.getD, known]
    rw [blank] at registered
    cases registered

/-- The graph of one script, whose tree is built by directives. -/
def ScriptGraph.sole (directives : List (Directive World)) (root : NodeId) : ScriptGraph World :=
  ⟨#[{ name := ⟨"sole"⟩
       tree := ((Builder.applyAll { } directives).getD { }).finish 0
       root }]⟩

/-- A single script lives in the tree that its directives build. -/
theorem ScriptGraph.sole_isBuilt (directives : List (Directive World)) (root : NodeId)
    {builder : Builder World} (built : Builder.applyAll { } directives = some builder) :
    (ScriptGraph.sole directives root).IsBuilt := by
  intro number known
  rw [Nat.lt_one_iff.mp known]
  refine ⟨directives, builder, 0, built, ?_⟩
  simp [ScriptGraph.sole, ScriptGraph.script, built]

end Treewalk
