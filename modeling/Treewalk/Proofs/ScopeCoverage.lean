import Mathlib.Data.Finset.Card
import Treewalk.Proofs.ScopeLayouts
import Treewalk.Proofs.ScriptContracts

/-!
# What a layout covers

The layout of a scope is computed by a walk through the arena that visits every node once and goes
for as many rounds as there are nodes. Nodes may be shared and may stand below themselves, so it is
the visited nodes, and not the shape of the arena, that bound the walk: with a round for each node
that is not visited yet, it misses nothing that can be reached.

`Tree.InScope` says what can be reached in the scope of a root block or a function, going from
parents to children and into no other function. `Tree.Region` collects what is needed of a set of
nodes to run in a scope: it is closed under going to children, and the layout of the scope binds
every variable declared in it. In a tree built by directives every function and every registered
root has such a region.
-/

namespace Treewalk

variable {World : Type}

namespace Builder

/-- The positions of the nodes that are not visited yet. -/
def unvisited (builder : Builder World) (visited : List NodeId) : Finset Nat :=
  (Finset.range builder.nodes.size).filter fun index => ⟨index⟩ ∉ visited

/-- A builder knows the instructions of the nodes that it has. -/
theorem isSome_instruction? {builder : Builder World} {node : NodeId} :
    (builder.instruction? node).isSome = true ↔ node.index < builder.nodes.size := by
  simp [instruction?]

/-- Visiting a node leaves fewer to visit. -/
theorem card_unvisited_lt {builder : Builder World} {visited : List NodeId} {node : NodeId}
    (known : (builder.instruction? node).isSome = true) (fresh : node ∉ visited) :
    (builder.unvisited (node :: visited)).card < (builder.unvisited visited).card := by
  apply Finset.card_lt_card
  rw [Finset.ssubset_iff_of_subset]
  · refine ⟨node.index, ?_, ?_⟩
    · simpa [unvisited, isSome_instruction?.mp known] using fresh
    · simp [unvisited]
  · intro index
    simp only [unvisited, Finset.mem_filter, List.mem_cons, not_or]
    rintro ⟨inRange, -, unseen⟩
    exact ⟨inRange, unseen⟩

/-- Where no node is left to visit, all have been. -/
theorem mem_of_card_unvisited {builder : Builder World} {visited : List NodeId} {node : NodeId}
    (none : (builder.unvisited visited).card = 0)
    (known : (builder.instruction? node).isSome = true) : node ∈ visited := by
  by_contra unseen
  have listed : node.index ∈ builder.unvisited visited := by
    simpa [unvisited, isSome_instruction?.mp known] using unseen
  rw [Finset.card_eq_zero.mp none] at listed
  cases listed

/-- The walk passes over a node that was visited before or that is not in the arena. -/
abbrev isSettled (builder : Builder World) (visited : List NodeId) (node : NodeId) : Bool :=
  visited.contains node || (builder.instruction? node).isNone

/-- A pending node of the arena was visited or is not passed over. -/
theorem mem_of_mem_pending {builder : Builder World} {visited pending : List NodeId}
    {node : NodeId} (listed : node ∈ pending)
    (known : (builder.instruction? node).isSome = true) :
    node ∈ visited ∨ node ∈ pending.dropWhile (builder.isSettled visited) := by
  by_cases seen : node ∈ visited
  · exact .inl seen
  · right
    have unsettled : builder.isSettled visited node = false := by
      simpa [isSettled, seen] using known
    induction pending with
    | nil => cases listed
    | cons first rest inductionHypothesis =>
      rw [List.dropWhile_cons]
      rcases List.mem_cons.mp listed with rfl | later
      · rw [unsettled]
        exact List.mem_cons_self
      · split
        · exact inductionHypothesis later
        · exact List.mem_cons_of_mem first later

/-- With a round for every node that is not visited yet, the walk visits whatever is pending and
whatever stands below a node that it visits. -/
theorem scopePreorder_complete (builder : Builder World) {rounds : Nat}
    {visited pending : List NodeId} (enough : (builder.unvisited visited).card ≤ rounds) :
    (∀ node ∈ pending, (builder.instruction? node).isSome = true →
      node ∈ visited ∨ node ∈ builder.scopePreorder rounds visited pending) ∧
    ∀ node ∈ builder.scopePreorder rounds visited pending,
      ∀ child ∈ builder.scopeChildren node, (builder.instruction? child).isSome = true →
        child ∈ visited ∨ child ∈ builder.scopePreorder rounds visited pending := by
  induction rounds generalizing visited pending with
  | zero =>
    refine ⟨fun node _ known => .inl ?_, fun node member => absurd member List.not_mem_nil⟩
    exact mem_of_card_unvisited (Nat.le_zero.mp enough) known
  | succ rounds inductionHypothesis =>
    have pendingCases {node : NodeId} (listed : node ∈ pending)
        (known : (builder.instruction? node).isSome = true) :
        node ∈ visited ∨ node ∈ pending.dropWhile (builder.isSettled visited) :=
      mem_of_mem_pending listed known
    have unsettled := List.head?_dropWhile_not (builder.isSettled visited) pending
    simp only [scopePreorder]
    split
    · next remaining =>
      refine ⟨fun node listed known => .inl ?_, fun node member => absurd member List.not_mem_nil⟩
      simpa [remaining] using pendingCases listed known
    · next first rest remaining =>
      rw [remaining] at unsettled
      obtain ⟨fresh, known⟩ : first ∉ visited ∧ (builder.instruction? first).isSome = true := by
        simpa using unsettled
      have enoughLeft : (builder.unvisited (first :: visited)).card ≤ rounds := by
        have fewer := card_unvisited_lt known fresh
        omega
      obtain ⟨reached, closed⟩ :=
        @inductionHypothesis (first :: visited) (builder.scopeChildren first ++ rest) enoughLeft
      -- The node of this round counts as visited later on.
      have shifted {node : NodeId} {later : List NodeId}
          (found : node ∈ first :: visited ∨ node ∈ later) :
          node ∈ visited ∨ node ∈ first :: later := by
        simp only [List.mem_cons] at found ⊢
        tauto
      constructor
      · intro node listed nodeKnown
        rcases pendingCases listed nodeKnown with seen | left
        · exact .inl seen
        · rw [remaining] at left
          rcases List.mem_cons.mp left with rfl | later
          · exact .inr List.mem_cons_self
          · exact shifted (reached node (List.mem_append_right _ later) nodeKnown)
      · intro node member child below childKnown
        rcases List.mem_cons.mp member with rfl | later
        · exact shifted (reached child (List.mem_append_left _ below) childKnown)
        · exact shifted (closed node later child below childKnown)

end Builder

namespace Tree

/-- The children of a node that run in the scope of the node; those of a function do not. -/
def scopeChildren (tree : Tree World) (node : NodeId) : List NodeId :=
  if (tree.functionAt? node).isSome then [] else tree.children node

/-- A node can be reached in the scope of a root block or a function. -/
inductive InScope (tree : Tree World) (owner : NodeId) : NodeId → Prop where
  | child {node : NodeId} (listed : node ∈ tree.children owner) : InScope tree owner node
  | deeper {node child : NodeId} (inside : InScope tree owner node)
      (listed : child ∈ tree.scopeChildren node) : InScope tree owner child

/-- The nodes run in a scope with this layout: whatever they run in turn is among them, and their
variables are bound. -/
structure Region (tree : Tree World) (layout : Layout) (Inside : NodeId → Prop) : Prop where
  below {node : NodeId} (inside : Inside node) : ∀ child ∈ tree.scopeChildren node, Inside child
  binds {node : NodeId} (inside : Inside node) {declaration : VariableDeclaration}
    (declared : tree.variableAt? node = some declaration) : layout.binds (tree.cell node)

/-- Whatever a node but a function runs is in the region of the node. -/
theorem Region.children {tree : Tree World} {layout : Layout} {Inside : NodeId → Prop}
    (region : tree.Region layout Inside) {node : NodeId} (inside : Inside node)
    {instruction : Instruction World} (found : tree.instruction node = .ok instruction)
    (plain : instruction.declaredFunction? = none) :
    ∀ child ∈ instruction.children, Inside child := by
  intro child listed
  refine region.below inside child ?_
  simpa [scopeChildren, functionAt?_of_instruction found, plain,
    children_of_instruction found] using listed

end Tree

namespace Builder

variable {builder : Builder World} {key : Nat}

/-- The finished tree declares at each node the variable that its instruction declares. -/
theorem variableAt?_finish (node : NodeId) :
    (builder.finish key).variableAt? node =
      (builder.instruction? node).bind (·.declaredVariable?) := by
  simp only [Tree.variableAt?, Tree.get?, finish, instruction?]
  cases builder.nodes[node.index]? <;> rfl

/-- The finished tree declares at each node the function that its instruction declares. -/
theorem functionAt?_finish (node : NodeId) :
    (builder.finish key).functionAt? node =
      (builder.instruction? node).bind (·.declaredFunction?) := by
  simp only [Tree.functionAt?, Tree.get?, finish, instruction?]
  cases builder.nodes[node.index]? <;> rfl

/-- Finishing a tree keeps the children of its nodes. -/
theorem children_finish (node : NodeId) :
    (builder.finish key).children node = builder.children node := by
  simp only [Tree.children, Builder.children, Tree.get?, finish, instruction?]
  cases builder.nodes[node.index]? <;> rfl

/-- Finishing a tree keeps the children that stay inside a scope. -/
theorem scopeChildren_finish (node : NodeId) :
    (builder.finish key).scopeChildren node = builder.scopeChildren node := by
  simp only [Tree.scopeChildren, Builder.scopeChildren, functionAt?_finish, children_finish]

/-- What can be reached in a scope is visited by the walk through it. -/
theorem mem_scopePreorder_of_inScope {owner node : NodeId}
    (inside : (builder.finish key).InScope owner node)
    (known : (builder.instruction? node).isSome = true) :
    node ∈ builder.scopePreorder builder.nodes.size [] (builder.children owner) := by
  have enough : (builder.unvisited []).card ≤ builder.nodes.size := by
    simp [unvisited]
  obtain ⟨reached, closed⟩ :=
    @scopePreorder_complete World builder _ [] (builder.children owner) enough
  induction inside with
  | child listed =>
    rw [children_finish] at listed
    simpa using reached _ listed known
  | @deeper parent child _ listed inductionHypothesis =>
    rw [scopeChildren_finish] at listed
    -- A node that has children is in the arena.
    have parentKnown : (builder.instruction? parent).isSome = true := by
      by_contra unknown
      simp [scopeChildren, Builder.children, Option.not_isSome_iff_eq_none.mp unknown] at listed
    simpa using closed parent (inductionHypothesis parentKnown) child listed known

/-- A declaration inside a scope is among its sites. -/
theorem mem_scopeSites {owner site : NodeId} {declaration : VariableDeclaration}
    (inside : (builder.finish key).InScope owner site)
    (declared : (builder.finish key).variableAt? site = some declaration) :
    (site, declaration) ∈ builder.scopeSites owner := by
  rw [variableAt?_finish] at declared
  obtain ⟨instruction, found, declares⟩ := Option.bind_eq_some_iff.mp declared
  have visited := mem_scopePreorder_of_inScope inside (by rw [found]; rfl)
  exact List.mem_filterMap.mpr ⟨site, visited, by rw [found]; simp [declares]⟩

/-- The layout of a root or a function binds every variable that can be reached in its scope. -/
theorem binds_of_inScope {layout : Layout} (listed : layout ∈ (builder.finish key).layouts)
    {owner site : NodeId} (owned : layout.owner = .script owner ∨ layout.owner = .function owner)
    {declaration : VariableDeclaration} (inside : (builder.finish key).InScope owner site)
    (declared : (builder.finish key).variableAt? site = some declaration) :
    layout.binds ((builder.finish key).cell site) := by
  have site_listed := mem_scopeSites inside declared
  simp only [finish, scopes, List.mem_map, List.mem_append] at listed
  obtain ⟨scope, ⟨other, -, rfl⟩ | ⟨other, -, rfl⟩, rfl⟩ := listed
  · obtain rfl : other = owner := by simpa using owned
    rw [Layout.binds, Layout.entries_ofVariables]
    exact ⟨_, List.mem_map_of_mem site_listed, rfl⟩
  · obtain rfl : other = owner := by simpa using owned
    rw [Layout.binds, Layout.entries_ofVariables]
    exact ⟨_, List.mem_map_of_mem site_listed, rfl⟩

/-- Every declared function has a layout. -/
theorem functionLayout_finish {callee : NodeId} {function : FunctionDeclaration}
    (declared : (builder.finish key).functionAt? callee = some function) :
    (builder.finish key).functionLayout callee ∈ (builder.finish key).layouts ∧
      ((builder.finish key).functionLayout callee).owner = .function callee := by
  rw [functionAt?_finish] at declared
  have known : callee.index < builder.nodes.size := by
    rw [← isSome_instruction?]
    obtain ⟨instruction, found, -⟩ := Option.bind_eq_some_iff.mp declared
    rw [found]
    rfl
  have listed : callee ∈ builder.functions := by
    simp only [functions, List.mem_filter, List.mem_map, List.mem_range, declared]
    exact ⟨⟨callee.index, known, rfl⟩, rfl⟩
  have present : ((builder.finish key).layout? (.function callee)).isSome = true := by
    rw [Tree.layout?, List.find?_isSome]
    exact ⟨_, List.mem_map_of_mem (List.mem_append_right _ (List.mem_map_of_mem listed)), by simp⟩
  obtain ⟨layout, found⟩ := Option.isSome_iff_exists.mp present
  simp only [Tree.functionLayout, found, Option.getD_some]
  exact ⟨List.mem_of_find?_eq_some found, by simpa using List.find?_some found⟩

end Builder

namespace Tree.IsBuilt

variable {tree : Tree World}

/-- What can be reached from a function runs in the scope of the function. -/
theorem functionRegion (built : tree.IsBuilt) {callee : NodeId} {function : FunctionDeclaration}
    (declared : tree.functionAt? callee = some function) :
    tree.Region (tree.functionLayout callee) (tree.InScope callee) := by
  obtain ⟨directives, builder, key, -, rfl⟩ := built
  obtain ⟨listed, owner⟩ := Builder.functionLayout_finish declared
  exact ⟨fun inside child => inside.deeper, fun inside _ declared =>
    Builder.binds_of_inScope listed (.inr owner) inside declared⟩

/-- A registered root and what can be reached from it run in the scope of the root. -/
theorem rootRegion (built : tree.IsBuilt) {root : NodeId} {layout : Layout}
    (registered : tree.rootLayout? root = some layout) :
    tree.Region layout fun node => node = root ∨ tree.InScope root node := by
  obtain ⟨statements, block⟩ := built.block_of_rootLayout? registered
  obtain ⟨directives, builder, key, -, rfl⟩ := built
  obtain ⟨listed, owner⟩ := Tree.rootLayout?_eq_some registered
  constructor
  · rintro node (rfl | inside) child below
    · simp only [scopeChildren] at below
      split at below
      · cases below
      · exact .inr (.child below)
    · exact .inr (inside.deeper below)
  · rintro node (rfl | inside) declaration declared
    · -- The root is a block and declares nothing itself.
      rw [Tree.instruction_of_variableAt? declared] at block
      cases block
    · exact Builder.binds_of_inScope listed (.inl owner) inside declared

end Tree.IsBuilt

end Treewalk
