import Treewalk.Proofs.ScopeCoverage

/-!
# Scopes in source order

The walk that settles the scopes keeps a stack of what is pending. A node is marked when it is taken
off the stack, so the stack may hold nodes that have been visited in the meantime, and the children
of a node are put on it no matter whether they stand there already. `Tree.Preorder` is the walk that
one would write down instead: it goes through the children of a node before it goes on, and passes
over nodes that were met before. `Builder.preorder_scopePreorder` shows that both meet the same
nodes in the same order, also where nodes are shared, stand below themselves or do not exist.

The layout of a scope binds the variables that this walk meets, and its frames record the same ones.
`Tree.LaysOut` collects what that makes of a layout.
-/

namespace Treewalk

variable {World : Type}

namespace Tree

/-- The recursive walk through nodes and what stands below them in the same scope. Given the nodes
visited before and the nodes to go through, it meets some more, each at its first occurrence. -/
inductive Preorder (tree : Tree World) : List NodeId → List NodeId → List NodeId → Prop where
  | nil (visited : List NodeId) : Preorder tree visited [] []
  /-- The node was visited before or is not in the tree. -/
  | past {visited rest met : List NodeId} {node : NodeId}
      (settled : node ∈ visited ∨ tree.get? node = none)
      (later : Preorder tree visited rest met) : Preorder tree visited (node :: rest) met
  | visit {visited rest below met : List NodeId} {node : NodeId} (fresh : node ∉ visited)
      (known : tree.get? node ≠ none)
      (inside : Preorder tree (node :: visited) (tree.scopeChildren node) below)
      (later : Preorder tree (below ++ node :: visited) rest met) :
      Preorder tree visited (node :: rest) (node :: below ++ met)

namespace Preorder

variable {tree : Tree World} {visited pending met : List NodeId}

/-- The order in which nodes were visited before makes no difference. -/
theorem congr {others : List NodeId} (walk : tree.Preorder visited pending met)
    (same : ∀ node, node ∈ visited ↔ node ∈ others) : tree.Preorder others pending met := by
  induction walk generalizing others with
  | nil visited => exact .nil others
  | past settled _ inductionHypothesis =>
    exact .past (settled.imp_left (same _).mp) (inductionHypothesis same)
  | visit fresh known _ _ insideHypothesis laterHypothesis =>
    apply Preorder.visit (mt (same _).mpr fresh) known
    · exact insideHypothesis fun node => by simp [same node]
    · exact laterHypothesis fun node => by simp [same node]

/-- Going through nodes and then through others is going through all of them. -/
theorem split {first second : List NodeId} (walk : tree.Preorder visited (first ++ second) met) :
    ∃ early late, met = early ++ late ∧ tree.Preorder visited first early ∧
      tree.Preorder (early ++ visited) second late := by
  generalize listed : first ++ second = pending at walk
  induction walk generalizing first with
  | nil visited =>
    obtain ⟨rfl, rfl⟩ := List.append_eq_nil_iff.mp listed
    exact ⟨[], [], rfl, .nil visited, .nil _⟩
  | @past visited rest met node settled later inductionHypothesis =>
    cases first with
    | nil =>
      obtain rfl : second = node :: rest := listed
      exact ⟨[], met, rfl, .nil visited, .past settled later⟩
    | cons head others =>
      obtain ⟨rfl, rfl⟩ := List.cons_eq_cons.mp listed
      obtain ⟨early, late, rfl, before, after⟩ := inductionHypothesis rfl
      exact ⟨early, late, rfl, .past settled before, after⟩
  | @visit visited rest below met node fresh known inside later _ inductionHypothesis =>
    cases first with
    | nil =>
      obtain rfl : second = node :: rest := listed
      exact ⟨[], _, rfl, .nil visited, .visit fresh known inside later⟩
    | cons head others =>
      obtain ⟨rfl, rfl⟩ := List.cons_eq_cons.mp listed
      obtain ⟨early, late, rfl, before, after⟩ := inductionHypothesis rfl
      refine ⟨head :: below ++ early, late, by simp, .visit fresh known inside before, ?_⟩
      apply after.congr
      intro node
      simp only [List.mem_append, List.mem_cons]
      tauto

/-- There is one way to go through nodes. -/
theorem unique {other : List NodeId} (walk : tree.Preorder visited pending met)
    (again : tree.Preorder visited pending other) : met = other := by
  induction walk generalizing other with
  | nil visited =>
    cases again
    rfl
  | past settled _ inductionHypothesis =>
    cases again with
    | past _ later => exact inductionHypothesis later
    | visit fresh known _ _ => exact (settled.elim fresh known).elim
  | visit fresh known _ _ insideHypothesis laterHypothesis =>
    cases again with
    | past settled _ => exact (settled.elim fresh known).elim
    | visit _ _ inside later =>
      obtain rfl := insideHypothesis inside
      rw [laterHypothesis later]

/-- Only what can be reached in a scope is met in it. -/
theorem inScope {owner : NodeId} (walk : tree.Preorder visited pending met)
    (reached : ∀ node ∈ pending, tree.InScope owner node) :
    ∀ node ∈ met, tree.InScope owner node := by
  induction walk with
  | nil visited => exact fun _ member => absurd member List.not_mem_nil
  | past _ _ inductionHypothesis =>
    exact inductionHypothesis fun node member => reached node (List.mem_cons_of_mem _ member)
  | @visit _ rest below met node _ _ _ _ insideHypothesis laterHypothesis =>
    have here : tree.InScope owner node := reached node List.mem_cons_self
    intro other member
    rcases List.mem_append.mp member with early | late
    · rcases List.mem_cons.mp early with rfl | deeper
      · exact here
      · exact insideHypothesis (fun child listed => here.deeper listed) other deeper
    · exact laterHypothesis (fun node member => reached node (List.mem_cons_of_mem _ member))
        other late

end Preorder

/-- The layout binds and records the variables of the scope of a root block or a function. -/
structure LaysOut (tree : Tree World) (owner : NodeId) (layout : Layout) : Prop where
  /-- The recursive walk through the scope comes to an end, and to one only. -/
  walk : ∃! met, tree.Preorder [] (tree.children owner) met
  /-- The variables bound are those that the walk meets, in the same order. -/
  order : ∀ met, tree.Preorder [] (tree.children owner) met →
    layout.entries.map (·.declaration) =
      met.filter fun node => (tree.variableAt? node).isSome
  distinct : (layout.entries.map (·.declaration)).Nodup
  lists_iff : ∀ site, site ∈ layout.entries.map (·.declaration) ↔
    tree.InScope owner site ∧ (tree.variableAt? site).isSome = true
  /-- A variable has the name it is declared with and knows its owner, and its site names it. -/
  describes : ∀ entry ∈ layout.entries, ∃ declaration,
    tree.variableAt? entry.declaration = some declaration ∧
      entry = ⟨tree.cell entry.declaration, declaration.name, tree.owner entry.declaration⟩ ∧
      Variable.declaredAt? layout.entries entry.declaration = some entry
  /-- What is recorded is recorded for the same sites. -/
  contains_iff : ∀ site, layout.contains site = true ↔
    tree.InScope owner site ∧ (tree.variableAt? site).isSome = true
  recordedOnce : (layout.debugInfo.map (·.declaration)).Nodup
  /-- What is recorded for a site is the variable bound there. -/
  records : ∀ entry ∈ layout.entries,
    Variable.declaredAt? layout.debugInfo entry.declaration = some entry

/-- Variables at different sites are found by their sites. -/
theorem declaredAt?_of_distinct {entries : List Variable}
    (distinct : (entries.map (·.declaration)).Nodup) {entry : Variable}
    (listed : entry ∈ entries) :
    Variable.declaredAt? entries entry.declaration = some entry := by
  have present : (Variable.declaredAt? entries entry.declaration).isSome = true := by
    rw [Variable.declaredAt?, List.find?_isSome]
    exact ⟨entry, listed, by simp⟩
  obtain ⟨found, atSite⟩ := Option.isSome_iff_exists.mp present
  have same : found.declaration = entry.declaration := by
    simpa [Variable.declaredAt?] using List.find?_some atSite
  rw [atSite, List.inj_on_of_nodup_map distinct (List.mem_of_find?_eq_some atSite) listed same]

end Tree

namespace Builder

variable {builder : Builder World} {key : Nat}

/-- A node is unknown while the tree is built if it is so when it is finished. -/
theorem isNone_instruction? {node : NodeId} :
    (builder.instruction? node).isNone = true ↔ (builder.finish key).get? node = none := by
  simp [instruction?, Tree.get?, finish]

/-- Nodes that the walk passes over add nothing to it. -/
theorem preorder_of_dropWhile {visited pending met : List NodeId}
    (walk : (builder.finish key).Preorder visited (pending.dropWhile (builder.isSettled visited))
      met) : (builder.finish key).Preorder visited pending met := by
  induction pending with
  | nil => exact walk
  | cons node rest inductionHypothesis =>
    rw [List.dropWhile_cons] at walk
    split at walk
    · next settled =>
      apply Tree.Preorder.past _ (inductionHypothesis walk)
      have skipped : node ∈ visited ∨ (builder.instruction? node).isNone = true := by
        simpa [isSettled] using settled
      exact skipped.imp_right isNone_instruction?.mp
    · exact walk

/-- With a round for every node that is not visited yet, the walk with a stack of pending nodes is
the recursive one. What is pending after the children of a node is what the recursive walk comes
back to, and by then it has visited all that the stack has. -/
theorem preorder_scopePreorder {rounds : Nat} {visited pending : List NodeId}
    (enough : (builder.unvisited visited).card ≤ rounds) :
    (builder.finish key).Preorder visited pending
      (builder.scopePreorder rounds visited pending) := by
  have unsettled := List.head?_dropWhile_not (builder.isSettled visited) pending
  induction rounds generalizing visited pending with
  | zero =>
    apply preorder_of_dropWhile
    cases remaining : pending.dropWhile (builder.isSettled visited) with
    | nil => exact .nil visited
    | cons node rest =>
      rw [remaining] at unsettled
      obtain ⟨fresh, known⟩ : node ∉ visited ∧ (builder.instruction? node).isSome = true := by
        simpa using unsettled
      exact absurd (mem_of_card_unvisited (Nat.le_zero.mp enough) known) fresh
  | succ rounds inductionHypothesis =>
    apply preorder_of_dropWhile
    simp only [scopePreorder]
    split
    · next remaining =>
      rw [remaining]
      exact .nil visited
    · next node rest remaining =>
      rw [remaining] at unsettled ⊢
      obtain ⟨fresh, known⟩ : node ∉ visited ∧ (builder.instruction? node).isSome = true := by
        simpa using unsettled
      have enoughLeft : (builder.unvisited (node :: visited)).card ≤ rounds := by
        have fewer := card_unvisited_lt known fresh
        omega
      obtain ⟨below, later, met, inside, after⟩ :=
        (inductionHypothesis enoughLeft (List.head?_dropWhile_not _ _)).split
      rw [met]
      apply Tree.Preorder.visit fresh _ _ after
      · intro absent
        rw [← isNone_instruction?] at absent
        simp [Option.isNone_iff_eq_none.mp absent] at known
      · rwa [scopeChildren_finish]

/-- The walk through a scope, as it is done when the builder finishes. -/
def scopeWalk (builder : Builder World) (owner : NodeId) : List NodeId :=
  builder.scopePreorder builder.nodes.size [] (builder.children owner)

/-- The walk of a scope goes through the children of its owner in preorder. -/
theorem preorder_scopeWalk (owner : NodeId) :
    (builder.finish key).Preorder [] ((builder.finish key).children owner)
      (builder.scopeWalk owner) := by
  rw [children_finish]
  exact preorder_scopePreorder (by simp [unvisited])

/-- More rounds than there are nodes change nothing: the walk is not cut off. -/
theorem scopePreorder_of_le (builder : Builder World) (owner : NodeId) {rounds : Nat}
    (enough : builder.nodes.size ≤ rounds) :
    builder.scopePreorder rounds [] (builder.children owner) = builder.scopeWalk owner := by
  have longer : (builder.finish 0).Preorder [] ((builder.finish 0).children owner)
      (builder.scopePreorder rounds [] (builder.children owner)) := by
    rw [children_finish]
    exact preorder_scopePreorder (by simpa [unvisited] using enough)
  exact longer.unique (preorder_scopeWalk owner)

/-- The sites of a scope are the variables that the walk through it meets. -/
theorem map_scopeSites (builder : Builder World) (key : Nat) (owner : NodeId) :
    (builder.scopeSites owner).map (·.1) =
      (builder.scopeWalk owner).filter fun node =>
        ((builder.finish key).variableAt? node).isSome := by
  simp only [scopeSites, scopeWalk, variableAt?_finish, List.map_filterMap, Option.map_map,
    Function.comp_def]
  rw [← List.filterMap_eq_filter]
  refine List.filterMap_congr fun node _ => ?_
  cases declared : (builder.instruction? node).bind (·.declaredVariable?) <;>
    simp [Option.guard, declared]

/-- A site comes with what it declares. -/
theorem variableAt?_of_mem_scopeSites {owner : NodeId} {site : Site}
    (listed : site ∈ builder.scopeSites owner) :
    (builder.finish key).variableAt? site.1 = some site.2 := by
  obtain ⟨node, -, atNode⟩ := List.mem_filterMap.mp listed
  obtain ⟨declaration, declared, rfl⟩ := Option.map_eq_some_iff.mp atNode
  rw [variableAt?_finish, declared]

/-- What a layout binds are the sites of its scope. -/
theorem entries_finish {layout : Layout} (listed : layout ∈ (builder.finish key).layouts)
    {owner : NodeId} (owned : layout.owner = .script owner ∨ layout.owner = .function owner) :
    layout.entries = (builder.scopeSites owner).map fun site =>
      ⟨(builder.finish key).cell site.1, site.2.name, (builder.finish key).owner site.1⟩ := by
  simp only [owner_finish]
  simp only [finish, scopes, List.mem_map, List.mem_append] at listed
  obtain ⟨scope, ⟨other, -, rfl⟩ | ⟨other, -, rfl⟩, rfl⟩ := listed
  · obtain rfl : other = owner := by simpa using owned
    exact Layout.entries_ofVariables _ _
  · obtain rfl : other = owner := by simpa using owned
    exact Layout.entries_ofVariables _ _

/-- The layout of a root or a function lays out its scope. -/
theorem laysOut_finish (settled : (builder.finish key).Settled) {layout : Layout}
    (listed : layout ∈ (builder.finish key).layouts)
    {owner : NodeId} (owned : layout.owner = .script owner ∨ layout.owner = .function owner) :
    (builder.finish key).LaysOut owner layout := by
  let tree := builder.finish key
  have walk : tree.Preorder [] (tree.children owner) (builder.scopeWalk owner) :=
    preorder_scopeWalk owner
  have entries := entries_finish listed owned
  have sites : layout.entries.map (·.declaration) =
      (builder.scopeWalk owner).filter fun node => (tree.variableAt? node).isSome := by
    rw [← map_scopeSites, entries, List.map_map]
    rfl
  have recorded := settled.recorded layout listed
  have distinct := settled.distinct layout listed
  have lists_iff (site : NodeId) : site ∈ layout.entries.map (·.declaration) ↔
      tree.InScope owner site ∧ (tree.variableAt? site).isSome = true := by
    rw [sites, List.mem_filter]
    refine and_congr_left fun declared => ⟨?_, fun inside => ?_⟩
    · exact walk.inScope (fun _ member => .child member) site
    · refine mem_scopePreorder_of_inScope inside ?_
      rw [variableAt?_finish] at declared
      cases found : builder.instruction? site <;> simp_all
  refine ⟨⟨_, walk, fun _ other => other.unique walk⟩, ?_, distinct, lists_iff, ?_, ?_, ?_, ?_⟩
  · intro met again
    rw [sites, walk.unique again]
  · intro entry member
    have found := Tree.declaredAt?_of_distinct distinct member
    rw [entries] at member
    obtain ⟨site, siteListed, rfl⟩ := List.mem_map.mp member
    exact ⟨site.2, variableAt?_of_mem_scopeSites siteListed, rfl, found⟩
  · intro site
    rw [Layout.contains_iff, ← List.mem_map, recorded, lists_iff]
  · rw [recorded]
    exact distinct
  · intro entry member
    rw [recorded]
    exact Tree.declaredAt?_of_distinct distinct member

/-- Every registered root has a layout. -/
theorem rootLayout?_finish {root : NodeId} (registered : root ∈ builder.roots) :
    ∃ layout, (builder.finish key).rootLayout? root = some layout := by
  rw [← Option.isSome_iff_exists, Tree.rootLayout?, Tree.layout?, List.find?_isSome]
  exact ⟨_, List.mem_map_of_mem (List.mem_append_left _ (List.mem_map_of_mem registered)), by simp⟩

/-- A layout is that of a registered root or of a function. -/
theorem owner_of_mem_layouts {layout : Layout} (listed : layout ∈ (builder.finish key).layouts) :
    (∃ root ∈ builder.roots, layout.owner = .script root) ∨
      ∃ callee function, (builder.finish key).functionAt? callee = some function ∧
        layout.owner = .function callee := by
  simp only [finish, scopes, List.mem_map, List.mem_append] at listed
  obtain ⟨scope, ⟨root, registered, rfl⟩ | ⟨callee, declared, rfl⟩, rfl⟩ := listed
  · exact .inl ⟨root, registered, Layout.owner_ofVariables _ _⟩
  · have present := (List.mem_filter.mp declared).2
    obtain ⟨function, found⟩ := Option.isSome_iff_exists.mp present
    exact .inr ⟨callee, function, (functionAt?_finish callee).trans found,
      Layout.owner_ofVariables _ _⟩

end Builder

namespace Tree

/-- A declaration has no owner exactly if no layout lists it. -/
theorem owner_eq_detached_iff {tree : Tree World} (settled : tree.Settled) (declaration : NodeId) :
    tree.owner declaration = .detached ↔
      ∀ layout ∈ tree.layouts, layout.contains declaration = false := by
  simp only [Tree.owner]
  split
  · next layout found =>
    have member := List.mem_reverse.mp (List.mem_of_find?_eq_some found)
    have lists := List.find?_some found
    refine iff_of_false (settled.attached layout member) fun none => ?_
    rw [none layout member] at lists
    cases lists
  · next none =>
    refine iff_of_true rfl fun layout member => ?_
    simpa using List.find?_eq_none.mp none layout (List.mem_reverse.mpr member)

/-- A declaration that is in the layout of one scope only belongs to that scope. -/
theorem owner_eq_of_sole {tree : Tree World} (settled : tree.Settled) {layout : Layout}
    (member : layout ∈ tree.layouts) {declaration : NodeId}
    (lists : layout.contains declaration = true)
    (sole : ∀ other ∈ tree.layouts, other.contains declaration = true →
      other.owner = layout.owner) : tree.owner declaration = layout.owner := by
  have attached : tree.owner declaration ≠ .detached := by
    intro detached
    rw [(owner_eq_detached_iff settled declaration).mp detached layout member] at lists
    cases lists
  obtain ⟨other, otherMember, owner, otherLists⟩ := exists_layout_of_owner rfl attached
  rw [← owner, sole other otherMember otherLists]

end Tree

/-- Whatever directives a builder was given, finishing it walks every scope to its end and gives a
layout to every registered root, to every function and to nothing else. The layout of a scope binds,
each once and in the order of the recursive walk, the variables that can be reached in the scope,
and its frames record the same ones.
A declaration has no owner exactly if no layout lists it; otherwise a layout of its owner lists it,
and if only the layout of one scope does, then that scope is its owner. -/
theorem scope_layouts {directives : List (Directive World)} {builder : Builder World}
    (built : Builder.applyAll { } directives = some builder) (key : Nat) :
    let tree := builder.finish key
    (∀ owner rounds, builder.nodes.size ≤ rounds →
      builder.scopePreorder rounds [] (builder.children owner) = builder.scopeWalk owner) ∧
    (∀ root ∈ builder.roots, ∃ layout,
      tree.rootLayout? root = some layout ∧ layout ∈ tree.layouts ∧
        layout.owner = .script root ∧ tree.LaysOut root layout) ∧
    (∀ callee function, tree.functionAt? callee = some function →
      tree.functionLayout callee ∈ tree.layouts ∧
        (tree.functionLayout callee).owner = .function callee ∧
        tree.LaysOut callee (tree.functionLayout callee)) ∧
    (∀ layout ∈ tree.layouts,
      (∃ root ∈ builder.roots, layout.owner = .script root ∧ tree.LaysOut root layout) ∨
      ∃ callee function, tree.functionAt? callee = some function ∧
        layout.owner = .function callee ∧ tree.LaysOut callee layout) ∧
    ∀ declaration,
      (tree.owner declaration = .detached ↔
        ∀ layout ∈ tree.layouts, layout.contains declaration = false) ∧
      (tree.owner declaration ≠ .detached → ∃ layout ∈ tree.layouts,
        layout.owner = tree.owner declaration ∧ layout.contains declaration = true) ∧
      ∀ layout ∈ tree.layouts, layout.contains declaration = true →
        (∀ other ∈ tree.layouts, other.contains declaration = true →
          other.owner = layout.owner) → tree.owner declaration = layout.owner := by
  intro tree
  have settled : tree.Settled := Builder.finish_settled built key
  refine ⟨fun owner rounds => builder.scopePreorder_of_le owner, fun root registered => ?_,
    fun callee function declared => ?_, fun layout member => ?_,
    fun declaration => ⟨Tree.owner_eq_detached_iff settled declaration,
      Tree.exists_layout_of_owner rfl,
      fun layout member lists sole => Tree.owner_eq_of_sole settled member lists sole⟩⟩
  · obtain ⟨layout, found⟩ : ∃ layout, tree.rootLayout? root = some layout :=
      Builder.rootLayout?_finish registered
    obtain ⟨member, owner⟩ := Tree.rootLayout?_eq_some found
    exact ⟨layout, found, member, owner, Builder.laysOut_finish settled member (.inl owner)⟩
  · obtain ⟨member, owner⟩ := Builder.functionLayout_finish declared
    exact ⟨member, owner, Builder.laysOut_finish settled member (.inr owner)⟩
  · rcases Builder.owner_of_mem_layouts member with
      ⟨root, registered, owner⟩ | ⟨callee, function, declared, owner⟩
    · exact .inl ⟨root, registered, owner, Builder.laysOut_finish settled member (.inl owner)⟩
    · exact .inr ⟨callee, function, declared, owner,
        Builder.laysOut_finish settled member (.inr owner)⟩

/-- A root block that reaches a list twice and itself, a function that shares a variable with it and
whose body comes later and contains itself, a variable that nothing reaches, and an identity without
a node. -/
def tangledDirectives : List (Directive Unit) :=
  [.node (.expression (.literal .null)),
    .node (.statement (.declareVariable ⟨"a", .plain, some ⟨2⟩⟩)),
    .node (.expression (.list [⟨1⟩, ⟨3⟩, ⟨42⟩])),
    .node (.statement (.declareVariable ⟨"b", .plain, none⟩)),
    .node (.statement (.declareFunction ⟨"f", [⟨3⟩], ⟨5⟩⟩)),
    .node (.statement (.block [⟨6⟩, ⟨3⟩, ⟨5⟩])),
    .node (.statement (.declareVariable ⟨"c", .plain, none⟩)),
    .node (.statement (.declareVariable ⟨"d", .plain, none⟩)),
    .root [⟨2⟩, ⟨4⟩, ⟨1⟩, ⟨8⟩]]

/-- The variable that both scopes contain has an entry in both layouts and is owned by the function,
and what nothing reaches is detached. -/
theorem scope_layouts_tangled :
    ∃ builder, Builder.applyAll { } tangledDirectives = some builder ∧
      let tree := builder.finish 0
      (∃ layout, tree.rootLayout? ⟨8⟩ = some layout ∧ tree.LaysOut ⟨8⟩ layout ∧
        layout.entries.map (·.declaration) = [⟨1⟩, ⟨3⟩] ∧
        layout.debugInfo.map (·.declaration) = [⟨1⟩, ⟨3⟩]) ∧
      tree.LaysOut ⟨4⟩ (tree.functionLayout ⟨4⟩) ∧
      (tree.functionLayout ⟨4⟩).entries.map (·.declaration) = [⟨3⟩, ⟨6⟩] ∧
      tree.owner ⟨1⟩ = .script ⟨8⟩ ∧ tree.owner ⟨3⟩ = .function ⟨4⟩ ∧
      tree.owner ⟨7⟩ = .detached := by
  obtain ⟨builder, built⟩ := Option.isSome_iff_exists.mp
    (show (Builder.applyAll { } tangledDirectives).isSome = true from rfl)
  obtain ⟨-, roots, functions, -, owners⟩ := scope_layouts built 0
  obtain rfl := Option.some.inj built
  obtain ⟨layout, found, -, -, laysOut⟩ := roots ⟨8⟩ (by decide)
  refine ⟨_, rfl, ⟨layout, found, laysOut, ?_, ?_⟩, (functions ⟨4⟩ _ rfl).2.2, by decide, by decide,
    by decide, (owners ⟨7⟩).1.mpr (by decide)⟩
  all_goals
    obtain rfl := Option.some.inj found
    decide

end Treewalk
