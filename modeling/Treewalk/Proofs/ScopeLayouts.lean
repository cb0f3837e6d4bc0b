import Mathlib.Data.List.Nodup
import Treewalk.Proofs.Bindings
import Treewalk.Tree.Builder

/-!
# Settled scopes

What finishing a builder guarantees of the layouts of a tree: no scope has two layouts, no layout
lists a declaration twice, every variable names its own cell, and the scope it records as its owner
is the one the tree gives. `Tree.Settled` collects this, and `Builder.finish_settled` shows it of
every tree that directives build.

In a settled tree where moreover no declaration belongs to two scopes, an invocation of a scope
opens one binding for each of its own variables and none for those of other scopes.
-/

namespace Treewalk

variable {World : Type}

/-- One more variable is recorded after the others, if its site is a new one. -/
theorem Layout.debugInfo_add {layout : Layout} {entry : Variable}
    (fresh : entry.declaration ∉ layout.debugInfo.map (·.declaration)) :
    (layout.add entry).debugInfo = layout.debugInfo ++ [entry] := by
  rw [Layout.add, List.filter_eq_self.mpr]
  intro other member
  rw [bne_iff_ne]
  exact fun same => fresh (List.mem_map.mpr ⟨other, member, same⟩)

/-- Frames record variables at different sites as they are bound. -/
theorem Layout.debugInfo_ofVariables (owner : Scope) {listed : List Variable}
    (distinct : (listed.map (·.declaration)).Nodup) :
    (Layout.ofVariables owner listed).debugInfo = listed := by
  have appended : ∀ layout : Layout,
      ((layout.debugInfo ++ listed).map (·.declaration)).Nodup →
        (listed.foldl Layout.add layout).debugInfo = layout.debugInfo ++ listed := by
    clear distinct
    induction listed with
    | nil => exact fun layout _ => (List.append_nil _).symm
    | cons entry rest inductionHypothesis =>
      intro layout distinct
      have fresh : entry.declaration ∉ layout.debugInfo.map (·.declaration) := by
        rw [List.map_append, List.map_cons] at distinct
        exact fun seen => (List.nodup_append.mp distinct).2.2 _ seen _ List.mem_cons_self rfl
      have added := Layout.debugInfo_add fresh
      rw [List.foldl_cons, inductionHypothesis, added, List.append_assoc, List.singleton_append]
      rw [added, List.append_assoc, List.singleton_append]
      exact distinct
  exact appended ⟨owner, [], []⟩ distinct

/-- Recording a variable adds its site to those that are recorded. -/
theorem Layout.recordsSite_add (layout : Layout) (entry : Variable) (site : NodeId) :
    site ∈ (layout.add entry).debugInfo.map (·.declaration) ↔
      site ∈ layout.debugInfo.map (·.declaration) ∨ site = entry.declaration := by
  simp only [Layout.add, List.map_append, List.mem_append, List.map_cons, List.map_nil,
    List.mem_singleton, List.mem_map, List.mem_filter, bne_iff_ne]
  constructor
  · rintro (⟨other, ⟨member, -⟩, rfl⟩ | rfl)
    · exact Or.inl ⟨other, member, rfl⟩
    · exact Or.inr rfl
  · rintro (⟨other, member, rfl⟩ | rfl)
    · by_cases replaced : other.declaration = entry.declaration
      · exact Or.inr replaced
      · exact Or.inl ⟨other, ⟨member, replaced⟩, rfl⟩
    · exact Or.inr rfl

/-- Frames record every site of a layout, whether or not a site is listed twice. -/
theorem Layout.recordsSite_ofVariables (owner : Scope) (listed : List Variable) (site : NodeId) :
    site ∈ (Layout.ofVariables owner listed).debugInfo.map (·.declaration) ↔
      site ∈ listed.map (·.declaration) := by
  have collected : ∀ layout : Layout,
      site ∈ (listed.foldl Layout.add layout).debugInfo.map (·.declaration) ↔
        site ∈ layout.debugInfo.map (·.declaration) ∨ site ∈ listed.map (·.declaration) := by
    induction listed with
    | nil => exact fun layout => (or_iff_left List.not_mem_nil).symm
    | cons entry rest inductionHypothesis =>
      intro layout
      rw [List.foldl_cons, inductionHypothesis, Layout.recordsSite_add, List.map_cons,
        List.mem_cons, or_assoc]
  exact (collected ⟨owner, [], []⟩).trans (or_iff_right List.not_mem_nil)

/-- A layout contains the declarations that frames of its scope record. -/
theorem Layout.contains_iff {layout : Layout} {declaration : NodeId} :
    layout.contains declaration = true ↔
      ∃ entry ∈ layout.debugInfo, entry.declaration = declaration := by
  simp [Layout.contains, Variable.declaredAt?]

namespace Tree

/-- What is settled about the layouts of a finished tree. -/
structure Settled (tree : Tree World) : Prop where
  /-- No scope has two layouts. -/
  owners : (tree.layouts.map (·.owner)).Nodup
  attached : ∀ layout ∈ tree.layouts, layout.owner ≠ .detached
  cells : ∀ layout ∈ tree.layouts, ∀ entry ∈ layout.entries,
    entry.cell = tree.cell entry.declaration
  /-- Frames record what invocations bind. -/
  recorded : ∀ layout ∈ tree.layouts, layout.debugInfo = layout.entries
  /-- No layout lists a declaration twice. -/
  distinct : ∀ layout ∈ tree.layouts, (layout.entries.map (·.declaration)).Nodup
  entryOwner : ∀ layout ∈ tree.layouts, ∀ entry ∈ layout.entries,
    entry.owner = tree.owner entry.declaration

/-- Each declaration belongs to the layout of at most one scope. -/
def SingleScoped (tree : Tree World) : Prop :=
  ∀ left ∈ tree.layouts, ∀ right ∈ tree.layouts, ∀ declaration,
    left.contains declaration = true → right.contains declaration = true →
      left.owner = right.owner

/-- Only the declarations that some layout lists have to be looked at. -/
theorem singleScoped_iff {tree : Tree World} :
    tree.SingleScoped ↔ ∀ left ∈ tree.layouts, ∀ right ∈ tree.layouts, ∀ entry ∈ left.debugInfo,
      right.contains entry.declaration = true → left.owner = right.owner := by
  constructor
  · intro single left leftMember right rightMember entry listed
    exact single left leftMember right rightMember entry.declaration
      (Layout.contains_iff.mpr ⟨entry, listed, rfl⟩)
  · intro single left leftMember right rightMember declaration leftLists
    obtain ⟨entry, listed, rfl⟩ := Layout.contains_iff.mp leftLists
    exact single left leftMember right rightMember entry listed

instance (tree : Tree World) : Decidable tree.SingleScoped :=
  decidable_of_iff' _ singleScoped_iff

/-- The scope that a tree gives for a declaration has a layout that lists it. -/
theorem exists_layout_of_owner {tree : Tree World} {declaration : NodeId} {scope : Scope}
    (owned : tree.owner declaration = scope) (attached : scope ≠ .detached) :
    ∃ layout ∈ tree.layouts, layout.owner = scope ∧ layout.contains declaration = true := by
  simp only [Tree.owner] at owned
  split at owned
  · next layout found =>
    have member := List.mem_of_find?_eq_some found
    have matched := List.find?_some found
    exact ⟨layout, List.mem_reverse.mp member, owned, matched⟩
  · exact absurd owned.symm attached

/-- A root is registered by the first layout that is owned by it. -/
theorem rootLayout?_eq_some {tree : Tree World} {root : NodeId} {layout : Layout}
    (found : tree.rootLayout? root = some layout) :
    layout ∈ tree.layouts ∧ layout.owner = .script root := by
  refine ⟨List.mem_of_find?_eq_some found, ?_⟩
  have matched := List.find?_some found
  simpa using matched

/-- The layout of a function is one of the tree, unless the function has none. -/
theorem functionLayout_cases (tree : Tree World) (function : NodeId) :
    (tree.functionLayout function ∈ tree.layouts ∧
      (tree.functionLayout function).owner = .function function) ∨
    tree.functionLayout function = .empty := by
  simp only [functionLayout]
  cases found : tree.layout? (.function function) with
  | none => exact Or.inr rfl
  | some layout =>
    refine Or.inl ⟨List.mem_of_find?_eq_some found, ?_⟩
    have matched := List.find?_some found
    simpa using matched

namespace Settled

variable {tree : Tree World}

/-- A variable that an invocation binds is one that frames record. -/
theorem mem_debugInfo_iff (settled : tree.Settled) {layout : Layout} {entry : Variable}
    (member : layout ∈ tree.layouts) : entry ∈ layout.debugInfo ↔ entry ∈ layout.entries := by
  rw [settled.recorded layout member]

/-- A scope determines its layout. -/
theorem layout_eq (settled : tree.Settled) {left right : Layout} (leftMember : left ∈ tree.layouts)
    (rightMember : right ∈ tree.layouts) (same : left.owner = right.owner) : left = right :=
  List.inj_on_of_nodup_map settled.owners leftMember rightMember same

/-- An invocation binds the cell of a variable just if its layout contains the declaration. -/
theorem binds_iff (settled : tree.Settled) {layout other : Layout} {entry : Variable}
    (member : layout ∈ tree.layouts) (otherMember : other ∈ tree.layouts)
    (listed : entry ∈ other.entries) :
    layout.binds entry.cell ↔ layout.contains entry.declaration = true := by
  rw [Layout.contains_iff, settled.recorded layout member]
  constructor
  · rintro ⟨own, ownListed, same⟩
    refine ⟨own, ownListed, ?_⟩
    exact congrArg Cell.declaration same
  · rintro ⟨own, ownListed, same⟩
    refine ⟨own, ownListed, ?_⟩
    rw [settled.cells layout member own ownListed, settled.cells other otherMember entry listed,
      same]

/-- An invocation of a scope opens one binding of each of its own variables. -/
theorem multiplicity_self (settled : tree.Settled) {layout : Layout} {entry : Variable}
    (member : layout ∈ tree.layouts) (listed : entry ∈ layout.entries) :
    layout.multiplicity entry.cell = 1 := by
  have cellsDistinct : (layout.entries.map (·.cell)).Nodup := by
    apply List.Nodup.of_map Cell.declaration
    rw [List.map_map]
    exact settled.distinct layout member
  have counted := List.count_eq_one_of_mem cellsDistinct (List.mem_map_of_mem listed)
  rw [List.count, List.countP_map] at counted
  exact counted

/-- An invocation of a scope opens one binding of each of its own variables and none of those that
belong to another scope. -/
theorem multiplicity (settled : tree.Settled) (single : tree.SingleScoped) {layout other : Layout}
    {entry : Variable} (member : layout ∈ tree.layouts) (otherMember : other ∈ tree.layouts)
    (listed : entry ∈ other.entries) :
    layout.multiplicity entry.cell = if layout.owner = other.owner then 1 else 0 := by
  split
  · next same =>
    obtain rfl := settled.layout_eq member otherMember same
    exact settled.multiplicity_self member listed
  · next different =>
    apply Layout.multiplicity_eq_zero
    intro bound
    apply different
    exact single layout member other otherMember entry.declaration
      ((settled.binds_iff member otherMember listed).mp bound)
      (Layout.contains_iff.mpr ⟨entry, (settled.mem_debugInfo_iff otherMember).mpr listed, rfl⟩)

end Settled

end Tree

namespace Builder

/-- Registered roots name nodes, and none is registered twice. -/
structure RootsRegistered (builder : Builder World) : Prop where
  distinct : builder.roots.Nodup
  known : ∀ root ∈ builder.roots, root.index < builder.nodes.size

/-- No directive takes a root off the list, and a new one is registered at once. -/
theorem RootsRegistered.apply {builder next : Builder World} {directive : Directive World}
    {given : Option NodeId} (registered : builder.RootsRegistered)
    (applied : builder.apply directive = some (given, next)) : next.RootsRegistered := by
  cases directive with
  | node instruction =>
    simp only [Builder.apply, allocate] at applied
    split at applied
    · cases applied
      refine ⟨registered.distinct, fun root member => ?_⟩
      have below := registered.known root member
      simp only [Array.size_push]
      omega
    · cases applied
  | root statements =>
    simp only [Builder.apply, allocate] at applied
    split at applied
    · cases applied
      -- The new root is the newest node, so it is none of the roots before it.
      refine ⟨?_, fun root member => ?_⟩
      · apply List.Nodup.append registered.distinct (List.nodup_singleton _)
        intro root older newer
        have below := registered.known root older
        rw [List.mem_singleton.mp newer] at below
        exact Nat.lt_irrefl _ below
      · simp only [Array.size_push]
        rcases List.mem_append.mp member with older | newer
        · have below := registered.known root older
          omega
        · rw [List.mem_singleton.mp newer]
          exact Nat.lt_succ_self _
    · cases applied
  | define function parameters body =>
    cases applied
    exact ⟨registered.distinct, fun root member => by
      simpa [amend] using registered.known root member⟩
  | line node line =>
    cases applied
    exact ⟨registered.distinct, fun root member => by
      simpa [amend] using registered.known root member⟩

/-- The induction is on the directives. -/
theorem RootsRegistered.applyAll {builder final : Builder World}
    {directives : List (Directive World)} (registered : builder.RootsRegistered)
    (built : builder.applyAll directives = some final) : final.RootsRegistered := by
  induction directives generalizing builder with
  | nil =>
    cases built
    exact registered
  | cons directive rest inductionHypothesis =>
    obtain ⟨⟨given, next⟩, applied, remaining⟩ := Option.bind_eq_some_iff.mp built
    exact inductionHypothesis (registered.apply applied) remaining

/-- The walk through a scope meets no node that was visited before, and none twice. -/
theorem scopePreorder_nodup (builder : Builder World) (rounds : Nat)
    (visited pending : List NodeId) :
    (builder.scopePreorder rounds visited pending).Nodup ∧
      ∀ node ∈ builder.scopePreorder rounds visited pending, node ∉ visited := by
  induction rounds generalizing visited pending with
  | zero => simp [scopePreorder]
  | succ rounds inductionHypothesis =>
    simp only [scopePreorder]
    split
    · simp
    · next node rest remaining =>
      obtain ⟨distinct, unvisited⟩ :=
        inductionHypothesis (node :: visited) (builder.scopeChildren node ++ rest)
      have fresh : node ∉ visited := by
        have unsettled := List.head?_dropWhile_not
          (fun node => visited.contains node || (builder.instruction? node).isNone) pending
        rw [remaining] at unsettled
        simp only [List.head?_cons, Bool.or_eq_false_iff] at unsettled
        simpa using unsettled.1
      refine ⟨List.nodup_cons.mpr ⟨fun again => ?_, distinct⟩, fun other member => ?_⟩
      · exact unvisited node again List.mem_cons_self
      · rcases List.mem_cons.mp member with rfl | later
        · exact fresh
        · exact fun seen => unvisited other later (List.mem_cons_of_mem node seen)

/-- The preorder of a scope comes to each declaration once. -/
theorem scopeSites_nodup (builder : Builder World) (node : NodeId) :
    ((builder.scopeSites node).map (·.1)).Nodup := by
  have distinct := (builder.scopePreorder_nodup builder.nodes.size [] (builder.children node)).1
  simp only [scopeSites]
  rw [List.map_filterMap]
  apply List.Nodup.filterMap _ distinct
  intro left right site atLeft atRight
  simp only [Option.mem_def, Option.map_eq_some_iff] at atLeft atRight
  obtain ⟨_, ⟨_, _, rfl⟩, rfl⟩ := atLeft
  obtain ⟨_, ⟨_, _, rfl⟩, same⟩ := atRight
  exact same.symm

/-- Roots and functions are different nodes, and each owns one scope. -/
theorem scopes_nodup {builder : Builder World} (registered : builder.RootsRegistered) :
    (builder.scopes.map (·.1)).Nodup := by
  have functionsDistinct : builder.functions.Nodup := by
    apply List.Nodup.filter
    exact List.Nodup.map (fun _ _ same => congrArg NodeId.index same) List.nodup_range
  simp only [scopes]
  rw [List.map_append, List.map_map, List.map_map]
  apply List.Nodup.append
  · exact registered.distinct.map fun _ _ same => by simpa using same
  · exact functionsDistinct.map fun _ _ same => by simpa using same
  · intro scope atRoot atFunction
    obtain ⟨root, -, rfl⟩ := List.mem_map.mp atRoot
    obtain ⟨function, -, same⟩ := List.mem_map.mp atFunction
    cases same

/-- The owner that a layout records for a variable is the one the finished tree gives. -/
theorem owner_finish (builder : Builder World) (key : Nat) (declaration : NodeId) :
    (builder.finish key).owner declaration = ownerAmong builder.scopes declaration := by
  have sameTest (scope : Scope × List Site) :
      Layout.contains (.ofVariables scope.1 (scope.2.map fun site =>
        (⟨⟨key, site.1⟩, site.2.name, ownerAmong builder.scopes site.1⟩ : Variable))) declaration =
      scope.2.any (·.1 == declaration) := by
    rw [Bool.eq_iff_iff, Layout.contains_iff, ← List.mem_map, Layout.recordsSite_ofVariables]
    simp [Variable.declaration]
  unfold Tree.owner ownerAmong finish
  dsimp only
  rw [← List.map_reverse, List.find?_map, Function.comp_def]
  simp only [sameTest]
  cases builder.scopes.reverse.find? fun scope => scope.2.any (·.1 == declaration) with
  | none => rfl
  | some scope => exact Layout.owner_ofVariables _ _

/-- No scope lists a declaration site twice. -/
theorem scopes_sites_nodup {builder : Builder World} {scope : Scope × List Site}
    (member : scope ∈ builder.scopes) : (scope.2.map (·.1)).Nodup := by
  rcases List.mem_append.mp member with atRoot | atFunction
  · obtain ⟨root, -, rfl⟩ := List.mem_map.mp atRoot
    exact builder.scopeSites_nodup root
  · obtain ⟨function, -, rfl⟩ := List.mem_map.mp atFunction
    exact builder.scopeSites_nodup function

/-- The scopes of every tree that directives build are settled. -/
theorem finish_settled {directives : List (Directive World)} {builder : Builder World}
    (built : Builder.applyAll { } directives = some builder) (key : Nat) :
    (builder.finish key).Settled := by
  have start : ({ } : Builder World).RootsRegistered :=
    ⟨List.nodup_nil, fun root member => nomatch member⟩
  have registered := start.applyAll built
  let bound (site : Site) : Variable :=
    ⟨⟨key, site.1⟩, site.2.name, ownerAmong builder.scopes site.1⟩
  have laidOut : ∀ layout ∈ (builder.finish key).layouts,
      ∃ scope ∈ builder.scopes, layout = .ofVariables scope.1 (scope.2.map bound) := by
    intro layout member
    obtain ⟨scope, scopeMember, rfl⟩ := List.mem_map.mp member
    exact ⟨scope, scopeMember, rfl⟩
  have distinct : ∀ scope ∈ builder.scopes, ((scope.2.map bound).map (·.declaration)).Nodup := by
    intro scope member
    rw [List.map_map]
    exact scopes_sites_nodup member
  refine ⟨?_, ?_, ?_, ?_, ?_, ?_⟩
  · have owners := scopes_nodup registered
    simpa [finish, Function.comp_def] using owners
  · intro layout member
    obtain ⟨scope, scopeMember, rfl⟩ := laidOut layout member
    simp only [scopes, List.mem_map, List.mem_append] at scopeMember
    obtain ⟨root, -, rfl⟩ | ⟨function, -, rfl⟩ := scopeMember <;> simp
  · intro layout member entry listed
    obtain ⟨scope, -, rfl⟩ := laidOut layout member
    rw [Layout.entries_ofVariables] at listed
    obtain ⟨site, -, rfl⟩ := List.mem_map.mp listed
    rfl
  · intro layout member
    obtain ⟨scope, scopeMember, rfl⟩ := laidOut layout member
    rw [Layout.debugInfo_ofVariables _ (distinct scope scopeMember), Layout.entries_ofVariables]
  · intro layout member
    obtain ⟨scope, scopeMember, rfl⟩ := laidOut layout member
    rw [Layout.entries_ofVariables]
    exact distinct scope scopeMember
  · intro layout member entry listed
    rw [owner_finish]
    obtain ⟨scope, -, rfl⟩ := laidOut layout member
    rw [Layout.entries_ofVariables] at listed
    obtain ⟨site, -, rfl⟩ := List.mem_map.mp listed
    rfl

end Builder

end Treewalk
