import Treewalk.Proofs.LibraryAvailability

/-!
# The order in which libraries are loaded

Two walks go through the libraries below a script, both depth first. One initializes them and asks
the flags of the scripts what it has met; the other collects the layouts that are logged around a
run and asks a set of roots. Both mark a script before they go below it and come back to it when
they are done with everything below it. `ScriptGraph.loadInto` is the order in which such a walk is
done with scripts. It depends on the graph alone, whatever the marks are.

`ScriptGraph.isLoadOrder_loadInto` says what order this is: exactly the libraries below the script,
each of them once and after all libraries that it includes. `ScriptGraph.libraryLayouts_eq` shows
that the collecting walk takes it, if the libraries are bound and have different roots.
-/

namespace Treewalk

namespace ScriptGraph

variable {World : Type} {graph : ScriptGraph World} {order : List Nat} {number : Nat}

/-- Continue an order with the libraries below a script that it does not have yet. -/
def loadInto (graph : ScriptGraph World) (number : Nat) (order : List Nat) : List Nat :=
  (graph.libraries number).foldl
    (fun before library =>
      if library.1 ∈ before then before else graph.loadInto library.1 before ++ [library.1])
    order
termination_by number
decreasing_by exact library.2

/-- Continue an order with a library and those below it, unless it has the library already. -/
def load (graph : ScriptGraph World) (order : List Nat) (library : Nat) : List Nat :=
  if library ∈ order then order else graph.loadInto library order ++ [library]

/-- A script is loaded after its libraries, in the order in which it lists them. -/
theorem loadInto_eq (graph : ScriptGraph World) (number : Nat) (order : List Nat) :
    graph.loadInto number order =
      (graph.libraries number).foldl (fun before library => graph.load before library.1) order := by
  rw [loadInto]
  rfl

/-- No script comes twice, and each comes after all libraries that it includes. -/
structure Ordered (graph : ScriptGraph World) (order : List Nat) : Prop where
  nodup : order.Nodup
  dependenciesFirst : ∀ earlier library later, order = earlier ++ library :: later →
    ∀ dependency, graph.Includes library dependency → dependency ∈ earlier

/-- The libraries below a script, each once and after all libraries that it includes. -/
structure IsLoadOrder (graph : ScriptGraph World) (number : Nat) (order : List Nat) : Prop
    extends graph.Ordered order where
  mem_iff : ∀ library, library ∈ order ↔ Relation.TransGen graph.Includes number library

namespace Ordered

/-- Nothing is in order. -/
theorem nil : graph.Ordered [] where
  nodup := List.nodup_nil
  dependenciesFirst earlier library later split := by simp at split

/-- A script may come last if it is new and its libraries are there. -/
theorem snoc (ordered : graph.Ordered order) (fresh : number ∉ order)
    (included : ∀ library, graph.Includes number library → library ∈ order) :
    graph.Ordered (order ++ [number]) where
  nodup := by
    rw [List.nodup_append]
    refine ⟨ordered.nodup, List.nodup_singleton number, ?_⟩
    rintro other listed last single rfl
    rw [List.mem_singleton.mp single] at listed
    exact fresh listed
  dependenciesFirst earlier library later split dependency includes := by
    rcases List.eq_nil_or_concat later with rfl | ⟨others, last, rfl⟩
    · obtain ⟨rfl, same⟩ := List.append_inj' split rfl
      cases same
      exact included dependency includes
    · have inside : order ++ [number] = (earlier ++ library :: others) ++ [last] := by
        simpa using split
      obtain ⟨same, -⟩ := List.append_inj' inside rfl
      exact ordered.dependenciesFirst earlier library others same dependency includes

/-- What is listed has its libraries listed before it. -/
theorem includes (ordered : graph.Ordered order) {library dependency : Nat}
    (listed : library ∈ order) (includes : graph.Includes library dependency) :
    dependency ∈ order := by
  obtain ⟨earlier, later, rfl⟩ := List.append_of_mem listed
  exact List.mem_append_left _
    (ordered.dependenciesFirst earlier library later rfl dependency includes)

/-- Whatever stands in an order stands there with everything below it. -/
theorem reaches (ordered : graph.Ordered order) {library dependency : Nat}
    (listed : library ∈ order) (reaches : graph.Reaches library dependency) :
    dependency ∈ order := by
  induction reaches with
  | refl => exact listed
  | tail _ last inductionHypothesis => exact ordered.includes inductionHypothesis last

end Ordered

/-- No script is below itself. -/
theorem not_below_self (number : Nat) : ¬ Relation.TransGen graph.Includes number number := by
  intro below
  obtain ⟨library, includes, reaches⟩ := Relation.TransGen.head'_iff.mp below
  exact absurd (Reaches.le reaches) (Nat.not_le.mpr includes.lt)

/-- What is below a script is reached from one of its libraries. -/
theorem below_iff {library : Nat} :
    Relation.TransGen graph.Includes number library ↔
      ∃ first ∈ graph.libraries number, graph.Reaches first.1 library := by
  rw [Relation.TransGen.head'_iff]
  constructor
  · rintro ⟨first, ⟨smaller, member⟩, reaches⟩
    exact ⟨⟨first, smaller⟩, member, reaches⟩
  · rintro ⟨first, member, reaches⟩
    exact ⟨first.1, includes_of_mem member, reaches⟩

/-- An order has been continued by scripts of a kind. -/
structure Continued (graph : ScriptGraph World) (Kind : Nat → Prop) (before after : List Nat) :
    Prop where
  ordered : graph.Ordered after
  mem_iff : ∀ library, library ∈ after ↔ library ∈ before ∨ Kind library

namespace Continued

variable {after : List Nat}

/-- A script is not below itself, because it includes smaller ones only. -/
theorem not_mem_self (below : graph.Continued (Relation.TransGen graph.Includes number) order after)
    (unlisted : number ∉ order) : number ∉ after := by
  rw [below.mem_iff]
  rintro (listed | itself)
  · exact unlisted listed
  · exact not_below_self number itself

/-- The libraries of a script are below it. -/
theorem mem_of_includes
    (below : graph.Continued (Relation.TransGen graph.Includes number) order after) {library : Nat}
    (includes : graph.Includes number library) : library ∈ after :=
  (below.mem_iff library).mpr (.inr (.single includes))

/-- Loading a library adds the library itself after what is below it. -/
theorem load {library : Nat} (ordered : graph.Ordered order)
    (below : graph.Continued (Relation.TransGen graph.Includes library) order
      (graph.loadInto library order)) :
    graph.Continued (graph.Reaches library) order (graph.load order library) := by
  simp only [ScriptGraph.load]
  split
  · next listed =>
    refine ⟨ordered, fun other => ⟨.inl, ?_⟩⟩
    rintro (already | reaches)
    · exact already
    · exact ordered.reaches listed reaches
  · next unlisted =>
    refine ⟨below.ordered.snoc (below.not_mem_self unlisted) fun _ => below.mem_of_includes,
      fun other => ?_⟩
    have reaches : graph.Reaches library other ↔
        other = library ∨ Relation.TransGen graph.Includes library other :=
      Relation.reflTransGen_iff_eq_or_transGen
    rw [List.mem_append, List.mem_singleton, below.mem_iff, reaches]
    tauto

end Continued

/-- The induction is on the libraries that are left, each continuing the order of the one before. -/
theorem continued_libraries (libraries : List { library // library < number })
    (below : ∀ library < number, ∀ order, graph.Ordered order →
      graph.Continued (Relation.TransGen graph.Includes library) order
        (graph.loadInto library order))
    (ordered : graph.Ordered order) :
    graph.Continued (fun other => ∃ library ∈ libraries, graph.Reaches library.1 other) order
      (libraries.foldl (fun before library => graph.load before library.1) order) := by
  induction libraries generalizing order with
  | nil => exact ⟨ordered, fun other => by simp⟩
  | cons first rest inductionHypothesis =>
    have loaded := Continued.load ordered (below first.1 first.2 order ordered)
    have continued := inductionHypothesis loaded.ordered
    refine ⟨continued.ordered, fun other => ?_⟩
    rw [List.foldl_cons, continued.mem_iff, loaded.mem_iff, or_assoc]
    simp only [List.mem_cons, exists_eq_or_imp]

/-- The induction is on the number of the script. -/
theorem continued_loadInto (ordered : graph.Ordered order) (number : Nat) :
    graph.Continued (Relation.TransGen graph.Includes number) order
      (graph.loadInto number order) := by
  induction number using Nat.strongRecOn generalizing order with
  | ind number inductionHypothesis =>
    have continued := continued_libraries (graph.libraries number)
      (fun library smaller order ordered => inductionHypothesis library smaller ordered) ordered
    rw [loadInto_eq]
    refine ⟨continued.ordered, fun other => ?_⟩
    rw [continued.mem_iff, below_iff]

/-- Loading the libraries of a script into nothing gives a load order. -/
theorem isLoadOrder_loadInto (graph : ScriptGraph World) (number : Nat) :
    graph.IsLoadOrder number (graph.loadInto number []) where
  toOrdered := (continued_loadInto .nil number).ordered
  mem_iff library := by
    rw [(continued_loadInto .nil number).mem_iff]
    simp

/-- The scripts that a walk is below of do not come before a script that it meets. -/
def Above (Pending : Nat → Prop) (number : Nat) : Prop :=
  ∀ other, Pending other → number ≤ other

/-- Where only a script itself is pending, nothing that comes before it is. -/
theorem above_self (number : Nat) : Above (fun other => False ∨ other = number) number := by
  rintro other (pending | rfl)
  · exact pending.elim
  · exact Nat.le_refl _

/-- A walk goes on to smaller numbers. -/
theorem Above.descend {Pending : Nat → Prop} (above : Above Pending number) {library : Nat}
    (smaller : library < number) :
    Above (fun other => Pending other ∨ other = library) library := by
  rintro other (pending | rfl)
  · exact Nat.le_trans (Nat.le_of_lt smaller) (above other pending)
  · exact Nat.le_refl _

/-- So no library is pending yet. -/
theorem Above.not_pending {Pending : Nat → Prop} (above : Above Pending number) {library : Nat}
    (smaller : library < number) : ¬ Pending library :=
  fun pending => Nat.not_le.mpr smaller (above library pending)

/-- The layouts of the root blocks of scripts, in order; without a registered root there is none. -/
def rootLayouts (graph : ScriptGraph World) (numbers : List Nat) : List Layout :=
  numbers.flatMap fun number =>
    ((graph.script number).tree.rootLayout? (graph.script number).root).toList

/-- What has been collected when the walk is done with an order of scripts and is below those that
are pending. -/
structure Collected (graph : ScriptGraph World) (Pending : Nat → Prop) (order : List Nat)
    (collected : List NodeId × List Layout) : Prop where
  roots : ∀ number < graph.scripts.size,
    (graph.script number).root ∈ collected.1 ↔ number ∈ order ∨ Pending number
  layouts : collected.2 = graph.rootLayouts order

namespace Collected

variable {tree : Tree World} {Pending : Nat → Prop} {roots : List NodeId} {layouts : List Layout}

/-- The walk goes below a script. -/
theorem descend (inhabits : graph.Inhabits tree) (known : number < graph.scripts.size)
    (collected : graph.Collected Pending order (roots, layouts)) :
    graph.Collected (fun other => Pending other ∨ other = number) order
      ((graph.script number).root :: roots, layouts) where
  roots other otherKnown := by
    have same : (graph.script other).root = (graph.script number).root ↔ other = number := by
      constructor
      · exact inhabits.distinct other otherKnown number known
      · rintro rfl
        rfl
    have marked : (graph.script other).root ∈ roots ↔ other ∈ order ∨ Pending other :=
      collected.roots other otherKnown
    rw [List.mem_cons, same, marked]
    tauto
  layouts := collected.layouts

/-- The walk is done with a script. -/
theorem finish
    (collected : graph.Collected (fun other => Pending other ∨ other = number) order
      (roots, layouts)) :
    graph.Collected Pending (order ++ [number])
      (roots,
        layouts ++ ((graph.script number).tree.rootLayout? (graph.script number).root).toList) where
  roots other otherKnown := by
    rw [collected.roots other otherKnown, List.mem_append, List.mem_singleton]
    tauto
  layouts := by
    have before : layouts = graph.rootLayouts order := collected.layouts
    simp [before, rootLayouts]

end Collected

/-- Where all libraries below a script are bound, the walk that collects their layouts takes them in
the order in which they are loaded. -/
theorem collected_collectLayouts {tree : Tree World} (inhabits : graph.Inhabits tree)
    {workspace : Workspace World} (known : number < graph.scripts.size)
    (bound : ∀ library, Relation.TransGen graph.Includes number library →
      (workspace.status library).libraryBound = true)
    {Pending : Nat → Prop} (above : Above Pending number)
    {collected : List NodeId × List Layout} (before : graph.Collected Pending order collected) :
    graph.Collected Pending (graph.loadInto number order)
      (graph.collectLayouts workspace number collected) := by
  induction number using Nat.strongRecOn generalizing order Pending collected with
  | ind number inductionHypothesis =>
    rw [collectLayouts, loadInto_eq]
    have included : ∀ library ∈ graph.libraries number, graph.Includes number library.1 :=
      fun library member => includes_of_mem member
    generalize graph.libraries number = libraries at included
    induction libraries generalizing order collected with
    | nil => exact before
    | cons first rest remaining =>
      obtain ⟨includes, others⟩ := List.forall_mem_cons.mp included
      refine remaining ?_ others
      have firstKnown : first.1 < graph.scripts.size := Nat.lt_trans first.2 known
      have marked : (graph.script first.1).root ∈ collected.1 ↔ first.1 ∈ order := by
        rw [before.roots first.1 firstKnown]
        exact or_iff_left (above.not_pending first.2)
      simp only [load, List.contains_iff_mem, marked, bound first.1 (.single includes), if_true]
      split
      · exact before
      · exact Collected.finish (inductionHypothesis first.1 first.2 firstKnown
          (fun library below => bound library (.head includes below)) (above.descend first.2)
          (before.descend inhabits firstKnown))

/-- The layouts of the libraries below a script in the order in which they are loaded, if all of
them are bound. -/
theorem libraryLayouts_eq {tree : Tree World} (inhabits : graph.Inhabits tree)
    {workspace : Workspace World} (known : number < graph.scripts.size)
    (bound : ∀ library, Relation.TransGen graph.Includes number library →
      (workspace.status library).libraryBound = true) :
    graph.libraryLayouts workspace number = graph.rootLayouts (graph.loadInto number []) := by
  have start : graph.Collected (fun _ => False) [] ([], []) := ⟨by simp, rfl⟩
  exact (collected_collectLayouts inhabits known bound (above_self number)
    (start.descend inhabits known)).layouts

end ScriptGraph

end Treewalk
