import Treewalk.Store

/-!
# Bindings of scopes

Opening and closing the bindings of a scope, seen through `Store.bindings`. A layout may list a cell
more than once; `Layout.multiplicity` says how often, and so how many bindings an invocation opens
there.

Two stores have the same bindings below the top when they differ at most in the newest binding of
each cell. Closing a scope after such a change gives back exactly what the scope was opened on.
-/

namespace Treewalk

/-- How many bindings of a cell an invocation of the scope opens. -/
def Layout.multiplicity (layout : Layout) (cell : Cell) : Nat :=
  layout.entries.countP (·.cell == cell)

/-- Whether an invocation of the scope opens a binding of a cell. -/
def Layout.binds (layout : Layout) (cell : Cell) : Prop :=
  ∃ entry ∈ layout.entries, entry.cell = cell

instance (layout : Layout) (cell : Cell) : Decidable (layout.binds cell) :=
  inferInstanceAs (Decidable (∃ entry ∈ layout.entries, entry.cell = cell))

/-- A layout binds the cells that it has entries for. -/
theorem Layout.multiplicity_pos {layout : Layout} {cell : Cell} :
    0 < layout.multiplicity cell ↔ layout.binds cell := by
  simp [multiplicity, binds, List.countP_pos_iff]

/-- What a layout does not bind it has no entries for. -/
theorem Layout.multiplicity_eq_zero {layout : Layout} {cell : Cell}
    (unbound : ¬ layout.binds cell) : layout.multiplicity cell = 0 := by
  have notPositive := mt Layout.multiplicity_pos.mp unbound
  omega

namespace Store

/-- What opening bindings for a list of variables does to a cell. -/
theorem bindings_foldl_push (entries : List Variable) (store : Store) (cell : Cell) :
    (entries.foldl (fun bound entry => bound.push entry.cell .null) store).bindings cell =
      List.replicate (entries.countP (·.cell == cell)) .null ++ store.bindings cell := by
  induction entries generalizing store with
  | nil => rfl
  | cons entry rest inductionHypothesis =>
    rw [List.foldl_cons, inductionHypothesis, bindings_push, List.countP_cons]
    by_cases same : entry.cell = cell
    · simp [same, List.replicate_succ']
    · simp [same, Ne.symm same]

/-- What closing bindings of a list of variables does to a cell. -/
theorem bindings_foldl_pop (entries : List Variable) (store : Store) (cell : Cell) :
    (entries.foldl (fun bound entry => bound.pop entry.cell) store).bindings cell =
      (store.bindings cell).drop (entries.countP (·.cell == cell)) := by
  induction entries generalizing store with
  | nil => rfl
  | cons entry rest inductionHypothesis =>
    rw [List.foldl_cons, inductionHypothesis, bindings_pop, List.countP_cons]
    by_cases same : entry.cell = cell
    · simp [same, Nat.add_comm]
    · simp [same, Ne.symm same]

/-- Binding a layout adds a null for each of its entries. -/
@[simp] theorem bindings_bind (store : Store) (layout : Layout) (cell : Cell) :
    (store.bind layout).bindings cell =
      List.replicate (layout.multiplicity cell) .null ++ store.bindings cell :=
  bindings_foldl_push layout.entries store cell

/-- A cell is as deep as it was, and deeper by its entries in the layout. -/
theorem depth_bind (store : Store) (layout : Layout) (cell : Cell) :
    (store.bind layout).depth cell = layout.multiplicity cell + store.depth cell := by
  simp [depth]

/-- Taking the bindings of a layout back drops as many as it has entries. -/
@[simp] theorem bindings_unbind (store : Store) (layout : Layout) (cell : Cell) :
    (store.unbind layout).bindings cell =
      (store.bindings cell).drop (layout.multiplicity cell) := by
  rw [Store.unbind, bindings_foldl_pop, List.countP_reverse]
  rfl

/-- Closing right after opening changes no binding. -/
theorem bindings_unbind_bind (store : Store) (layout : Layout) (cell : Cell) :
    ((store.bind layout).unbind layout).bindings cell = store.bindings cell := by
  simp

/-- A cell that can be overwritten has a newest binding, and only that one is overwritten. -/
theorem bindings_of_replace? {before after : Store} {cell : Cell} {value : Value}
    (replaced : before.replace? cell value = some after) :
    ∃ newest older, before.bindings cell = newest :: older ∧
      ∀ other, after.bindings other =
        if other = cell then value :: older else before.bindings other := by
  simp only [replace?] at replaced
  split at replaced
  · cases replaced
  · next newest older bound =>
    cases replaced
    exact ⟨newest, older, bound, fun other => bindings_set before cell other _⟩

/-- A store that differs from another at most in the newest binding of each cell. -/
def SameBelowTop (before after : Store) : Prop :=
  ∀ cell, after.depth cell = before.depth cell ∧
    (after.bindings cell).tail = (before.bindings cell).tail

namespace SameBelowTop

/-- Stores with the same bindings agree below the top. -/
theorem of_bindings {before after : Store}
    (same : ∀ cell, after.bindings cell = before.bindings cell) : SameBelowTop before after := by
  intro cell
  simp [depth, same cell]

theorem refl (store : Store) : SameBelowTop store store :=
  of_bindings fun _ => rfl

/-- Agreement below the top can be followed through several stores. -/
theorem trans {first second third : Store} (earlier : SameBelowTop first second)
    (later : SameBelowTop second third) : SameBelowTop first third := by
  intro cell
  exact ⟨(later cell).1.trans (earlier cell).1, (later cell).2.trans (earlier cell).2⟩

/-- Overwriting the newest binding leaves all below it alone. -/
theorem of_replace? {before after : Store} {cell : Cell} {value : Value}
    (replaced : before.replace? cell value = some after) : SameBelowTop before after := by
  obtain ⟨newest, older, bound, elsewhere⟩ := bindings_of_replace? replaced
  intro other
  by_cases same : other = cell
  · subst same
    simp [depth, elsewhere, bound]
  · simp [depth, elsewhere, same]

/-- At least one binding down, the two stores agree. -/
theorem drop_eq {before after : Store} (same : SameBelowTop before after) (cell : Cell)
    {count : Nat} (positive : 0 < count) :
    (after.bindings cell).drop count = (before.bindings cell).drop count := by
  obtain ⟨rest, rfl⟩ : ∃ rest, count = rest + 1 := ⟨count - 1, by omega⟩
  rw [← List.drop_tail, ← List.drop_tail, (same cell).2]

/-- Closing a scope gives back the bindings it was opened on; other cells are left alone. -/
theorem bindings_unbind {before after : Store} {layout : Layout}
    (same : SameBelowTop (before.bind layout) after) (cell : Cell) :
    (after.unbind layout).bindings cell =
      if layout.binds cell then before.bindings cell else after.bindings cell := by
  rw [Store.bindings_unbind]
  split
  · next bound =>
    rw [same.drop_eq cell (Layout.multiplicity_pos.mpr bound)]
    simp
  · next unbound => simp [Layout.multiplicity_eq_zero unbound]

/-- What changed at most the newest bindings inside a scope did so outside of it. -/
theorem unbind {before after : Store} {layout : Layout}
    (same : SameBelowTop (before.bind layout) after) :
    SameBelowTop before (after.unbind layout) := by
  intro cell
  rw [depth, same.bindings_unbind cell]
  split
  · exact ⟨rfl, rfl⟩
  · next unbound =>
    have opened : (before.bind layout).bindings cell = before.bindings cell := by
      simp [Layout.multiplicity_eq_zero unbound]
    have kept := same cell
    rw [depth, depth, opened] at kept
    exact kept

end SameBelowTop

end Store

end Treewalk
