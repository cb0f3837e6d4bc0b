import Treewalk.Frame

/-!
# Frame logs in order

A frame log is in order when no frame was entered at a smaller depth than an older one. In such a
log the frames visible from a position are those entered at or before it: bisection finds the place
where they begin, and `visible` and `later` are the two halves of a filter.
-/

namespace Treewalk

/-- Bisection ends at the last place where the test holds, or at its base if there is none. -/
theorem bisect_spec {holds : Nat → Bool} {base size : Nat} (nonempty : 0 < size)
    (initial : ∀ index later, index ≤ later → later < base + size → holds later = true →
      holds index = true) :
    base ≤ bisect holds base size ∧ bisect holds base size < base + size ∧
      (bisect holds base size = base ∨ holds (bisect holds base size) = true) ∧
      ∀ index, bisect holds base size < index → index < base + size → holds index = false := by
  fun_induction bisect holds base size with
  | case1 base size more middle inductionHypothesis =>
    have middleValue : middle = base + size / 2 := rfl
    by_cases reached : holds middle = true
    · -- The upper half keeps the end of the range.
      simp only [reached, dite_true, if_true] at inductionHypothesis ⊢
      have upper := inductionHypothesis (by omega)
        fun index later ordered below => initial index later ordered (by omega)
      obtain ⟨lower, bounded, last, beyond⟩ := upper
      refine ⟨by omega, by omega, ?_, fun index after below => beyond index after (by omega)⟩
      rcases last with atMiddle | held
      · rw [atMiddle]
        exact Or.inr reached
      · exact Or.inr held
    · -- The lower half may end before the range does: from the middle on the test fails anyway.
      simp only [reached, Bool.false_eq_true, dite_false, if_false] at inductionHypothesis ⊢
      have failsFrom : ∀ index, middle ≤ index → index < base + size → holds index = false := by
        intro index atLeast below
        cases held : holds index with
        | false => rfl
        | true => exact absurd (initial middle index atLeast below held) reached
      obtain ⟨lower, bounded, last, beyond⟩ := inductionHypothesis (by omega)
        fun index later ordered below => initial index later ordered (by omega)
      refine ⟨lower, by omega, last, fun index after below => ?_⟩
      by_cases inHalf : index < base + (size - size / 2)
      · exact beyond index after inHalf
      · exact failsFrom index (by omega) below
  | case2 base size single =>
    refine ⟨Nat.le_refl base, by omega, Or.inl rfl, fun index after below => ?_⟩
    omega

/-- A test that holds on an initial part of a range holds exactly below the partition point. -/
theorem partitionPoint_spec {size : Nat} {holds : Nat → Bool}
    (initial : ∀ index later, index ≤ later → later < size → holds later = true →
      holds index = true) :
    partitionPoint size holds ≤ size ∧
      ∀ index, index < size → (holds index = true ↔ index < partitionPoint size holds) := by
  simp only [partitionPoint]
  by_cases empty : size = 0
  · simp only [empty, if_true]
    exact ⟨Nat.le_refl 0, fun index below => by omega⟩
  · simp only [empty, if_false]
    obtain ⟨-, bounded, last, beyond⟩ := @bisect_spec holds 0 size (by omega)
      fun index later ordered below => initial index later ordered (by omega)
    split
    · next held =>
      refine ⟨by omega, fun index below => ⟨fun here => ?_, fun before => ?_⟩⟩
      · rcases Nat.lt_or_ge index (bisect holds 0 size + 1) with before | after
        · exact before
        · have fails := beyond index (by omega) (by omega)
          rw [here] at fails
          cases fails
      · exact initial index _ (by omega) (by omega) held
    · next failed =>
      have atBase : bisect holds 0 size = 0 := last.resolve_right failed
      refine ⟨by omega, fun index below => ⟨fun here => ?_, fun before => by omega⟩⟩
      exact absurd (initial _ index (by omega) below here) failed

namespace Frame

/-- No frame of the log was entered at a smaller depth than an older one. -/
def InOrder (log : List Frame) : Prop :=
  log.Pairwise fun newer older => older.enteredAt ≤ newer.enteredAt

/-- In a log in order, the oldest `visibleCount` frames are those entered at or before a depth. -/
theorem visibleCount_spec {log : List Frame} (inOrder : InOrder log) (depth : Nat) :
    visibleCount log depth ≤ log.length ∧
      ∀ index (below : index < log.reverse.length),
        log.reverse[index].enteredAt ≤ depth ↔ index < visibleCount log depth := by
  have ascending : log.reverse.Pairwise fun older newer => older.enteredAt ≤ newer.enteredAt :=
    List.pairwise_reverse.mpr inOrder
  have spec := @partitionPoint_spec log.reverse.toArray.size
    (fun index => (log.reverse.toArray[index]?).any (·.enteredAt ≤ depth)) (by
      intro index later ordered below held
      simp only [List.size_toArray] at below
      have here : index < log.reverse.length := by omega
      simp only [List.getElem?_toArray, List.getElem?_eq_getElem here,
        List.getElem?_eq_getElem below, Option.any_some, decide_eq_true_eq] at held ⊢
      rcases Nat.eq_or_lt_of_le ordered with rfl | before
      · exact held
      · exact Nat.le_trans (List.pairwise_iff_getElem.mp ascending index later here below before)
          held)
  have bounded : visibleCount log depth ≤ log.reverse.toArray.size := spec.1
  refine ⟨by simpa using bounded, fun index below => ?_⟩
  have atIndex : (log.reverse.toArray[index]?).any (·.enteredAt ≤ depth) = true ↔
      index < visibleCount log depth := spec.2 index (by simpa using below)
  simpa [List.getElem?_eq_getElem below] using atIndex

/-- Seen from a position, a log is what was entered later on top of what is visible. -/
theorem later_append_visible (log : List Frame) (depth : Nat) :
    later log depth ++ visible log depth = log :=
  List.take_append_drop _ log

/-- In a log in order, exactly the frames entered at or before a depth are visible from it. -/
theorem enteredAt_of_mem_visible {log : List Frame} (inOrder : InOrder log) {depth : Nat}
    {frame : Frame} (member : frame ∈ visible log depth) : frame.enteredAt ≤ depth := by
  obtain ⟨bounded, spec⟩ := visibleCount_spec inOrder depth
  have oldest : frame ∈ log.reverse.take (visibleCount log depth) := by
    rw [← List.mem_reverse, List.reverse_take, List.reverse_reverse, List.length_reverse]
    exact member
  obtain ⟨index, below, rfl⟩ := List.mem_take_iff_getElem.mp oldest
  exact (spec index (by omega)).mpr (by omega)

/-- Frames that are later than a depth were entered above it. -/
theorem enteredAt_of_mem_later {log : List Frame} (inOrder : InOrder log) {depth : Nat}
    {frame : Frame} (member : frame ∈ later log depth) : depth < frame.enteredAt := by
  obtain ⟨bounded, spec⟩ := visibleCount_spec inOrder depth
  have newest : frame ∈ log.reverse.drop (visibleCount log depth) := by
    rw [← List.mem_reverse, List.reverse_drop, List.reverse_reverse, List.length_reverse]
    exact member
  obtain ⟨index, below, rfl⟩ := List.mem_drop_iff_getElem.mp newest
  have hidden := mt (spec (visibleCount log depth + index) (by omega)).mp (by omega)
  omega

/-- The search by halves finds exactly the frames that were entered up to a depth. -/
theorem visible_eq_filter {log : List Frame} (inOrder : InOrder log) (depth : Nat) :
    visible log depth = log.filter (·.enteredAt ≤ depth) := by
  have laterNone : (later log depth).filter (·.enteredAt ≤ depth) = [] := by
    rw [List.filter_eq_nil_iff]
    intro frame member
    have hidden := enteredAt_of_mem_later inOrder member
    simp
    omega
  have visibleAll : (visible log depth).filter (·.enteredAt ≤ depth) = visible log depth := by
    rw [List.filter_eq_self]
    intro frame member
    simpa using enteredAt_of_mem_visible inOrder member
  calc visible log depth
      = (later log depth).filter (·.enteredAt ≤ depth) ++
          (visible log depth).filter (·.enteredAt ≤ depth) := by rw [laterNone, visibleAll]; rfl
    _ = (later log depth ++ visible log depth).filter (·.enteredAt ≤ depth) := by
        rw [List.filter_append]
    _ = log.filter (·.enteredAt ≤ depth) := by rw [later_append_visible]

end Frame

end Treewalk
