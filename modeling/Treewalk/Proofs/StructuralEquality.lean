import Mathlib.Data.List.Forall2
import Mathlib.Data.String.Basic
import Treewalk.Proofs.OperatorResults

/-!
# Equality of lists and objects

What `==` makes of lists and objects, in terms of what it makes of their items. At its top level it
compares an integer with a float by their number, but items are compared for sameness, where an
integer is never the same as a float. So lists and objects are equal when they are equal item by
item and nowhere an integer meets a float; the last part is no consequence of the first.
-/

namespace Treewalk

namespace Value

/-- An integer and a float, whichever comes first. -/
def MixesNumbers (left right : Value) : Prop :=
  left.kind = .int ∧ right.kind = .float ∨ left.kind = .float ∧ right.kind = .int

/-- Sameness is equality but for an integer beside a float. -/
theorem same_iff (left right : Value) :
    left.same right = true ↔
      Operator.equal.Affirms left right ∧ ¬ MixesNumbers left right := by
  cases left <;> cases right <;>
    simp [Operator.Affirms, Operator.apply, equals, same, MixesNumbers, kind]

/-- Lists are the same if their items are, one by one. -/
theorem sameItems_iff {lefts rights : List Value} :
    sameItems lefts rights = true ↔
      List.Forall₂ (fun left right => left.same right = true) lefts rights := by
  induction lefts generalizing rights with
  | nil => cases rights <;> simp [sameItems]
  | cons left rest inductionHypothesis =>
    cases rights with
    | nil => simp [sameItems]
    | cons right others => simp [sameItems, inductionHypothesis]

/-- Keys ascend, so none comes twice. -/
def Ascending (entries : List (String × Value)) : Prop :=
  entries.Pairwise fun earlier later => earlier.1 < later.1

/-- An entry of what was inserted into is new or was there before. -/
theorem mem_insertEntry {key : String} {value : Value} {entries : List (String × Value)}
    {entry : String × Value} (member : entry ∈ insertEntry key value entries) :
    entry.1 = key ∨ entry ∈ entries := by
  induction entries with
  | nil =>
    rw [insertEntry, List.mem_singleton] at member
    exact .inl (congrArg Prod.fst member)
  | cons head rest inductionHypothesis =>
    simp only [insertEntry] at member
    split at member
    · rcases List.mem_cons.mp member with rfl | old
      · exact .inl rfl
      · exact .inr old
    split at member
    · rcases List.mem_cons.mp member with rfl | old
      · exact .inl rfl
      · exact .inr (List.mem_cons_of_mem head old)
    · rcases List.mem_cons.mp member with rfl | later
      · exact .inr List.mem_cons_self
      · exact (inductionHypothesis later).imp_right (List.mem_cons_of_mem head)

/-- Inserting keeps the keys in order. -/
theorem ascending_insertEntry (key : String) (value : Value) {entries : List (String × Value)}
    (ascending : Ascending entries) : Ascending (insertEntry key value entries) := by
  induction entries with
  | nil => exact List.pairwise_singleton _ _
  | cons head rest inductionHypothesis =>
    obtain ⟨first, after⟩ := List.pairwise_cons.mp ascending
    simp only [insertEntry]
    split
    · next less =>
      refine List.pairwise_cons.mpr ⟨fun entry member => ?_, ascending⟩
      rcases List.mem_cons.mp member with rfl | later
      · exact less
      · exact less.trans (first entry later)
    split
    · next same =>
      refine List.pairwise_cons.mpr ⟨fun entry later => ?_, after⟩
      rw [same]
      exact first entry later
    · next notLess differ =>
      refine List.pairwise_cons.mpr ⟨fun entry member => ?_, inductionHypothesis after⟩
      rcases mem_insertEntry member with rfl | later
      · exact lt_of_le_of_ne (not_lt.mp notLess) (Ne.symm differ)
      · exact first entry later

/-- Objects have their entries in ascending order, in whichever order these were given. -/
theorem exists_ascending_ofEntries (entries : List (String × Value)) :
    ∃ sorted, Ascending sorted ∧ ofEntries entries = .object sorted := by
  refine ⟨_, ?_, rfl⟩
  have folded : ∀ sorted, Ascending sorted →
      Ascending
        (entries.foldl (fun sorted entry => insertEntry entry.1 entry.2 sorted) sorted) := by
    induction entries with
    | nil => exact fun sorted ascending => ascending
    | cons entry rest inductionHypothesis =>
      exact fun sorted ascending =>
        inductionHypothesis _ (ascending_insertEntry entry.1 entry.2 ascending)
  exact folded [] List.Pairwise.nil

/-- A key below all others is not found. -/
theorem lookup_eq_none_of_lt {key : String} {entries : List (String × Value)}
    (below : ∀ entry ∈ entries, key < entry.1) : entries.lookup key = none := by
  rw [List.lookup_eq_none_iff]
  intro entry member
  simpa using (below entry member).ne

section

variable {left right : String × Value} {lefts rights : List (String × Value)}
  {Related : Value → Value → Prop}

/-- The key of the first entry is no later one. -/
theorem lookup_tail (ascends : Ascending (left :: lefts)) : lefts.lookup left.1 = none :=
  lookup_eq_none_of_lt (List.pairwise_cons.mp ascends).1

/-- A key below the first one is not found. -/
theorem lookup_below (ascends : Ascending (right :: rights)) {key : String}
    (less : key < right.1) : (right :: rights).lookup key = none := by
  apply lookup_eq_none_of_lt
  intro entry member
  rcases List.mem_cons.mp member with rfl | later
  · exact less
  · exact less.trans ((List.pairwise_cons.mp ascends).1 entry later)

/-- Ascending entries with the same keys start with the same key. -/
theorem first_eq_of_rel_lookup (leftAscends : Ascending (left :: lefts))
    (rightAscends : Ascending (right :: rights))
    (related : ∀ key, Option.Rel Related ((left :: lefts).lookup key)
      ((right :: rights).lookup key)) : left.1 = right.1 := by
  rcases lt_trichotomy left.1 right.1 with less | same | greater
  · have here := related left.1
    rw [lookup_below rightAscends less, List.lookup_cons_self] at here
    cases here
  · exact same
  · have here := related right.1
    rw [lookup_below leftAscends greater, List.lookup_cons_self] at here
    cases here

/-- Two lists of entries that ascend are related key by key when their first entries and the rest
are. -/
theorem rel_lookup_cons (leftAscends : Ascending (left :: lefts))
    (rightAscends : Ascending (right :: rights)) :
    (∀ key, Option.Rel Related ((left :: lefts).lookup key) ((right :: rights).lookup key)) ↔
      (left.1 = right.1 ∧ Related left.2 right.2) ∧
        ∀ key, Option.Rel Related (lefts.lookup key) (rights.lookup key) := by
  -- Past the first key the rest is looked up, and neither rest has an entry under the first key.
  have later (key : String) (other : key ≠ left.1) (same : left.1 = right.1) :
      (left :: lefts).lookup key = lefts.lookup key ∧
        (right :: rights).lookup key = rights.lookup key := by
    rw [List.lookup_cons, List.lookup_cons, ← same, beq_eq_false_iff_ne.mpr other]
    exact ⟨rfl, rfl⟩
  constructor
  · intro related
    have same := first_eq_of_rel_lookup leftAscends rightAscends related
    have here := related left.1
    rw [List.lookup_cons_self, same, List.lookup_cons_self] at here
    cases here with
    | some values =>
      refine ⟨⟨same, values⟩, fun key => ?_⟩
      by_cases first : key = left.1
      · rw [first, lookup_tail leftAscends, same, lookup_tail rightAscends]
        exact .none
      · obtain ⟨onLeft, onRight⟩ := later key first same
        rw [← onLeft, ← onRight]
        exact related key
  · rintro ⟨⟨same, values⟩, related⟩ key
    by_cases first : key = left.1
    · rw [first, List.lookup_cons_self, same, List.lookup_cons_self]
      exact .some values
    · obtain ⟨onLeft, onRight⟩ := later key first same
      rw [onLeft, onRight]
      exact related key

end

/-- Two lists of entries that ascend are the same entry by entry when they are key by key. -/
theorem sameEntries_iff {lefts rights : List (String × Value)} (leftAscends : Ascending lefts)
    (rightAscends : Ascending rights) :
    sameEntries lefts rights = true ↔
      ∀ key, Option.Rel (fun left right : Value => left.same right = true)
        (lefts.lookup key) (rights.lookup key) := by
  induction lefts generalizing rights with
  | nil =>
    cases rights with
    | nil => exact iff_of_true rfl fun key => .none
    | cons right others =>
      refine iff_of_false Bool.noConfusion fun related => ?_
      have here := related right.1
      rw [List.lookup_cons_self] at here
      cases here
  | cons left rest inductionHypothesis =>
    cases rights with
    | nil =>
      refine iff_of_false Bool.noConfusion fun related => ?_
      have here := related left.1
      rw [List.lookup_cons_self] at here
      cases here
    | cons right others =>
      rw [rel_lookup_cons leftAscends rightAscends, ← inductionHypothesis
        (List.pairwise_cons.mp leftAscends).2 (List.pairwise_cons.mp rightAscends).2]
      simp [sameEntries]

/-- Nothing under one key is an integer in one object and a float in the other. -/
theorem rel_same_iff {left right : Option Value} :
    Option.Rel (fun left right : Value => left.same right = true) left right ↔
      Option.Rel Operator.equal.Affirms left right ∧
        ∀ first ∈ left, ∀ second ∈ right, ¬ MixesNumbers first second := by
  constructor
  · intro related
    cases related with
    | some same =>
      obtain ⟨affirmed, unmixed⟩ := (same_iff _ _).mp same
      refine ⟨.some affirmed, ?_⟩
      rintro _ ⟨⟩ _ ⟨⟩
      exact unmixed
    | none => exact ⟨.none, nofun⟩
  · rintro ⟨related, unmixed⟩
    cases related with
    | some affirmed => exact .some ((same_iff _ _).mpr ⟨affirmed, unmixed _ rfl _ rfl⟩)
    | none => exact .none

/-- Items are the same one by one if they are affirmed to be and no pair mixes numbers. -/
theorem forall₂_same_iff {lefts rights : List Value} :
    List.Forall₂ (fun left right : Value => left.same right = true) lefts rights ↔
      List.Forall₂ Operator.equal.Affirms lefts rights ∧
        ¬ ∃ pair ∈ lefts.zip rights, MixesNumbers pair.1 pair.2 := by
  simp only [same_iff, List.forall₂_iff_zip, not_exists, not_and, Prod.forall]
  constructor
  · rintro ⟨sameLength, items⟩
    exact ⟨⟨sameLength, fun paired => (items paired).1⟩, fun left right paired => (items paired).2⟩
  · rintro ⟨⟨sameLength, affirmed⟩, unmixed⟩
    exact ⟨sameLength, fun paired => ⟨affirmed paired, unmixed _ _ paired⟩⟩

/-- Lists are equal when they have one length and their items are equal, place by place, and nowhere
an integer meets a float. Objects are equal when they have the same keys and the values under each
are equal, and nowhere an integer meets a float. -/
theorem structural_equality (lefts rights : List Value)
    (leftEntries rightEntries : List (String × Value)) :
    let leftObject := ofEntries leftEntries
    let rightObject := ofEntries rightEntries
    (Operator.equal.Affirms (.list lefts) (.list rights) ↔
      List.Forall₂ Operator.equal.Affirms lefts rights ∧
        ¬ ∃ pair ∈ lefts.zip rights, MixesNumbers pair.1 pair.2) ∧
    (Operator.equal.Affirms leftObject rightObject ↔
      (∀ key, Option.Rel Operator.equal.Affirms
        (leftObject.field? key) (rightObject.field? key)) ∧
        ¬ ∃ key, ∃ left ∈ leftObject.field? key, ∃ right ∈ rightObject.field? key,
          MixesNumbers left right) := by
  intro leftObject rightObject
  constructor
  · calc Operator.equal.Affirms (.list lefts) (.list rights)
        ↔ sameItems lefts rights = true := by
          simp [Operator.Affirms, Operator.apply, equals, same]
      _ ↔ List.Forall₂ (fun left right : Value => left.same right = true) lefts rights :=
          sameItems_iff
      _ ↔ _ := forall₂_same_iff
  · obtain ⟨leftSorted, leftAscends, leftBuilt⟩ := exists_ascending_ofEntries leftEntries
    obtain ⟨rightSorted, rightAscends, rightBuilt⟩ := exists_ascending_ofEntries rightEntries
    simp only [leftObject, rightObject, leftBuilt, rightBuilt, field?]
    calc Operator.equal.Affirms (.object leftSorted) (.object rightSorted)
        ↔ sameEntries leftSorted rightSorted = true := by
          simp [Operator.Affirms, Operator.apply, equals, same]
      _ ↔ ∀ key, Option.Rel (fun left right : Value => left.same right = true)
            (leftSorted.lookup key) (rightSorted.lookup key) :=
          sameEntries_iff leftAscends rightAscends
      _ ↔ _ := by
          simp only [rel_same_iff, forall_and, not_exists, not_and]

/-- One as an integer equals one as a float, yet the lists with nothing but these are not equal, nor
are the objects that have them under one key. -/
theorem unequal_lists_of_equal_items :
    let leftObject := ofEntries [("key", .int 1)]
    let rightObject := ofEntries [("key", .float 1)]
    (List.Forall₂ Operator.equal.Affirms [.int 1] [.float 1] ∧
      ¬ Operator.equal.Affirms (.list [.int 1]) (.list [.float 1])) ∧
    (∀ key, Option.Rel Operator.equal.Affirms (leftObject.field? key) (rightObject.field? key)) ∧
      ¬ Operator.equal.Affirms leftObject rightObject := by
  intro leftObject rightObject
  have numbers : (Float.ofInt 1 == (1 : Float)) = true := by decide
  have items : Operator.equal.Affirms (.int 1) (.float 1) :=
    congrArg (fun flag => Except.ok (Value.bool flag)) numbers
  refine ⟨⟨.cons items .nil, by simp [Operator.Affirms, Operator.apply, equals, same, sameItems]⟩,
    fun key => ?_, ?_⟩
  · simp only [leftObject, rightObject, field?, ofEntries, List.foldl_cons, List.foldl_nil,
      insertEntry, List.lookup_cons]
    cases key == "key" with
    | true => exact .some items
    | false => exact .none
  · simp [leftObject, rightObject, Operator.Affirms, Operator.apply, ofEntries, insertEntry, equals,
      same, sameEntries]

end Value

end Treewalk
