import Mathlib.Algebra.Group.Int.Defs
import Mathlib.Data.Int.Order.Basic
import Mathlib.Order.Lattice
import Treewalk.Operator.Apply

/-!
# Results of operators

What an operator makes of two operands, for all operators and all values. Arithmetic on integers is
exact wherever the result fits a word, comparisons read off the order of the operands, and an
operator that does not take operands of the given kinds says so by a fault that names it and the
kinds. Which kinds an operator takes is said here apart from how it is applied (`Operator.Takes`);
`Operator.applied` lists the three ends of an application, and the rest is read off that list.

Nothing is said of the sums, differences and products of floats.
-/

namespace Treewalk

/-- Integers and floats are the numbers. -/
def Value.Kind.IsNumeric (kind : Value.Kind) : Prop :=
  kind = .int ∨ kind = .float

instance (kind : Value.Kind) : Decidable kind.IsNumeric :=
  inferInstanceAs (Decidable (_ ∨ _))

/-- The kinds that have a number are the numeric ones. -/
theorem Value.isSome_number? (value : Value) :
    value.number?.isSome = true ↔ value.kind.IsNumeric := by
  cases value <;> simp [number?, kind, Kind.IsNumeric]

namespace Operator

/-- The integer that an arithmetic operator asks for; comparisons ask for none. -/
def exactResult? : Operator → Int → Int → Option Int
  | .add, left, right => some (left + right)
  | .subtract, left, right => some (left - right)
  | .multiply, left, right => some (left * right)
  | _, _, _ => none

/-- An integer in the signed 64-bit range. -/
def InWord (number : Int) : Prop :=
  -2 ^ 63 ≤ number ∧ number < 2 ^ 63

instance (number : Int) : Decidable (InWord number) :=
  inferInstanceAs (Decidable (_ ∧ _))

/-- What a comparison asks of two keys; arithmetic asks for nothing that could hold. -/
def Relates {Key : Type} [LinearOrder Key] : Operator → Key → Key → Prop
  | .equal, left, right => left = right
  | .notEqual, left, right => left ≠ right
  | .less, left, right => left < right
  | .lessEqual, left, right => left ≤ right
  | .greater, left, right => right < left
  | .greaterEqual, left, right => right ≤ left
  | .add, _, _ => False
  | .subtract, _, _ => False
  | .multiply, _, _ => False

instance {Key : Type} [LinearOrder Key] (operator : Operator) (left right : Key) :
    Decidable (operator.Relates left right) :=
  match operator with
  | .equal => inferInstanceAs (Decidable (left = right))
  | .notEqual => inferInstanceAs (Decidable (left ≠ right))
  | .less => inferInstanceAs (Decidable (left < right))
  | .lessEqual => inferInstanceAs (Decidable (left ≤ right))
  | .greater => inferInstanceAs (Decidable (right < left))
  | .greaterEqual => inferInstanceAs (Decidable (right ≤ left))
  | .add => inferInstanceAs (Decidable False)
  | .subtract => inferInstanceAs (Decidable False)
  | .multiply => inferInstanceAs (Decidable False)

/-- The operands that an operator takes: equality takes all, arithmetic and order take numbers,
texts can be joined and compared, lists can be joined. -/
def Takes (operator : Operator) (left right : Value.Kind) : Prop :=
  operator = .equal ∨ operator = .notEqual ∨
    left.IsNumeric ∧ right.IsNumeric ∨
    (left = .string ∧ right = .string) ∧ operator ≠ .subtract ∧ operator ≠ .multiply ∨
    (left = .list ∧ right = .list) ∧ operator = .add

instance (operator : Operator) (left right : Value.Kind) : Decidable (operator.Takes left right) :=
  inferInstanceAs (Decidable (_ ∨ _))

/-- An arithmetic operator on two integers whose exact result no word holds. -/
def Overflows (operator : Operator) (left right : Value) : Prop :=
  ∃ first second : Int64, left = .int first ∧ right = .int second ∧
    ∃ exact, operator.exactResult? first.toInt second.toInt = some exact ∧ ¬ InWord exact

/-- The operator answers true. -/
def Affirms (operator : Operator) (left right : Value) : Prop :=
  operator.apply left right = .ok (.bool true)

/-- The operator answers false. -/
def Denies (operator : Operator) (left right : Value) : Prop :=
  operator.apply left right = .ok (.bool false)

/-- The three ends of an application. -/
inductive Applied (operator : Operator) (left right : Value) : Except Cause Value → Prop where
  | answered {value : Value} (takes : operator.Takes left.kind right.kind)
      (judged : operator.isComparison = true → ∃ flag, value = .bool flag) :
      Applied operator left right (.ok value)
  | overflowed (takes : operator.Takes left.kind right.kind)
      (overflows : operator.Overflows left right) :
      Applied operator left right (.error (.integerOverflow operator))
  | refused (refuses : ¬ operator.Takes left.kind right.kind) :
      Applied operator left right (.error (.invalidOperands operator left.kind right.kind))

/-- The test for overflow is exact. -/
theorem fitsWord_iff {number : Int} : fitsWord number = true ↔ InWord number := by
  simp only [fitsWord, Bool.and_eq_true, decide_eq_true_eq, Int64.toInt_minValue,
    Int64.toInt_maxValue, InWord]
  omega

/-- A number in range is represented exactly. -/
theorem exactly_of_inWord (operator : Operator) {number : Int} (fits : InWord number) :
    ∃ word : Int64, word.toInt = number ∧ operator.exactly number = .ok (.int word) :=
  ⟨Int64.ofInt number, Int64.toInt_ofInt_of_le fits.1 fits.2,
    if_pos (fitsWord_iff.mpr fits)⟩

/-- A number out of range overflows. -/
theorem exactly_of_not_inWord {operator : Operator} {number : Int} (large : ¬ InWord number) :
    operator.exactly number = .error (.integerOverflow operator) :=
  if_neg (mt fitsWord_iff.mp large)

/-- Arithmetic asks for an exact result, comparisons do not. -/
theorem exactResult?_eq_none {operator : Operator} {left right : Int} :
    operator.exactResult? left right = none ↔ operator.isComparison = true := by
  cases operator <;> simp [exactResult?, isComparison]

/-- Arithmetic on integers is the exact result, as far as words go. -/
theorem apply_of_exactResult? {operator : Operator} {left right : Int64} {exact : Int}
    (asks : operator.exactResult? left.toInt right.toInt = some exact) :
    operator.apply (.int left) (.int right) = operator.exactly exact := by
  cases operator <;> cases asks <;> rfl

/-- Reading a comparison off an ordering is asking it of the keys. -/
theorem accepts_compare {Key : Type} [LinearOrder Key] (operator : Operator) (left right : Key) :
    operator.accepts (compare left right) = decide (operator.Relates left right) := by
  rw [Bool.eq_iff_iff, decide_eq_true_iff]
  cases operator with
  | equal => exact Ordering.isEq_iff_eq_eq.trans compare_eq_iff_eq
  | notEqual => exact Ordering.isNe_iff_ne_eq.trans compare_eq_iff_eq.not
  | less => exact Ordering.isLT_iff_eq_lt.trans compare_lt_iff_lt
  | lessEqual => exact Ordering.isLE_iff_ne_gt.trans compare_le_iff_le
  | greater => exact Ordering.isGT_iff_eq_gt.trans compare_gt_iff_gt
  | greaterEqual => exact Ordering.isGE_iff_ne_lt.trans compare_ge_iff_ge
  | add => exact ⟨Bool.noConfusion, False.elim⟩
  | subtract => exact ⟨Bool.noConfusion, False.elim⟩
  | multiply => exact ⟨Bool.noConfusion, False.elim⟩

/-- Where `==` compares keys and the ordered application reads their order, both paths agree with
what the comparison asks of the keys. -/
theorem apply_of_keys {Key : Type} [LinearOrder Key] {operator : Operator} {left right : Value}
    {first second : Key} (same : left.equals right = decide (first = second))
    (ordered : operator.applyOrdered left right = .ok (.bool (operator.accepts
      (compare first second)))) :
    operator.apply left right = .ok (.bool (decide (operator.Relates first second))) := by
  rw [accepts_compare] at ordered
  cases operator with
  | equal =>
    rw [apply, same]
    rfl
  | notEqual =>
    rw [apply, same, ← decide_not]
    rfl
  | _ => exact ordered

/-- Integers are compared as numbers. -/
theorem apply_ints {operator : Operator} (comparison : operator.isComparison = true)
    (left right : Int64) :
    operator.apply (.int left) (.int right) =
      .ok (.bool (decide (operator.Relates left.toInt right.toInt))) := by
  apply apply_of_keys
  · calc Value.equals (.int left) (.int right) = decide (left = right) := rfl
      _ = decide (left.toInt = right.toInt) := decide_eq_decide.mpr Int64.toInt_inj.symm
  · cases operator <;> first | rfl | cases comparison

/-- Every operator applies to integers. -/
theorem applied_ints (operator : Operator) (left right : Int64) :
    operator.Applied (.int left) (.int right) (operator.apply (.int left) (.int right)) := by
  have takes : operator.Takes (Value.int left).kind (Value.int right).kind :=
    .inr (.inr (.inl ⟨.inl rfl, .inl rfl⟩))
  cases asks : operator.exactResult? left.toInt right.toInt with
  | none =>
    rw [apply_ints (exactResult?_eq_none.mp asks)]
    exact .answered takes fun _ => ⟨_, rfl⟩
  | some exact =>
    rw [apply_of_exactResult? asks]
    by_cases fits : InWord exact
    · obtain ⟨word, -, answered⟩ := exactly_of_inWord operator fits
      rw [answered]
      refine .answered takes fun comparison => ?_
      rw [exactResult?_eq_none.mpr comparison] at asks
      cases asks
    · rw [exactly_of_not_inWord fits]
      exact .overflowed takes ⟨left, right, rfl, rfl, exact, asks, fits⟩

/-- Operands that read as floats are numbers, and applying an operator to these does not fail. -/
theorem applied_floats {operator : Operator} {left right : Value} {first second : Float}
    (leftNumber : left.number? = some first) (rightNumber : right.number? = some second) :
    operator.Applied left right (.ok (operator.applyFloats first second)) := by
  have leftNumeric : left.kind.IsNumeric := left.isSome_number?.mp (by simp [leftNumber])
  have rightNumeric : right.kind.IsNumeric := right.isSome_number?.mp (by simp [rightNumber])
  refine .answered (.inr (.inr (.inl ⟨leftNumeric, rightNumeric⟩))) fun comparison => ?_
  cases operator with
  | add => cases comparison
  | subtract => cases comparison
  | multiply => cases comparison
  | _ => exact ⟨_, rfl⟩

/-- Texts are ordered or joined, and nothing else applies to them. -/
theorem applied_texts (operator : Operator) (left right : String) :
    operator.Applied (.str left) (.str right) (operator.applyOrdered (.str left) (.str right)) := by
  by_cases refuses : operator = .subtract ∨ operator = .multiply
  · have refused : operator.applyOrdered (.str left) (.str right) =
        .error (.invalidOperands operator .string .string) := by
      rcases refuses with rfl | rfl <;> rfl
    rw [refused]
    have untaken : ¬ operator.Takes .string .string := by
      rcases refuses with rfl | rfl <;> decide
    exact .refused untaken
  · rw [not_or] at refuses
    have answered : ∃ value, operator.applyTexts? left right = some value ∧
        (operator.isComparison = true → ∃ flag, value = .bool flag) := by
      cases operator with
      | add => exact ⟨_, rfl, Bool.noConfusion⟩
      | subtract => exact absurd rfl refuses.1
      | multiply => exact absurd rfl refuses.2
      | _ => exact ⟨_, rfl, fun _ => ⟨_, rfl⟩⟩
    obtain ⟨value, answers, judged⟩ := answered
    simp only [applyOrdered, answers]
    exact .answered (.inr (.inr (.inr (.inl ⟨⟨rfl, rfl⟩, refuses⟩)))) judged

/-- Lists can be joined and not ordered. -/
theorem applied_lists (operator : Operator) (ordering : operator ≠ .equal ∧ operator ≠ .notEqual)
    (left right : List Value) :
    operator.Applied (.list left) (.list right)
      (operator.applyOrdered (.list left) (.list right)) := by
  by_cases joins : operator = .add
  · have answered : operator.applyOrdered (.list left) (.list right) =
        .ok (.list (left ++ right)) := if_pos joins
    rw [answered]
    refine .answered (.inr (.inr (.inr (.inr ⟨⟨rfl, rfl⟩, joins⟩)))) fun comparison => ?_
    rw [joins] at comparison
    cases comparison
  · have refused : operator.applyOrdered (.list left) (.list right) =
        .error (.invalidOperands operator .list .list) := if_neg joins
    have untaken : ¬ operator.Takes .list .list := by
      simp [Takes, Value.Kind.IsNumeric, ordering, joins]
    rw [refused]
    exact .refused untaken

/-- Each application comes to one of the three ends. -/
theorem applied (operator : Operator) (left right : Value) :
    operator.Applied left right (operator.apply left right) := by
  by_cases equality : operator = .equal ∨ operator = .notEqual
  · obtain ⟨flag, answered⟩ : ∃ flag, operator.apply left right = .ok (.bool flag) := by
      rcases equality with rfl | rfl <;> exact ⟨_, rfl⟩
    rw [answered]
    exact .answered (equality.elim .inl (.inr ∘ .inl)) fun _ => ⟨flag, rfl⟩
  · rw [not_or] at equality
    have ordered : operator.apply left right = operator.applyOrdered left right := by
      cases operator with
      | equal => exact absurd rfl equality.1
      | notEqual => exact absurd rfl equality.2
      | _ => rfl
    by_cases ints : left.kind = .int ∧ right.kind = .int
    · cases left <;> cases ints.1
      cases right <;> cases ints.2
      exact applied_ints operator _ _
    rw [ordered]
    by_cases texts : left.kind = .string ∧ right.kind = .string
    · cases left <;> cases texts.1
      cases right <;> cases texts.2
      exact applied_texts operator _ _
    by_cases lists : left.kind = .list ∧ right.kind = .list
    · cases left <;> cases lists.1
      cases right <;> cases lists.2
      exact applied_lists operator equality _ _
    unfold applyOrdered
    split
    · exact absurd ⟨rfl, rfl⟩ ints
    · exact absurd ⟨rfl, rfl⟩ texts
    · exact absurd ⟨rfl, rfl⟩ lists
    split
    · next first second leftNumber rightNumber => exact applied_floats leftNumber rightNumber
    · next unnumbered =>
      refine .refused fun takes => ?_
      rcases takes with same | different | numbers | joined | joined
      · exact equality.1 same
      · exact equality.2 different
      · obtain ⟨first, leftNumber⟩ :=
          Option.isSome_iff_exists.mp (left.isSome_number?.mpr numbers.1)
        obtain ⟨second, rightNumber⟩ :=
          Option.isSome_iff_exists.mp (right.isSome_number?.mpr numbers.2)
        exact unnumbered first second leftNumber rightNumber
      · exact texts joined.1
      · exact lists joined.1

/-- Applying an operator. Arithmetic on two integers is the exact integer if a word holds it and
overflows otherwise; a comparison of two integers is the comparison of the numbers; two texts and
two lists are joined in order. Operands that the operator does not take, and only those, are refused
by a fault with the operator and both kinds in order, and besides only integers overflow. A
comparison that answers does so with a truth value. -/
theorem operator_results (operator : Operator) :
    (∀ (left right : Int64) (exact : Int),
      operator.exactResult? left.toInt right.toInt = some exact →
      ((∃ word : Int64, word.toInt = exact ∧
          operator.apply (.int left) (.int right) = .ok (.int word)) ↔ InWord exact) ∧
        (operator.apply (.int left) (.int right) = .error (.integerOverflow operator) ↔
          ¬ InWord exact)) ∧
    (operator.isComparison = true → ∀ left right : Int64,
      operator.apply (.int left) (.int right) =
        .ok (.bool (decide (operator.Relates left.toInt right.toInt)))) ∧
    (∀ left right : String, Operator.add.apply (.str left) (.str right) =
      .ok (.str (left ++ right))) ∧
    (∀ left right : List Value, Operator.add.apply (.list left) (.list right) =
      .ok (.list (left ++ right))) ∧
    (∀ left right : Value,
      (operator.apply left right = .error (.invalidOperands operator left.kind right.kind) ↔
        ¬ operator.Takes left.kind right.kind) ∧
      (∀ cause, operator.apply left right = .error cause →
        cause = .invalidOperands operator left.kind right.kind ∨
          cause = .integerOverflow operator ∧ operator.Overflows left right) ∧
      (∀ value, operator.isComparison = true → operator.apply left right = .ok value →
        ∃ flag, value = .bool flag)) := by
  refine ⟨fun left right exact asks => ?_, fun comparison => apply_ints comparison,
    fun left right => rfl, fun left right => rfl, fun left right => ⟨?_, ?_, ?_⟩⟩
  · rw [apply_of_exactResult? asks]
    by_cases fits : InWord exact
    · obtain ⟨word, same, answered⟩ := exactly_of_inWord operator fits
      rw [answered]
      exact ⟨iff_of_true ⟨word, same, rfl⟩ fits, iff_of_false nofun (not_not_intro fits)⟩
    · rw [exactly_of_not_inWord fits]
      exact ⟨iff_of_false nofun fits, iff_of_true rfl fits⟩
  all_goals
    have applied := operator.applied left right
    revert applied
    generalize operator.apply left right = outcome
    intro applied
  · cases applied with
    | answered takes judged => exact iff_of_false nofun (not_not_intro takes)
    | overflowed takes overflows => exact iff_of_false nofun (not_not_intro takes)
    | refused refuses => exact iff_of_true rfl refuses
  · rintro cause rfl
    cases applied with
    | overflowed takes overflows => exact .inr ⟨rfl, overflows⟩
    | refused refuses => exact .inl rfl
  · rintro value comparison rfl
    cases applied with
    | answered takes judged => exact judged comparison

/-- The least integer has no negative in a word, taking nothing from it fits, and lists are in no
order. -/
theorem operator_results_at_limits :
    Operator.multiply.apply (.int Int64.minValue) (.int (-1)) =
        .error (.integerOverflow .multiply) ∧
      (∃ word : Int64, word.toInt = Int64.minValue.toInt ∧
        Operator.subtract.apply (.int Int64.minValue) (.int 0) = .ok (.int word)) ∧
      Operator.less.apply (.int Int64.minValue) (.int (-1)) = .ok (.bool true) ∧
      Operator.less.apply (.list []) (.list []) = .error (.invalidOperands .less .list .list) := by
  obtain ⟨multiplied, -⟩ := operator_results .multiply
  obtain ⟨subtracted, -⟩ := operator_results .subtract
  obtain ⟨-, compared, -, -, ended⟩ := operator_results .less
  refine ⟨?_, ?_, compared rfl Int64.minValue (-1), ?_⟩
  · exact (multiplied Int64.minValue (-1) (2 ^ 63) (by decide)).2.mpr (by decide)
  · exact (subtracted Int64.minValue 0 (-2 ^ 63) (by decide)).1.mpr (by decide)
  · exact (ended (.list []) (.list [])).1.mpr (by decide)

end Operator

end Treewalk
