import Treewalk.Fault

/-!
# Applying operators

Equality is defined for every pair of values, order for numbers and for texts. Arithmetic on two
integers is exact or fails; an integer beside a float is widened first. Addition also joins two
texts and two lists.
-/

namespace Treewalk

namespace Value

/-- Equality as the language sees it: an integer equals a float of the same number, and everything
else is compared by structure. -/
def equals (left right : Value) : Bool :=
  match left, right with
  | .int number, .float other => Float.ofInt number.toInt == other
  | .float number, .int other => number == Float.ofInt other.toInt
  | _, _ => left.same right

end Value

namespace Operator

/-- The order of two doubles, if there is one: not-a-number is ordered with nothing. -/
def floatOrder? (left right : Float) : Option Ordering :=
  if left < right then some .lt
  else if left == right then some .eq
  else if right < left then some .gt
  else none

/-- The integers that a 64-bit word can hold. -/
def fitsWord (number : Int) : Bool :=
  Int64.minValue.toInt ≤ number && number ≤ Int64.maxValue.toInt

/-- An exact result as a value, or the fault of the operator whose result does not fit a word. -/
def exactly (operator : Operator) (number : Int) : Except Cause Value :=
  if fitsWord number then .ok (.int (Int64.ofInt number))
  else .error (.integerOverflow operator)

/-- Apply an operator to two integers. -/
def applyInts (operator : Operator) (left right : Int64) : Except Cause Value :=
  match operator with
  | .add => operator.exactly (left.toInt + right.toInt)
  | .subtract => operator.exactly (left.toInt - right.toInt)
  | .multiply => operator.exactly (left.toInt * right.toInt)
  | _ => .ok (.bool (operator.accepts (compare left.toInt right.toInt)))

/-- Apply an operator to two doubles. -/
def applyFloats (operator : Operator) (left right : Float) : Value :=
  match operator with
  | .add => .float (left + right)
  | .subtract => .float (left - right)
  | .multiply => .float (left * right)
  | _ => .bool ((floatOrder? left right).any operator.accepts)

/-- Apply an operator to two texts; they can be joined and compared, nothing else. -/
def applyTexts? (operator : Operator) (left right : String) : Option Value :=
  match operator with
  | .add => some (.str (left ++ right))
  | .subtract => none
  | .multiply => none
  | _ => some (.bool (operator.accepts (compare left right)))

/-- Apply an operator other than `==` and `!=`. -/
def applyOrdered (operator : Operator) (left right : Value) : Except Cause Value :=
  let invalid : Except Cause Value := .error (.invalidOperands operator left.kind right.kind)
  match left, right with
  | .int leftNumber, .int rightNumber => operator.applyInts leftNumber rightNumber
  | .str leftText, .str rightText =>
    match operator.applyTexts? leftText rightText with
    | some value => .ok value
    | none => invalid
  | .list leftItems, .list rightItems =>
    if operator = .add then .ok (.list (leftItems ++ rightItems)) else invalid
  | _, _ =>
    match left.number?, right.number? with
    | some leftNumber, some rightNumber => .ok (operator.applyFloats leftNumber rightNumber)
    | _, _ => invalid

/-- Apply an operator to two values. -/
def apply (operator : Operator) (left right : Value) : Except Cause Value :=
  match operator with
  | .equal => .ok (.bool (left.equals right))
  | .notEqual => .ok (.bool (!left.equals right))
  | _ => operator.applyOrdered left right

end Operator

end Treewalk
