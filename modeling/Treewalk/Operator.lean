/-!
# Operators

The binary operators of the language and the reading of an ordering by each comparison.
-/

namespace Treewalk

/-- A binary operator. -/
inductive Operator where
  | add
  | subtract
  | multiply
  | equal
  | notEqual
  | less
  | lessEqual
  | greater
  | greaterEqual
deriving DecidableEq, Repr

namespace Operator

/-- How the operator is written. -/
def symbol : Operator → String
  | .add => "+"
  | .subtract => "-"
  | .multiply => "*"
  | .equal => "=="
  | .notEqual => "!="
  | .less => "<"
  | .lessEqual => "<="
  | .greater => ">"
  | .greaterEqual => ">="

/-- All operators. -/
def all : List Operator :=
  [.add, .subtract, .multiply, .equal, .notEqual, .less, .lessEqual, .greater, .greaterEqual]

/-- The operator written with a symbol. -/
def ofSymbol? (text : String) : Option Operator :=
  all.find? fun operator => operator.symbol == text

/-- The operators that answer with a truth value. -/
def isComparison : Operator → Bool
  | .add => false
  | .subtract => false
  | .multiply => false
  | _ => true

/-- Whether a comparison holds of operands in the given order; arithmetic never does. -/
def accepts : Operator → Ordering → Bool
  | .less, ordering => ordering.isLT
  | .lessEqual, ordering => ordering.isLE
  | .greater, ordering => ordering.isGT
  | .greaterEqual, ordering => ordering.isGE
  | .equal, ordering => ordering.isEq
  | .notEqual, ordering => ordering.isNe
  | .add, _ => false
  | .subtract, _ => false
  | .multiply, _ => false

end Operator

end Treewalk
