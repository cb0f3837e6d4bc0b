import Treewalk.NodeId
import Treewalk.Operator
import Treewalk.Value

/-!
# Faults

A `Fault` is raised while nodes are processed. It knows its cause, the node it is attributed to and
the faults that followed it inside the same error scope. Two causes are set apart from failures:
`Cause.cancelled` is the signal of a stop request on its way out of an expression, and
`Cause.misuse` reports a broken promise of the embedding code; neither is ever recorded.
-/

namespace Treewalk

/-- A promise that the embedding code did not keep. -/
inductive Misuse where
  | alreadyRun (script : ScriptName)
  | noErrorRecorded
  | foreignLibrary (script library : ScriptName)
deriving DecidableEq, Repr

/-- The wording of a misuse. -/
def Misuse.message : Misuse → String
  | .alreadyRun script =>
    "script " ++ script.text ++
      " cannot run twice; it has to be re-initialized before running"
  | .noErrorRecorded => "no error has been recorded in this error scope"
  | .foreignLibrary script library =>
    "library " ++ library.text ++ " was compiled into a different instruction tree than " ++
      script.text

/-- Why a fault was raised. -/
inductive Cause where
  | unboundVariable (name : String)
  | invalidOperands (operator : Operator) (left right : Value.Kind)
  | integerOverflow (operator : Operator)
  | notIterable (kind : Value.Kind)
  | notCallable (node : NodeId)
  | unknownNode (node : NodeId)
  | arityMismatch (name : String) (expected got : Nat)
  | constructFailed (construct message : String)
  | callDepthExceeded (limit : Nat)
  | custom (message : String)
  /-- A stop request unwinding an expression. -/
  | cancelled
  | misuse (mistake : Misuse)
deriving DecidableEq, Repr

namespace Cause

/-- The wording of a cause. -/
def message : Cause → String
  | .unboundVariable name =>
    "reference to unknown variable '" ++ name ++ "', could not assign value"
  | .invalidOperands operator left right =>
    "cannot apply operator `" ++ operator.symbol ++ "` to " ++ left.name ++ " and " ++ right.name
  | .integerOverflow operator => "integer overflow in `" ++ operator.symbol ++ "`"
  | .notIterable kind => "cannot iterate over " ++ kind.name
  | .notCallable node => "instruction " ++ node.display ++ " is not a function"
  | .unknownNode node => "unknown instruction " ++ node.display
  | .arityMismatch name expected got =>
    name ++ " expects " ++ toString expected ++ " argument(s), got " ++ toString got
  | .constructFailed construct message => construct ++ ": " ++ message
  | .callDepthExceeded limit => "maximum call depth of " ++ toString limit ++ " exceeded"
  | .custom message => message
  | .cancelled => "execution cancelled"
  | .misuse mistake => mistake.message

/-- The embedding code is to blame. -/
def isMisuse : Cause → Bool
  | .misuse _ => true
  | _ => false

/-- The cause is a stop request and no failure. -/
def isCancellation : Cause → Bool
  | .cancelled => true
  | _ => false

end Cause

/-- A fault raised while nodes are processed. -/
structure Fault where
  cause : Cause
  /-- The node on top of the call stack when the fault was first handled. -/
  node : Option NodeId
  /-- The faults that followed inside the same error scope, oldest first. -/
  suppressed : List Fault

namespace Fault

/-- A fault nobody has handled yet. -/
def ofCause (cause : Cause) : Fault :=
  ⟨cause, none, []⟩

/-- The fault of a stop request. -/
def cancelled : Fault :=
  ofCause .cancelled

/-- The wording of a fault is that of its cause. -/
def message (fault : Fault) : String :=
  fault.cause.message

/-- The embedding code is to blame. -/
def isMisuse (fault : Fault) : Bool :=
  fault.cause.isMisuse

/-- The fault is a stop request and no failure. -/
def isCancellation (fault : Fault) : Bool :=
  fault.cause.isCancellation

/-- Attribute the fault to a node, unless it already is attributed to one. -/
def attributedTo (fault : Fault) (node : Option NodeId) : Fault :=
  { fault with node := fault.node.or node }

/-- Attach a later fault. -/
def suppressing (fault later : Fault) : Fault :=
  { fault with suppressed := fault.suppressed ++ [later] }

mutual

/-- Faults are the same when cause, node and all suppressed faults are. -/
def same : Fault → Fault → Bool
  | ⟨leftCause, leftNode, lefts⟩, ⟨rightCause, rightNode, rights⟩ =>
    leftCause == rightCause && leftNode == rightNode && sameAll lefts rights

/-- Sameness of lists of faults, one by one. -/
def sameAll : List Fault → List Fault → Bool
  | [], [] => true
  | left :: lefts, right :: rights => same left right && sameAll lefts rights
  | _, _ => false

end

end Fault

end Treewalk
