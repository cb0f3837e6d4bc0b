import Treewalk.PartitionPoint
import Treewalk.Store

/-!
# Frames

Entering a scope logs a frame: whose scope it is, how long the call stack was and which variables
the scope binds. Seen from a position of the call stack, the frames that were entered at or before
it are visible, and a variable is looked up among them.

A script binds its variables once, so their oldest binding is read. A function binds its variables
anew in each invocation; the bindings opened by invocations after the position are skipped.

Logs are listed newest frame first.
-/

namespace Treewalk

/-- One scope entry in the frame log. -/
structure Frame where
  scope : Scope
  /-- The length of the call stack when the scope was entered. -/
  enteredAt : Nat
  entries : List Variable
deriving DecidableEq, Repr

namespace Frame

/-- How many frames of a log are visible from a position of the call stack. -/
def visibleCount (log : List Frame) (depth : Nat) : Nat :=
  let oldestFirst := log.reverse.toArray
  partitionPoint oldestFirst.size fun index =>
    (oldestFirst[index]?).any (·.enteredAt ≤ depth)

/-- The frames visible from a position of the call stack. -/
def visible (log : List Frame) (depth : Nat) : List Frame :=
  log.drop (log.length - visibleCount log depth)

/-- The frames entered after a position of the call stack. -/
def later (log : List Frame) (depth : Nat) : List Frame :=
  log.take (log.length - visibleCount log depth)

/-- The variable that the newest frame of a log records for a declaration. -/
def findVariable? (log : List Frame) (declaration : NodeId) : Option Variable :=
  log.findSome? fun frame => Variable.declaredAt? frame.entries declaration

/-- The value of a declaration as seen from a position of the call stack. -/
def lookup? (log : List Frame) (store : Store) (declaration : NodeId) (depth : Nat) :
    Option Value :=
  match findVariable? (visible log depth) declaration with
  | none => none
  | some entry =>
    match entry.owner with
    | .script _ => store.oldest? entry.cell
    | .function function =>
      store.peek? entry.cell ((later log depth).countP (·.scope == .function function))
    | .detached => none

/-- A variable in scope, with its value. -/
structure VisibleVariable where
  declaration : NodeId
  name : String
  value : Value

/-- Add the variables of a scope that have a value and whose name is not taken yet. -/
def extendVisible (value? : NodeId → Option Value) :
    List VisibleVariable → List Variable → List VisibleVariable
  | found, [] => found
  | found, entry :: rest =>
    if found.any (·.name == entry.name) then extendVisible value? found rest
    else
      match value? entry.declaration with
      | some value =>
        extendVisible value? (found ++ [⟨entry.declaration, entry.name, value⟩]) rest
      | none => extendVisible value? found rest

/-- The variables in scope at a position of the call stack that have a value. Newer frames come
first and shadow older ones by name; within a frame declarations ascend. -/
def visibleVariables (log : List Frame) (store : Store) (depth : Nat) : List VisibleVariable :=
  (visible log depth).foldl
    (fun found frame =>
      extendVisible (fun declaration => lookup? log store declaration depth) found
        (Variable.ascending frame.entries))
    []

/-- The label of a declaration recorded in any frame of a log. -/
def variableName? (log : List Frame) (declaration : NodeId) : Option String :=
  (findVariable? log declaration).map (·.name)

end Frame

end Treewalk
