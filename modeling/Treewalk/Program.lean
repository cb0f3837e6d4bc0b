import Treewalk.Activation
import Treewalk.Flow
import Treewalk.Operator.Apply
import Treewalk.Tree

/-!
# Running programs

A program is a tree with the argument its script was called with. `Program.process` walks the tree.
A statement answers with a flow, an expression resumes with its value; where a value is needed, the
flow of whatever stands there is collapsed to its value.

Blocks are the checkpoints. Each statement of a block stands on the call stack while it runs, and
its failure is handed on while it still does. A stop request seen after a call or a construct fails
with the cancellation signal, so that the expression around it is abandoned; the enclosing block
turns the signal into a return without a value.

Each rule is written over the walk of the nodes below, and `Program.process` closes the recursion
with a bound on the depth of nested walks. A loop that goes on is walked again as a node below
itself.
-/

namespace Treewalk

/-- A tree to walk, and what its argument declarations receive. -/
structure Program (World : Type) where
  tree : Tree World
  argument : Option Value := none

namespace Program

variable {World : Type}

/-- A way to walk the nodes below the current one. -/
abbrev Walk (World : Type) := NodeId → Exec (Machine World) Flow

/-- Walk a node for its value. -/
def evaluate (walk : Walk World) (node : NodeId) : Exec (Machine World) Value := do
  let flow ← walk node
  return flow.value

/-- Walk nodes for their values, in order; the first failure ends it. -/
def evaluateAll (walk : Walk World) : List NodeId → Exec (Machine World) (List Value)
  | [] => return []
  | node :: rest => do
    let value ← evaluate walk node
    let values ← evaluateAll walk rest
    return value :: values

/-- The variable declared at a node, which has to declare one. -/
def declaration (program : Program World) (node : NodeId) :
    Exec (Machine World) VariableDeclaration :=
  Exec.ofOption (.unknownNode node) (program.tree.variableAt? node)

/-- Overwrite the newest binding of the variable declared at a node. -/
def write (program : Program World) (site : WriteSite) (node : NodeId)
    (declaration : VariableDeclaration) (value : Value) : Exec (Machine World) Unit :=
  Machine.write site declaration.name (program.tree.cell node) value

/-- The first value of a declaration. -/
def initialValue (program : Program World) (walk : Walk World)
    (declaration : VariableDeclaration) : Exec (Machine World) Value :=
  match declaration.mode, program.argument with
  | .argument, some argument => return argument
  | _, _ =>
    match declaration.initializer with
    | some initializer => evaluate walk initializer
    | none => return .null

/-- Settle the end of a statement: a stop request returns without a value, any other failure is
handed on, and if that absorbs it the block goes on. -/
def settle (statement : NodeId) : Except Fault Flow → Exec (Machine World) Flow
  | .ok flow => return flow
  | .error fault =>
    if fault.isCancellation then return .returning none
    else do
      Machine.handFrom statement fault
      return .resume none

/-- Run a statement of a block to its settled end. -/
def runStatement (walk : Walk World) (statement : NodeId) : Exec (Machine World) Flow := do
  let ended ← Exec.attempt (walk statement)
  settle statement ended

/-- Process a statement of a block. All but function declarations stand on the call stack
meanwhile, and a stop requested on entry keeps them from running. -/
def processStatement (program : Program World) (walk : Walk World) (statement : NodeId) :
    Exec (Machine World) Flow := do
  let instruction ← Exec.ofExcept (program.tree.instruction statement)
  if instruction.isTracked then
    Exec.update (Machine.enter statement)
    Exec.ensuring
      (do
        let stops ← Machine.poll
        if stops then return .returning none
        else runStatement walk statement)
      (Machine.leave statement)
  else runStatement walk statement

/-- Process the statements of a block in order, until one does not resume or a stop is due. -/
def processBlock (program : Program World) (walk : Walk World) :
    List NodeId → Exec (Machine World) Flow
  | [] => return .resume none
  | statement :: rest => do
    let stops ← Machine.poll
    if stops then return .returning none
    else
      let flow ← program.processStatement walk statement
      if flow.resumes then program.processBlock walk rest else return flow

/-- Process one round of a loop and, if the loop goes on, the loop again. -/
def processLoop (walk : Walk World) (loop condition body : NodeId) :
    Exec (Machine World) Flow := do
  let stops ← Machine.poll
  if stops then return .resume none
  else
    let test ← evaluate walk condition
    if test.isTruthy then
      let flow ← walk body
      if flow.returns then return flow
      else if flow.breaks then return .resume none
      else walk loop
    else return .resume none

/-- What a loop over a value goes through: list items, object values in key order, or nothing. -/
def iterationItems : Value → Except Cause (List Value)
  | .list items => .ok items
  | .object entries => .ok (entries.map (·.2))
  | .null => .ok []
  | other => .error (.notIterable other.kind)

/-- Process the body once for each item. -/
def processItems (program : Program World) (walk : Walk World) (target : NodeId)
    (declaration : VariableDeclaration) (body : NodeId) :
    List Value → Exec (Machine World) Flow
  | [] => return .resume none
  | item :: rest => do
    let stops ← Machine.poll
    if stops then return .resume none
    else
      program.write .iteration target declaration item
      let flow ← walk body
      if flow.returns then return flow
      else if flow.breaks then return .resume none
      else program.processItems walk target declaration body rest

/-- A caught fault as scripts see it: its message, and its line if its node has one. -/
def caughtObject (program : Program World) (fault : Fault) : Value :=
  let line :=
    match fault.node.bind program.tree.position? with
    | some position => [("line", Value.int (Int64.ofNat position.line))]
    | none => []
  Value.ofEntries (("message", .str fault.message) :: line)

/-- Process a part of an error block, if the block has it; its flow is dropped. -/
def processPart (walk : Walk World) : Option NodeId → Exec (Machine World) Unit
  | none => return ()
  | some part => do
    let _ ← walk part
    return ()

/-- Walk a body to its settled end: a failure that reaches the end of the body is handed on. -/
def runProtected (walk : Walk World) (body : NodeId) : Exec (Machine World) Flow := do
  match ← Exec.attempt (walk body) with
  | .ok flow => return flow
  | .error fault =>
    Machine.hand fault
    return .resume none

/-- Process the protected body of an error block in an error scope of its own. -/
def processProtected (walk : Walk World) (body : NodeId) :
    Exec (Machine World) (Flow × Option Fault) :=
  Machine.protect (runProtected walk body)

/-- Give a caught fault to the declaration that asks for it. -/
def bindCause (program : Program World) (fault : Fault) :
    Option NodeId → Exec (Machine World) Unit
  | none => return ()
  | some cause => do
    let declaration ← program.declaration cause
    program.write .caughtError cause declaration (program.caughtObject fault)

/-- Go on after an error was caught: give away its cause, then the part for errors, then the part
for either end. A caught error resumes. -/
def handleCaught (program : Program World) (walk : Walk World) (parts : ErrorBlock)
    (fault : Fault) : Exec (Machine World) Flow := do
  program.bindCause fault parts.cause
  processPart walk parts.onError
  processPart walk parts.cleanup
  return .resume none

/-- Process an error block: the body in an error scope of its own, then the part for errors or the
part for success, then the part for either. -/
def processErrorBlock (program : Program World) (walk : Walk World) (parts : ErrorBlock) :
    Exec (Machine World) Flow := do
  let (flow, caught) ← processProtected walk parts.body
  match caught with
  | some fault => program.handleCaught walk parts fault
  | none =>
    processPart walk parts.onSuccess
    processPart walk parts.cleanup
    return flow

/-- The value of a parameter: the next argument, else the default, else null. -/
def parameterValue (walk : Walk World) (declaration : VariableDeclaration) :
    List Value → Exec (Machine World) Value
  | value :: _ => return value
  | [] =>
    match declaration.initializer with
    | some initializer => evaluate walk initializer
    | none => return .null

/-- Give values to parameters in order. -/
def bindParameters (program : Program World) (walk : Walk World) :
    List NodeId → List Value → Exec (Machine World) Unit
  | [], _ => return ()
  | parameter :: rest, values => do
    let declaration ← program.declaration parameter
    let value ← parameterValue walk declaration values
    program.write .parameter parameter declaration value
    program.bindParameters walk rest values.tail

/-- The inside of a call: parameters, body, and the cancellation signal if a stop is due. -/
def runFunction (program : Program World) (walk : Walk World) (function : FunctionDeclaration)
    (values : List Value) : Exec (Machine World) Value := do
  program.bindParameters walk function.parameters values
  let flow ← walk function.body
  let stops ← Machine.poll
  if stops then Exec.fail .cancelled else return flow.value

/-- Call a function on values that are already known. -/
def activate (program : Program World) (walk : Walk World) (site callee : NodeId)
    (function : FunctionDeclaration) (values : List Value) : Exec (Machine World) Value :=
  Activation.within { layout := program.tree.functionLayout callee, callSite := some site }
    (program.runFunction walk function values)

/-- Call the function declared at a node. -/
def callFunction (program : Program World) (walk : Walk World) (site callee : NodeId)
    (arguments : List NodeId) : Exec (Machine World) Value := do
  let function ← Exec.ofOption (.notCallable callee) (program.tree.functionAt? callee)
  let values ← evaluateAll walk arguments
  program.activate walk site callee function values

/-- Call a construct. -/
def callConstruct (walk : Walk World) (construct : Construct World) (arguments : List NodeId) :
    Exec (Machine World) Value := do
  let values ← evaluateAll walk arguments
  if values.length = construct.arity then
    let value ← Machine.invoke construct values
    let stops ← Machine.poll
    if stops then Exec.fail .cancelled else return value
  else Exec.failFor (.arityMismatch construct.name construct.arity values.length)

/-- Process a statement. -/
def performStatement (program : Program World) (walk : Walk World) (node : NodeId) :
    Statement → Exec (Machine World) Flow
  | .block statements => program.processBlock walk statements
  | .declareVariable declaration => do
    let value ← program.initialValue walk declaration
    program.write .declaration node declaration value
    return .resume none
  | .declareFunction _ => return .resume none
  | .branch condition consequent alternative => do
    let test ← evaluate walk condition
    if test.isTruthy then walk consequent
    else
      match alternative with
      | some otherwise => walk otherwise
      | none => return .resume none
  | .loop condition body => processLoop walk node condition body
  | .foreach target iterable body => do
    let declaration ← program.declaration target
    let value ← evaluate walk iterable
    let items ← Exec.ofExcept ((iterationItems value).mapError Fault.ofCause)
    program.processItems walk target declaration body items
  | .breakLoop => return .breaking
  | .continueLoop => return .continuing
  | .leave none => return .returning none
  | .leave (some result) => do
    let value ← evaluate walk result
    return .returning (some value)
  | .errorBlock parts => program.processErrorBlock walk parts

/-- Evaluate an expression. -/
def performExpression (program : Program World) (walk : Walk World) (node : NodeId) :
    Expression World → Exec (Machine World) Value
  | .literal value => return value
  | .list items => do
    let values ← evaluateAll walk items
    return .list values
  | .read target => do
    let _ ← program.declaration target
    let machine ← Exec.state
    return (machine.store.current? (program.tree.cell target)).getD .null
  | .assign target operand => do
    let value ← evaluate walk operand
    let declaration ← program.declaration target
    program.write .assignment target declaration value
    return value
  | .binary operator left right => do
    let leftValue ← evaluate walk left
    let rightValue ← evaluate walk right
    Exec.ofExcept ((operator.apply leftValue rightValue).mapError Fault.ofCause)
  | .call callee arguments => program.callFunction walk node callee arguments
  | .construct construct arguments => callConstruct walk construct arguments

/-- Walk a node, given the walk of the nodes below it. -/
def step (program : Program World) (walk : Walk World) (node : NodeId) :
    Exec (Machine World) Flow := do
  match ← Exec.ofExcept (program.tree.instruction node) with
  | .statement content => program.performStatement walk node content
  | .expression content =>
    let value ← program.performExpression walk node content
    return .resume (some value)

section

variable {program : Program World} {walk : Walk World} {node : NodeId}

/-- A known node is walked by what its instruction says. -/
theorem step_statement {content : Statement}
    (found : program.tree.instruction node = .ok (.statement content)) :
    program.step walk node = program.performStatement walk node content := by
  simp only [Program.step, found]
  rfl

theorem step_expression {content : Expression World}
    (found : program.tree.instruction node = .ok (.expression content)) :
    program.step walk node =
      (do
        let value ← program.performExpression walk node content
        return .resume (some value)) := by
  simp only [Program.step, found]
  rfl

end

/-- Walk a node with at most `fuel` walks nested in each other. -/
def process (program : Program World) : Nat → Walk World
  | 0, _ => Exec.exhausted
  | fuel + 1, node => program.step (fun below => program.process fuel below) node

/-- Evaluate a node with at most `fuel` walks nested in each other. -/
def eval (program : Program World) (fuel : Nat) (node : NodeId) :
    Exec (Machine World) Value :=
  evaluate (program.process fuel) node

/-- Process statements as a block with at most `fuel` walks nested in each other. -/
def processStatements (program : Program World) (fuel : Nat) (statements : List NodeId) :
    Exec (Machine World) Flow :=
  program.processBlock (program.process fuel) statements

end Program

end Treewalk
