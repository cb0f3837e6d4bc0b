import Treewalk.Proofs.ErrorContainment
import Treewalk.Proofs.StopHeeding

/-!
# Stratified trees

A tree is stratified when whatever is evaluated for its value is an expression and whatever is run
as a body is a block. Elsewhere either may stand in for the other, and then a stop request can be
missed: a block that is evaluated for its value turns the request into a value, and an expression
that is run as a body does not look for one first.

What is to be shown of a run in such a tree differs between expressions, statements and blocks. A
`Program.Discipline` has a property for each of the three, closed under the ways in which a
stratified tree puts them together. `Discipline.Graded` collects the properties of a walk of the
nodes below, `Discipline.Graded.step` shows them of one more layer, and `Discipline.process` of all
walks.

Heeding a stop is such a discipline: in a stratified tree every walk is brief, that is, with the
signal up it invokes one construct at most; expressions are brisk, and blocks and loops heed a stop
without delay.
-/

namespace Treewalk

variable {World : Type}

/-- The nodes that a statement evaluates for their values. -/
def Statement.operands : Statement → List NodeId
  | .declareVariable declaration => declaration.initializer.toList
  | .branch condition _ _ => [condition]
  | .loop condition _ => [condition]
  | .foreach _ iterable _ => [iterable]
  | .leave value => value.toList
  | _ => []

/-- The nodes that a statement runs as bodies, and the body of a declared function. -/
def Statement.bodies : Statement → List NodeId
  | .declareFunction declaration => [declaration.body]
  | .branch _ consequent alternative => consequent :: alternative.toList
  | .loop _ body => [body]
  | .foreach _ _ body => [body]
  | .errorBlock parts =>
    parts.body :: (parts.onError.toList ++ parts.onSuccess.toList ++ parts.cleanup.toList)
  | _ => []

/-- The bodies of an error block are its parts. -/
theorem ErrorBlock.forall_bodies {parts : ErrorBlock} {Holds : NodeId → Prop} :
    (∀ body ∈ (Statement.errorBlock parts).bodies, Holds body) ↔
      Holds parts.body ∧ (∀ part ∈ parts.onError, Holds part) ∧
        (∀ part ∈ parts.onSuccess, Holds part) ∧ ∀ part ∈ parts.cleanup, Holds part := by
  simp only [Statement.bodies, List.forall_mem_cons, List.forall_mem_append, Option.mem_toList,
    and_assoc, Option.mem_def]

namespace Instruction

/-- The nodes that are evaluated for their values. All children of an expression are. -/
def operands : Instruction World → List NodeId
  | .statement content => content.operands
  | .expression content => content.children

/-- The nodes that are run as bodies. -/
def bodies : Instruction World → List NodeId
  | .statement content => content.bodies
  | .expression _ => []

end Instruction

namespace Tree

/-- The node is an expression. -/
def isExpression (tree : Tree World) (node : NodeId) : Bool :=
  match tree.instruction node with
  | .ok (.expression _) => true
  | _ => false

/-- The node is a block. -/
def isBlock (tree : Tree World) (node : NodeId) : Bool :=
  match tree.instruction node with
  | .ok (.statement (.block _)) => true
  | _ => false

/-- Operands are expressions and bodies are blocks. -/
def Stratified (tree : Tree World) : Prop :=
  ∀ node ∈ tree.nodes.toList,
    (∀ operand ∈ node.instruction.operands, tree.isExpression operand = true) ∧
      ∀ body ∈ node.instruction.bodies, tree.isBlock body = true

instance (tree : Tree World) : Decidable tree.Stratified :=
  inferInstanceAs (Decidable (∀ node ∈ tree.nodes.toList,
    (∀ operand ∈ node.instruction.operands, tree.isExpression operand = true) ∧
      ∀ body ∈ node.instruction.bodies, tree.isBlock body = true))

variable {tree : Tree World} {node : NodeId}

/-- A node that is an expression has one for its instruction. -/
theorem exists_of_isExpression (expression : tree.isExpression node = true) :
    ∃ content, tree.instruction node = .ok (.expression content) := by
  simp only [isExpression] at expression
  split at expression
  · next content found => exact ⟨content, found⟩
  · cases expression

/-- A node that is a block has statements. -/
theorem exists_of_isBlock (block : tree.isBlock node = true) :
    ∃ statements, tree.instruction node = .ok (.statement (.block statements)) := by
  simp only [isBlock] at block
  split at block
  · next statements found => exact ⟨statements, found⟩
  · cases block

/-- Instructions that are found are those of members of the tree. -/
theorem mem_of_instruction {instruction : Instruction World}
    (found : tree.instruction node = .ok instruction) :
    ∃ member ∈ tree.nodes.toList, member.instruction = instruction := by
  simp only [Tree.instruction, get?] at found
  split at found
  · next member atIndex =>
    cases found
    exact ⟨member, Array.mem_toList_iff.mpr (Array.mem_of_getElem? atIndex), rfl⟩
  · cases found

/-- In a stratified tree operands are expressions. -/
theorem Stratified.operand (stratified : tree.Stratified) {instruction : Instruction World}
    (found : tree.instruction node = .ok instruction) :
    ∀ operand ∈ instruction.operands, tree.isExpression operand = true := by
  obtain ⟨member, listed, rfl⟩ := mem_of_instruction found
  exact (stratified member listed).1

/-- In a stratified tree bodies are blocks. -/
theorem Stratified.body (stratified : tree.Stratified) {instruction : Instruction World}
    (found : tree.instruction node = .ok instruction) :
    ∀ body ∈ instruction.bodies, tree.isBlock body = true := by
  obtain ⟨member, listed, rfl⟩ := mem_of_instruction found
  exact (stratified member listed).2

end Tree

namespace Program

open Contract Machine

/-- Properties of expressions, statements and blocks that hold together in a stratified tree. -/
structure Discipline (program : Program World) where
  Expression : {Result : Type} → Exec (Machine World) Result → Prop
  Statement : {Result : Type} → Exec (Machine World) Result → Prop
  Block : {Result : Type} → Exec (Machine World) Result → Prop
  expression_pure {Result : Type} (result : Result) :
    Expression (Pure.pure result : Exec (Machine World) Result)
  expression_fail {Result : Type} (fault : Fault) :
    Expression (Exec.fail fault : Exec (Machine World) Result)
  expression_exhausted {Result : Type} :
    Expression (Exec.exhausted : Exec (Machine World) Result)
  block_pure {Result : Type} (result : Result) :
    Block (Pure.pure result : Exec (Machine World) Result)
  block_exhausted {Result : Type} : Block (Exec.exhausted : Exec (Machine World) Result)
  statement_of_expression {Result : Type} {body : Exec (Machine World) Result}
    (expression : Expression body) : Statement body
  statement_of_block {Result : Type} {body : Exec (Machine World) Result} (block : Block body) :
    Statement body
  expression_bind {Result Next : Type} {first : Exec (Machine World) Result}
    {next : Result → Exec (Machine World) Next} (expression : Expression first)
    (rest : ∀ result, Expression (next result)) : Expression (first >>= next)
  /-- A statement may evaluate an expression first. -/
  statement_after {Result Next : Type} {first : Exec (Machine World) Result}
    {next : Result → Exec (Machine World) Next} (expression : Expression first)
    (rest : ∀ result, Statement (next result)) : Statement (first >>= next)
  /-- What follows a statement has to do as a block. -/
  statement_bind {Result Next : Type} {first : Exec (Machine World) Result}
    {next : Result → Exec (Machine World) Next} (statement : Statement first)
    (rest : ∀ result, Block (next result)) : Statement (first >>= next)
  block_bind {Result Next : Type} {first : Exec (Machine World) Result}
    {next : Result → Exec (Machine World) Next} (block : Block first)
    (rest : ∀ result, Block (next result)) : Block (first >>= next)
  /-- A block asks whether a stop is due before it runs a statement. -/
  checkpoint {Result : Type} (result : Result) {go : Exec (Machine World) Result}
    (statement : Statement go) :
    Block
      (do
        let stops ← Machine.poll
        if stops then return result else go)
  tracked (node : NodeId) {Result : Type} {body : Exec (Machine World) Result}
    (block : Block body) :
    Block
      (do
        Exec.update (Machine.enter node)
        Exec.ensuring body (Machine.leave node))
  read (cell : Cell) :
    Expression
      (do
        let machine ← Exec.state
        return (machine.store.current? cell).getD .null)
  write (site : WriteSite) (name : String) (cell : Cell) (value : Value) :
    Expression (Machine.write site name cell value)
  /-- The failure of a statement is handed on. -/
  runStatement {walk : Walk World} {node : NodeId} (statement : Statement (walk node)) :
    Statement (Program.runStatement walk node)
  /-- The failure of a declaration is handed on. -/
  runDeclaration {walk : Walk World} {node : NodeId} (statement : Statement (walk node)) :
    Statement (Program.runDeclaration walk node)
  /-- The walks below an error block stay inside their error scopes. -/
  errorBlock {walk : Walk World} (contained : ∀ node, containing.Kept (walk node))
    {parts : ErrorBlock}
    (blocks : ∀ body ∈ (Treewalk.Statement.errorBlock parts).bodies, Block (walk body)) :
    Statement (program.processErrorBlock walk parts)
  /-- A call asks last of all whether a stop is due. -/
  call (activation : Activation) {parameters : Exec (Machine World) Unit}
    {body : Exec (Machine World) Flow} (expression : Expression parameters)
    (block : Block body) :
    Expression
      (activation.within do
        parameters
        let flow ← body
        let stops ← Machine.poll
        if stops then Exec.fail .cancelled else return flow.value)
  /-- So does the invocation of a construct. -/
  invoke (construct : Construct World) (arguments : List Value) :
    Expression
      (do
        let value ← Machine.invoke construct arguments
        let stops ← Machine.poll
        if stops then Exec.fail .cancelled else return value)

namespace Discipline

variable {program : Program World} (discipline : program.Discipline)

/-- What the walks of the nodes below are known to do. -/
structure Graded (walk : Walk World) : Prop where
  contained (node : NodeId) : containing.Kept (walk node)
  statement (node : NodeId) : discipline.Statement (walk node)
  expression {node : NodeId} (expression : program.tree.isExpression node = true) :
    discipline.Expression (walk node)
  block {node : NodeId} (block : program.tree.isBlock node = true) :
    discipline.Block (walk node)
  loop {node condition body : NodeId}
    (loop : program.tree.instruction node = .ok (.statement (.loop condition body))) :
    discipline.Block (walk node)

/-- Giving a value that may be missing counts as an expression. -/
theorem expression_ofOption {Result : Type} (cause : Cause) (found : Option Result) :
    discipline.Expression (Exec.ofOption cause found : Exec (Machine World) Result) := by
  cases found with
  | none => exact discipline.expression_fail _
  | some result => exact discipline.expression_pure result

/-- Giving a settled result counts as an expression. -/
theorem expression_ofExcept {Result : Type} (settled : Except Fault Result) :
    discipline.Expression (Exec.ofExcept settled : Exec (Machine World) Result) := by
  cases settled with
  | error fault => exact discipline.expression_fail fault
  | ok result => exact discipline.expression_pure result

/-- Being done with a value counts as a statement. -/
theorem statement_pure {Result : Type} (result : Result) :
    discipline.Statement (Pure.pure result : Exec (Machine World) Result) :=
  discipline.statement_of_block (discipline.block_pure result)

namespace Graded

variable {discipline} {walk : Walk World} (graded : discipline.Graded walk)

include graded

/-- Collapsing a flow to its value happens after the walk. -/
theorem evaluate {node : NodeId} (expression : program.tree.isExpression node = true) :
    discipline.Expression (Program.evaluate walk node) :=
  discipline.expression_bind (graded.expression expression) fun flow =>
    discipline.expression_pure flow.value

/-- Operands are evaluated from left to right. -/
theorem evaluateAll {nodes : List NodeId}
    (expressions : ∀ node ∈ nodes, program.tree.isExpression node = true) :
    discipline.Expression (Program.evaluateAll walk nodes) := by
  induction nodes with
  | nil => exact discipline.expression_pure []
  | cons node rest inductionHypothesis =>
    obtain ⟨first, others⟩ := List.forall_mem_cons.mp expressions
    apply discipline.expression_bind (graded.evaluate first)
    intro value
    apply discipline.expression_bind (inductionHypothesis others)
    intro values
    exact discipline.expression_pure (value :: values)

/-- The first value of a variable comes from an expression. -/
theorem initialValue {declaration : VariableDeclaration}
    (expressions : ∀ node ∈ declaration.initializer, program.tree.isExpression node = true) :
    discipline.Expression (program.initialValue walk declaration) := by
  simp only [Program.initialValue]
  split
  · exact discipline.expression_pure _
  · split
    · next initializer found => exact graded.evaluate (expressions initializer found)
    · exact discipline.expression_pure _

/-- So does a default. -/
theorem parameterValue {declaration : VariableDeclaration}
    (expressions : ∀ node ∈ declaration.initializer, program.tree.isExpression node = true)
    (values : List Value) :
    discipline.Expression (Program.parameterValue walk declaration values) := by
  simp only [Program.parameterValue]
  split
  · exact discipline.expression_pure _
  · split
    · next initializer found => exact graded.evaluate (expressions initializer found)
    · exact discipline.expression_pure _

/-- A statement that is entered is checked before it runs. -/
theorem processStatement (node : NodeId) :
    discipline.Statement (program.processStatement walk node) := by
  have run := discipline.runStatement (graded.statement node)
  apply discipline.statement_after (discipline.expression_ofExcept _)
  intro instruction
  split
  · apply discipline.statement_of_block
    exact discipline.tracked node (discipline.checkpoint _ run)
  · exact run

/-- A block is checked before each of its statements. -/
theorem processBlock (statements : List NodeId) :
    discipline.Block (program.processBlock walk statements) := by
  induction statements with
  | nil => exact discipline.block_pure _
  | cons statement rest inductionHypothesis =>
    apply discipline.checkpoint
    apply discipline.statement_bind (graded.processStatement statement)
    intro flow
    split
    · exact inductionHypothesis
    · exact discipline.block_pure flow

/-- A loop is checked before each round, and its body is a block. -/
theorem processLoop {loop condition body : NodeId}
    (found : program.tree.instruction loop = .ok (.statement (.loop condition body)))
    (expression : program.tree.isExpression condition = true)
    (block : program.tree.isBlock body = true) :
    discipline.Block (Program.processLoop walk loop condition body) := by
  apply discipline.checkpoint
  apply discipline.statement_after (graded.evaluate expression)
  intro test
  split
  · apply discipline.statement_of_block
    apply discipline.block_bind (graded.block block)
    intro flow
    split
    · exact discipline.block_pure flow
    · split
      · exact discipline.block_pure _
      · exact graded.loop found
  · exact discipline.statement_pure _

/-- So is a loop over items. -/
theorem processItems (target : NodeId) (declaration : VariableDeclaration) {body : NodeId}
    (block : program.tree.isBlock body = true) (items : List Value) :
    discipline.Block (program.processItems walk target declaration body items) := by
  induction items with
  | nil => exact discipline.block_pure _
  | cons item rest inductionHypothesis =>
    apply discipline.checkpoint
    apply discipline.statement_after (discipline.write _ _ _ _)
    intro _
    apply discipline.statement_of_block
    apply discipline.block_bind (graded.block block)
    intro flow
    split
    · exact discipline.block_pure flow
    · split
      · exact discipline.block_pure _
      · exact inductionHypothesis

/-- Every statement is made of expressions and blocks. -/
theorem performStatement (stratified : program.tree.Stratified) {node : NodeId}
    {content : Treewalk.Statement}
    (found : program.tree.instruction node = .ok (.statement content)) :
    discipline.Statement (program.performStatement walk node content) := by
  have operands := stratified.operand found
  have bodies := stratified.body found
  cases content with
  | block statements => exact discipline.statement_of_block (graded.processBlock statements)
  | declareVariable declaration =>
    apply discipline.statement_after
      (graded.initialValue fun node listed => operands node (Option.mem_toList.mpr listed))
    intro value
    exact discipline.statement_after (discipline.write _ _ _ _) fun _ =>
      discipline.statement_pure _
  | declareFunction _ => exact discipline.statement_pure _
  | branch condition consequent alternative =>
    apply discipline.statement_after
      (graded.evaluate (operands condition (List.mem_singleton_self condition)))
    intro test
    apply discipline.statement_of_block
    split
    · exact graded.block (bodies consequent List.mem_cons_self)
    · cases alternative with
      | none => exact discipline.block_pure _
      | some otherwise =>
        exact graded.block (bodies otherwise (List.mem_cons_of_mem _ (List.mem_singleton_self _)))
  | loop condition body =>
    apply discipline.statement_of_block
    exact graded.processLoop found (operands condition (List.mem_singleton_self condition))
      (bodies body (List.mem_singleton_self body))
  | foreach target iterable body =>
    apply discipline.statement_after (discipline.expression_ofOption _ _)
    intro declaration
    apply discipline.statement_after
      (graded.evaluate (operands iterable (List.mem_singleton_self iterable)))
    intro value
    apply discipline.statement_after (discipline.expression_ofExcept _)
    intro items
    apply discipline.statement_of_block
    exact graded.processItems target declaration (bodies body (List.mem_singleton_self body)) items
  | breakLoop => exact discipline.statement_pure _
  | continueLoop => exact discipline.statement_pure _
  | leave value =>
    cases value with
    | none => exact discipline.statement_pure _
    | some result =>
      apply discipline.statement_after
        (graded.evaluate (operands result (List.mem_singleton_self result)))
      intro value
      exact discipline.statement_pure _
  | errorBlock parts =>
    exact discipline.errorBlock graded.contained fun body listed =>
      graded.block (bodies body listed)

/-- Parameters are bound by expressions. -/
theorem bindParameters (stratified : program.tree.Stratified) (parameters : List NodeId)
    (values : List Value) :
    discipline.Expression (program.bindParameters walk parameters values) := by
  induction parameters generalizing values with
  | nil => exact discipline.expression_pure ()
  | cons parameter rest inductionHypothesis =>
    simp only [Program.bindParameters, declaration]
    cases declared : program.tree.variableAt? parameter with
    | none => exact discipline.expression_fail _
    | some declaration =>
      have operands := stratified.operand (Tree.instruction_of_variableAt? declared)
      have value : discipline.Expression (Program.parameterValue walk declaration values) :=
        graded.parameterValue
          (fun node listed => operands node (Option.mem_toList.mpr listed)) values
      apply discipline.expression_bind value
      intro given
      exact discipline.expression_bind (discipline.write _ _ _ _) fun _ =>
        inductionHypothesis values.tail

/-- A call evaluates its arguments, and checks for a stop at its end. -/
theorem callFunction (stratified : program.tree.Stratified) (site callee : NodeId)
    {arguments : List NodeId}
    (expressions : ∀ node ∈ arguments, program.tree.isExpression node = true) :
    discipline.Expression (program.callFunction walk site callee arguments) := by
  simp only [Program.callFunction]
  cases declared : program.tree.functionAt? callee with
  | none => exact discipline.expression_fail _
  | some function =>
    have block : program.tree.isBlock function.body = true :=
      stratified.body (Tree.instruction_of_functionAt? declared) function.body
        (List.mem_singleton_self function.body)
    apply discipline.expression_bind (graded.evaluateAll expressions)
    intro values
    exact discipline.call _ (graded.bindParameters stratified function.parameters values)
      (graded.block block)

/-- A construct is invoked after its arguments, and followed by a check. -/
theorem callConstruct (construct : Construct World) {arguments : List NodeId}
    (expressions : ∀ node ∈ arguments, program.tree.isExpression node = true) :
    discipline.Expression (Program.callConstruct walk construct arguments) := by
  apply discipline.expression_bind (graded.evaluateAll expressions)
  intro values
  split
  · exact discipline.invoke construct values
  · exact discipline.expression_fail _

/-- Every expression is made of expressions, calls and constructs. -/
theorem performExpression (stratified : program.tree.Stratified) {node : NodeId}
    {content : Treewalk.Expression World}
    (found : program.tree.instruction node = .ok (.expression content)) :
    discipline.Expression (program.performExpression walk node content) := by
  have operands := stratified.operand found
  cases content with
  | literal value => exact discipline.expression_pure value
  | list items =>
    exact discipline.expression_bind (graded.evaluateAll operands) fun _ =>
      discipline.expression_pure _
  | read target =>
    exact discipline.expression_bind (discipline.expression_ofOption _ _) fun _ =>
      discipline.read _
  | assign target operand =>
    apply discipline.expression_bind
      (graded.evaluate (operands operand (List.mem_singleton_self operand)))
    intro value
    apply discipline.expression_bind (discipline.expression_ofOption _ _)
    intro declaration
    exact discipline.expression_bind (discipline.write _ _ _ _) fun _ =>
      discipline.expression_pure value
  | binary operator left right =>
    apply discipline.expression_bind (graded.evaluate (operands left List.mem_cons_self))
    intro leftValue
    apply discipline.expression_bind
      (graded.evaluate (operands right (List.mem_cons_of_mem _ List.mem_cons_self)))
    intro rightValue
    exact discipline.expression_ofExcept _
  | call callee arguments => exact graded.callFunction stratified node callee operands
  | construct construct arguments => exact graded.callConstruct construct operands

/-- The walk of an expression resumes with its value. -/
theorem step_of_expression (stratified : program.tree.Stratified) {node : NodeId}
    {content : Treewalk.Expression World}
    (found : program.tree.instruction node = .ok (.expression content)) :
    discipline.Expression (program.step walk node) := by
  rw [step_expression found]
  exact discipline.expression_bind (graded.performExpression stratified found) fun _ =>
    discipline.expression_pure _

/-- One more layer of the tree. -/
theorem step (stratified : program.tree.Stratified) : discipline.Graded (program.step walk) where
  contained node := (containing_upheld program).step graded.contained node
  statement node := by
    cases found : program.tree.instruction node with
    | error fault =>
      simp only [Program.step, found]
      exact discipline.statement_of_expression (discipline.expression_fail fault)
    | ok instruction =>
      cases instruction with
      | statement content =>
        rw [step_statement found]
        exact graded.performStatement stratified found
      | expression content =>
        exact discipline.statement_of_expression (graded.step_of_expression stratified found)
  expression := by
    intro node expression
    obtain ⟨content, found⟩ := Tree.exists_of_isExpression expression
    exact graded.step_of_expression stratified found
  block := by
    intro node block
    obtain ⟨statements, found⟩ := Tree.exists_of_isBlock block
    rw [step_statement found]
    exact graded.processBlock statements
  loop := by
    intro node condition body found
    rw [step_statement found]
    exact graded.processLoop found
      (stratified.operand found condition (List.mem_singleton_self condition))
      (stratified.body found body (List.mem_singleton_self body))

/-- The declarations of a library are looked at one by one, like the statements of a block. -/
theorem runDeclarations (statements : List NodeId) :
    discipline.Block (program.runDeclarations walk statements) := by
  induction statements with
  | nil => exact discipline.block_pure ()
  | cons statement rest inductionHypothesis =>
    apply discipline.checkpoint
    apply discipline.statement_after (discipline.expression_ofExcept _)
    intro instruction
    split
    · apply discipline.statement_bind (discipline.runDeclaration (graded.statement statement))
      intro failed
      split
      · exact discipline.block_pure ()
      · exact inductionHypothesis
    · exact discipline.statement_of_block inductionHypothesis

end Graded

/-- In a stratified tree all walks keep a discipline. -/
theorem process (stratified : program.tree.Stratified) (fuel : Nat) :
    discipline.Graded (program.process fuel) := by
  induction fuel with
  | zero =>
    exact ⟨fun _ => kept_exhausted,
      fun _ => discipline.statement_of_block discipline.block_exhausted,
      fun _ => discipline.expression_exhausted, fun _ => discipline.block_exhausted,
      fun _ => discipline.block_exhausted⟩
  | succ fuel inductionHypothesis => exact inductionHypothesis.step stratified

end Discipline

/-- Binding a cause heeds a stop, because it only writes. -/
theorem heeding_bindCause (program : Program World) (fault : Fault) (cause : Option NodeId) :
    heeding.Kept (program.bindCause fault cause) := by
  cases cause with
  | none => exact kept_pure ()
  | some cause =>
    simp only [bindCause, declaration]
    cases program.tree.variableAt? cause with
    | none => exact kept_fail trivial
    | some declaration => exact heeding_write _ _ _ _

section

variable {program : Program World} {walk : Walk World}

/-- A part of an error block heeds a stop if it is a block, and if it is missing. -/
theorem heeding_processPart {part : Option NodeId}
    (blocks : ∀ node ∈ part, heeding.Kept (walk node)) : heeding.Kept (processPart walk part) := by
  cases part with
  | none => exact kept_pure ()
  | some node => exact kept_bind (blocks node rfl) fun _ => kept_pure ()

/-- A body that is protected heeds a stop as it does by itself. -/
theorem heeding_processProtected {body : NodeId} (block : heeding.Kept (walk body)) :
    heeding.Kept (processProtected walk body) := by
  apply heeding_protect
  apply kept_attempt block
  · intro flow
    exact kept_pure flow
  · intro fault _
    exact kept_bind (heeding_hand fault) fun _ => kept_pure _

/-- The parts of an error block are blocks, and each heeds a stop. -/
theorem heeding_processErrorBlock {parts : ErrorBlock}
    (blocks : ∀ body ∈ (Statement.errorBlock parts).bodies, heeding.Kept (walk body)) :
    heeding.Kept (program.processErrorBlock walk parts) := by
  obtain ⟨body, onError, onSuccess, cleanup⟩ := ErrorBlock.forall_bodies.mp blocks
  apply kept_bind (heeding_processProtected body)
  rintro ⟨flow, caught⟩
  cases caught with
  | some fault =>
    apply kept_bind (heeding_bindCause program fault parts.cause)
    intro _
    apply kept_bind (heeding_processPart onError)
    intro _
    exact kept_bind (heeding_processPart cleanup) fun _ => kept_pure _
  | none =>
    apply kept_bind (heeding_processPart onSuccess)
    intro _
    exact kept_bind (heeding_processPart cleanup) fun _ => kept_pure flow

/-- A statement that fails is handed on, and nothing more is invoked for it. -/
theorem brief_runStatement {node : NodeId} (brief : Brief (walk node)) :
    Brief (runStatement walk node) := by
  apply brief.attempt.bind
  intro ended
  cases ended with
  | ok flow => exact kept_pure flow
  | error fault =>
    simp only [settle]
    split
    · exact kept_pure _
    · exact kept_bind (heeding_handFrom node fault) fun _ => kept_pure _

/-- The pause hook may raise the signal where a declaration is entered, and then its initializer is
the last to be evaluated. -/
theorem brief_runDeclaration {node : NodeId} (brief : Brief (walk node)) :
    Brief (runDeclaration walk node) := by
  apply Brief.tracked node
  apply brief.attempt.bind
  intro ended
  cases ended with
  | ok flow => exact kept_pure false
  | error fault =>
    dsimp only
    split
    · exact kept_pure true
    · exact kept_bind (heeding_handFrom node fault) fun _ => kept_pure true

end

/-- How soon the parts of a stratified tree heed a stop. -/
def heedful (program : Program World) : program.Discipline where
  Expression := Brisk
  Statement := Brief
  Block := heeding.Kept
  expression_pure := Brisk.pure
  expression_fail := Brisk.fail
  expression_exhausted := Brisk.exhausted
  block_pure := kept_pure
  block_exhausted := kept_exhausted
  statement_of_expression brisk := brisk.brief
  statement_of_block := Brief.of_kept
  expression_bind brisk rest := brisk.bind rest
  statement_after brisk rest := brisk.bind_brief rest
  statement_bind brief rest := brief.bind rest
  block_bind := kept_bind
  checkpoint result _ brief := heeding_checkpoint (kept_pure result) brief
  tracked node _ _ := heeding_tracked node
  read _ := Brisk.of_silences fun before => Confines.refl before
  write := Brisk.write
  runStatement := brief_runStatement
  runDeclaration := brief_runDeclaration
  errorBlock _ _ blocks := Brief.of_kept (heeding_processErrorBlock blocks)
  call activation _ _ brisk kept :=
    (Checked.within activation (Checked.bind brisk fun _ =>
      Checked.checkpoint (Brief.of_kept kept) Flow.value)).brisk
  invoke construct arguments :=
    (Checked.checkpoint (brief_invoke construct arguments) id).brisk

/-- The walks of the nodes below heed a stop. -/
abbrev Heeded (program : Program World) (walk : Walk World) : Prop :=
  program.heedful.Graded walk

/-- In a stratified tree all walks heed a stop. -/
theorem heeded_process (program : Program World) (stratified : program.tree.Stratified)
    (fuel : Nat) : program.Heeded (program.process fuel) :=
  program.heedful.process stratified fuel

end Program

end Treewalk
