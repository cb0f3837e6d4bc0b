import Treewalk.Script.Lifecycle

/-!
# Relations that the evaluator respects

The rules of the evaluator are put together from a few things that a computation can do on a
machine. `Rules` asks of a relation between computations that it is closed under them. Then every
rule respects it: `Rules.step` relates the walks of a node if the walks of its children are related,
and, where it comes to that, the next round of a loop and the inside of a call. `WalkRules` asks the
same around two given walks, but takes the statements of blocks and the bodies of error blocks as a
whole: what holds of these may depend on the node that stands on the call stack meanwhile.

A `Congruence` is also closed under running out of fuel and under calls, so `Congruence.process`
relates the walk of every node to itself. What is to be shown of all runs, of one run or of two side
by side, is thereby reduced to what the single operations of the machine do.

The rules also say which faults may be raised and which nodes may be put on the call stack. That a
fault was raised by a related computation is all that is known where it is caught.
-/

namespace Treewalk.Program

variable {World : Type}

/-- The computation first of all hands on a fault. -/
inductive Hands {Result : Type} (fault : Fault) : Exec (Machine World) Result → Prop where
  | hand (next : Unit → Exec (Machine World) Result) : Hands fault (Machine.hand fault >>= next)
  | handFrom (statement : NodeId) (next : Unit → Exec (Machine World) Result) :
      Hands fault (Machine.handFrom statement fault >>= next)

/-- A relation between computations that is closed under what the rules of the evaluator are put
together from, calls apart. -/
structure Rules (program : Program World) where
  Related : {Result : Type} →
    Exec (Machine World) Result → Exec (Machine World) Result → Prop
  /-- The faults that related computations may fail with. -/
  Raises : Fault → Prop
  /-- The nodes that related computations may put on the call stack. -/
  Tracks : NodeId → Prop := fun _ => True
  raises_ofCause {cause : Cause} (blameless : cause.isMisuse = false) : Raises (.ofCause cause)
  tracks_of_isTracked : ∀ {node : NodeId} {instruction : Instruction World},
    program.tree.instruction node = .ok instruction → instruction.isTracked = true →
      Tracks node := by
    intros
    trivial
  pure {Result : Type} (result : Result) :
    Related (Pure.pure result : Exec (Machine World) Result) (Pure.pure result)
  fail {Result : Type} {fault : Fault} (raised : Raises fault) :
    Related (Exec.fail fault : Exec (Machine World) Result) (Exec.fail fault)
  bind {Result Next : Type} {left right : Exec (Machine World) Result}
    {leftNext rightNext : Result → Exec (Machine World) Next} (first : Related left right)
    (next : ∀ result, Related (leftNext result) (rightNext result)) :
    Related (left >>= leftNext) (right >>= rightNext)
  /-- Catching a fault. Unless it is a stop request, it is handed on before anything else. -/
  attempt {Result Next : Type} {left right : Exec (Machine World) Result}
    {leftNext rightNext : Except Fault Result → Exec (Machine World) Next}
    (body : Related left right)
    (done : ∀ result, Related (leftNext (.ok result)) (rightNext (.ok result)))
    (failed : ∀ fault, Raises fault →
      Related (leftNext (.error fault)) (rightNext (.error fault)))
    (hands : ∀ fault, fault.isCancellation = false → Hands fault (leftNext (.error fault))) :
    Related (Exec.attempt left >>= leftNext) (Exec.attempt right >>= rightNext)
  /-- Asking whether a stop is due. -/
  checkpoint {Result : Type} {leftStop rightStop leftGo rightGo : Exec (Machine World) Result}
    (stop : Related leftStop rightStop) (go : Related leftGo rightGo) :
    Related
      (do
        let stops ← Machine.poll
        if stops then leftStop else leftGo)
      (do
        let stops ← Machine.poll
        if stops then rightStop else rightGo)
  /-- Reading the newest binding of a variable. -/
  read (cell : Cell) :
    Related
      (do
        let machine ← Exec.state
        return (machine.store.current? cell).getD .null)
      (do
        let machine ← Exec.state
        return (machine.store.current? cell).getD .null)
  write (site : WriteSite) (name : String) (cell : Cell) (value : Value) :
    Related (Machine.write site name cell value) (Machine.write site name cell value)
  invoke (construct : Construct World) (arguments : List Value) :
    Related (Machine.invoke construct arguments) (Machine.invoke construct arguments)
  hand {fault : Fault} (raised : Raises fault) :
    Related (Machine.hand fault) (Machine.hand fault)
  handFrom (statement : NodeId) {fault : Fault} (raised : Raises fault)
    (failure : fault.isCancellation = false) :
    Related (Machine.handFrom statement fault) (Machine.handFrom statement fault)
  /-- Running a body while a node stands on the call stack. -/
  tracked (node : NodeId) (tracks : Tracks node) {Result : Type}
    {left right : Exec (Machine World) Result} (body : Related left right) :
    Related
      (do
        Exec.update (Machine.enter node)
        Exec.ensuring left (Machine.leave node))
      (do
        Exec.update (Machine.enter node)
        Exec.ensuring right (Machine.leave node))
  protect {Result : Type} {left right : Exec (Machine World) Result} (body : Related left right) :
    Related (Machine.protect left) (Machine.protect right)

/-- A relation between computations that is closed under all that the evaluator of a program
does. -/
structure Congruence (program : Program World) extends Rules program where
  exhausted {Result : Type} :
    Related (Exec.exhausted : Exec (Machine World) Result) Exec.exhausted
  /-- Running a body in an invocation of a function. -/
  call (site callee : NodeId) (tracks : Tracks site) {function : FunctionDeclaration}
    (declared : program.tree.functionAt? callee = some function) {Result : Type}
    {left right : Exec (Machine World) Result} (body : Related left right) :
    Related
      (Activation.within
        { layout := program.tree.functionLayout callee, callSite := some site } left)
      (Activation.within
        { layout := program.tree.functionLayout callee, callSite := some site } right)

/-- A relation between computations that is closed under what the rules of the evaluator are put
together from, the statements of blocks and the bodies of error blocks taken as a whole. -/
structure WalkRules (program : Program World) (left right : Walk World) where
  Related : {Result : Type} →
    Exec (Machine World) Result → Exec (Machine World) Result → Prop
  pure {Result : Type} (result : Result) :
    Related (Pure.pure result : Exec (Machine World) Result) (Pure.pure result)
  failFor {Result : Type} {cause : Cause} (blameless : cause.isMisuse = false) :
    Related (Exec.failFor cause : Exec (Machine World) Result) (Exec.failFor cause)
  bind {Result Next : Type} {first second : Exec (Machine World) Result}
    {firstNext secondNext : Result → Exec (Machine World) Next} (earlier : Related first second)
    (next : ∀ result, Related (firstNext result) (secondNext result)) :
    Related (first >>= firstNext) (second >>= secondNext)
  /-- Asking whether a stop is due. -/
  checkpoint {Result : Type}
    {firstStop secondStop firstGo secondGo : Exec (Machine World) Result}
    (stop : Related firstStop secondStop) (go : Related firstGo secondGo) :
    Related
      (do
        let stops ← Machine.poll
        if stops then firstStop else firstGo)
      (do
        let stops ← Machine.poll
        if stops then secondStop else secondGo)
  /-- Reading the newest binding of a variable. -/
  read (cell : Cell) :
    Related
      (do
        let machine ← Exec.state
        return (machine.store.current? cell).getD .null)
      (do
        let machine ← Exec.state
        return (machine.store.current? cell).getD .null)
  write (site : WriteSite) (name : String) (cell : Cell) (value : Value) :
    Related (Machine.write site name cell value) (Machine.write site name cell value)
  invoke (construct : Construct World) (arguments : List Value) :
    Related (Machine.invoke construct arguments) (Machine.invoke construct arguments)
  /-- Processing a statement of a block. -/
  processStatement {statement : NodeId} (walk : Related (left statement) (right statement)) :
    Related (program.processStatement left statement) (program.processStatement right statement)
  /-- Processing the body of an error block in an error scope of its own. -/
  processProtected {body : NodeId} (walk : Related (left body) (right body)) :
    Related (Program.processProtected left body) (Program.processProtected right body)

/-- A node that cannot be found is nobody's misuse. -/
theorem fault_of_instruction_error {tree : Tree World} {node : NodeId} {fault : Fault}
    (missing : tree.instruction node = .error fault) :
    fault = .ofCause (.unknownNode node) := by
  simp only [Tree.instruction] at missing
  split at missing
  · cases missing
  · cases missing
    rfl

/-- A value that cannot be gone through is nobody's misuse. -/
theorem iterationItems_blameless {value : Value} {cause : Cause}
    (refused : iterationItems value = .error cause) : cause.isMisuse = false := by
  cases value <;> simp only [iterationItems] at refused <;> cases refused <;> rfl

end Treewalk.Program

namespace Treewalk.Operator

/-- Arithmetic is refused for an overflow or for its operands, never for misuse. -/
theorem applyInts_blameless {operator : Operator} {left right : Int64} {cause : Cause}
    (refused : operator.applyInts left right = .error cause) : cause.isMisuse = false := by
  cases operator <;> simp only [applyInts, exactly] at refused <;>
    first
    | cases refused
    | (split at refused <;> cases refused; rfl)

/-- Operands that an operator does not take are nobody's misuse. -/
theorem apply_blameless {operator : Operator} {left right : Value} {cause : Cause}
    (refused : operator.apply left right = .error cause) : cause.isMisuse = false := by
  have ordered : operator.applyOrdered left right = .error cause → cause.isMisuse = false := by
    intro refused
    simp only [applyOrdered] at refused
    split at refused
    · exact applyInts_blameless refused
    · split at refused <;> cases refused
      rfl
    · split at refused <;> cases refused
      rfl
    · split at refused <;> cases refused
      rfl
  cases operator <;> first | exact ordered refused | cases refused

end Treewalk.Operator

namespace Treewalk.Program.WalkRules

variable {World : Type} {program : Program World} {left right : Walk World}
  (rules : WalkRules program left right)

/-- What is settled for a cause that blames nobody is settled alike on both sides. -/
theorem ofCauses {Result : Type} {settled : Except Cause Result}
    (blameless : ∀ cause, settled = .error cause → cause.isMisuse = false) :
    rules.Related
      (Exec.ofExcept (settled.mapError Fault.ofCause) : Exec (Machine World) Result)
      (Exec.ofExcept (settled.mapError Fault.ofCause)) := by
  cases settled with
  | error cause => exact rules.failFor (blameless cause rfl)
  | ok result => exact rules.pure result

/-- Looking a node up and going on with what it does. -/
theorem instruction {Result : Type} (node : NodeId)
    {leftNext rightNext : Instruction World → Exec (Machine World) Result}
    (next : ∀ instruction, program.tree.instruction node = .ok instruction →
      rules.Related (leftNext instruction) (rightNext instruction)) :
    rules.Related (Exec.ofExcept (program.tree.instruction node) >>= leftNext)
      (Exec.ofExcept (program.tree.instruction node) >>= rightNext) := by
  cases found : program.tree.instruction node with
  | ok instruction => exact next instruction found
  | error fault =>
    rw [fault_of_instruction_error found]
    exact rules.failFor rfl

/-- Looking a declaration up and going on with it. -/
theorem declaration {Result : Type} (node : NodeId)
    {leftNext rightNext : VariableDeclaration → Exec (Machine World) Result}
    (next : ∀ declaration, program.tree.variableAt? node = some declaration →
      rules.Related (leftNext declaration) (rightNext declaration)) :
    rules.Related (program.declaration node >>= leftNext)
      (program.declaration node >>= rightNext) := by
  simp only [Program.declaration]
  cases found : program.tree.variableAt? node with
  | some declaration => exact next declaration found
  | none => exact rules.failFor rfl

/-- The walks of a node are related. -/
abbrev Walks (node : NodeId) : Prop :=
  rules.Related (left node) (right node)

/-- Collapsing a flow to its value happens after the walk. -/
theorem evaluate {node : NodeId} (walk : rules.Walks node) :
    rules.Related (Program.evaluate left node) (Program.evaluate right node) :=
  rules.bind walk fun flow => rules.pure flow.value

/-- Operands are evaluated from left to right, each by a walk. -/
theorem evaluateAll {nodes : List NodeId} (walks : ∀ node ∈ nodes, rules.Walks node) :
    rules.Related (Program.evaluateAll left nodes) (Program.evaluateAll right nodes) := by
  induction nodes with
  | nil => exact rules.pure []
  | cons node rest inductionHypothesis =>
    obtain ⟨first, others⟩ := List.forall_mem_cons.mp walks
    apply rules.bind (rules.evaluate first)
    intro value
    apply rules.bind (inductionHypothesis others)
    intro values
    exact rules.pure (value :: values)

/-- The argument of a program stands in both sides alike. -/
theorem initialValue {declaration : VariableDeclaration}
    (walks : ∀ node ∈ declaration.initializer, rules.Walks node) :
    rules.Related (program.initialValue left declaration)
      (program.initialValue right declaration) := by
  simp only [Program.initialValue]
  split
  · exact rules.pure _
  · split
    · next initializer found => exact rules.evaluate (walks initializer found)
    · exact rules.pure _

/-- Blocks look at the stop signal before each statement, and go on after a statement that resumes.
-/
theorem processBlock {statements : List NodeId}
    (walks : ∀ statement ∈ statements, rules.Walks statement) :
    rules.Related (program.processBlock left statements)
      (program.processBlock right statements) := by
  induction statements with
  | nil => exact rules.pure _
  | cons statement rest inductionHypothesis =>
    obtain ⟨first, others⟩ := List.forall_mem_cons.mp walks
    apply rules.checkpoint (rules.pure _)
    apply rules.bind (rules.processStatement first)
    intro flow
    split
    · exact inductionHypothesis others
    · exact rules.pure flow

/-- A loop is related to itself through the walk that it comes back to. -/
theorem processLoop {loop condition body : NodeId} (again : rules.Walks loop)
    (conditionWalk : rules.Walks condition) (bodyWalk : rules.Walks body) :
    rules.Related (Program.processLoop left loop condition body)
      (Program.processLoop right loop condition body) := by
  apply rules.checkpoint (rules.pure _)
  apply rules.bind (rules.evaluate conditionWalk)
  intro test
  split
  · apply rules.bind bodyWalk
    intro flow
    split
    · exact rules.pure flow
    · split
      · exact rules.pure _
      · exact again
  · exact rules.pure _

/-- The induction is on the items that are left. -/
theorem processItems (target : NodeId) (declaration : VariableDeclaration) {body : NodeId}
    (walk : rules.Walks body) (items : List Value) :
    rules.Related (program.processItems left target declaration body items)
      (program.processItems right target declaration body items) := by
  induction items with
  | nil => exact rules.pure _
  | cons item rest inductionHypothesis =>
    apply rules.checkpoint (rules.pure _)
    apply rules.bind (rules.write _ _ _ _)
    intro _
    apply rules.bind walk
    intro flow
    split
    · exact rules.pure flow
    · split
      · exact rules.pure _
      · exact inductionHypothesis

theorem processPart {part : Option NodeId} (walks : ∀ node ∈ part, rules.Walks node) :
    rules.Related (Program.processPart left part) (Program.processPart right part) := by
  cases part with
  | none => exact rules.pure ()
  | some part => exact rules.bind (walks part rfl) fun _ => rules.pure ()

/-- The caught fault is bound on both sides before any walk. -/
theorem bindCause (fault : Fault) (cause : Option NodeId) :
    rules.Related (program.bindCause fault cause) (program.bindCause fault cause) := by
  cases cause with
  | none => exact rules.pure ()
  | some cause => exact rules.declaration cause fun _ _ => rules.write _ _ _ _

/-- The body goes first, and what it caught decides between the parts. -/
theorem processErrorBlock {parts : ErrorBlock}
    (walks : ∀ node ∈ (Statement.errorBlock parts).children, rules.Walks node) :
    rules.Related (program.processErrorBlock left parts)
      (program.processErrorBlock right parts) := by
  have cleanup : ∀ node ∈ parts.cleanup, rules.Walks node := by
    intro node member
    exact walks node (by simp [Statement.children, Option.mem_def.mp member])
  apply rules.bind (rules.processProtected (walks parts.body List.mem_cons_self))
  rintro ⟨flow, caught⟩
  cases caught with
  | some fault =>
    have onError : ∀ node ∈ parts.onError, rules.Walks node := by
      intro node member
      exact walks node (by simp [Statement.children, Option.mem_def.mp member])
    apply rules.bind (rules.bindCause fault parts.cause)
    intro _
    apply rules.bind (rules.processPart onError)
    intro _
    exact rules.bind (rules.processPart cleanup) fun _ => rules.pure _
  | none =>
    have onSuccess : ∀ node ∈ parts.onSuccess, rules.Walks node := by
      intro node member
      exact walks node (by simp [Statement.children, Option.mem_def.mp member])
    apply rules.bind (rules.processPart onSuccess)
    intro _
    exact rules.bind (rules.processPart cleanup) fun _ => rules.pure _

/-- Arguments that are given need no walk. -/
theorem parameterValue {declaration : VariableDeclaration}
    (walks : ∀ node ∈ declaration.initializer, rules.Walks node)
    (values : List Value) :
    rules.Related (Program.parameterValue left declaration values)
      (Program.parameterValue right declaration values) := by
  simp only [Program.parameterValue]
  split
  · exact rules.pure _
  · split
    · next initializer found => exact rules.evaluate (walks initializer found)
    · exact rules.pure _

/-- Defaults are evaluated in the scope of the call, after the parameters before them were bound. -/
theorem bindParameters {parameters : List NodeId}
    (walks : ∀ parameter ∈ parameters, ∀ declaration,
      program.tree.variableAt? parameter = some declaration →
        ∀ node ∈ declaration.initializer, rules.Walks node)
    (values : List Value) :
    rules.Related (program.bindParameters left parameters values)
      (program.bindParameters right parameters values) := by
  induction parameters generalizing values with
  | nil => exact rules.pure ()
  | cons parameter rest inductionHypothesis =>
    obtain ⟨first, others⟩ := List.forall_mem_cons.mp walks
    apply rules.declaration
    intro declaration found
    apply rules.bind (rules.parameterValue (first declaration found) values)
    intro value
    exact rules.bind (rules.write _ _ _ _) fun _ => inductionHypothesis others values.tail

/-- The inside of a call walks the defaults of the parameters and the body. -/
theorem runFunction {function : FunctionDeclaration}
    (defaults : ∀ parameter ∈ function.parameters, ∀ declaration,
      program.tree.variableAt? parameter = some declaration →
        ∀ node ∈ declaration.initializer, rules.Walks node)
    (body : rules.Walks function.body) (values : List Value) :
    rules.Related (program.runFunction left function values)
      (program.runFunction right function values) := by
  apply rules.bind (rules.bindParameters defaults values)
  intro _
  apply rules.bind body
  intro flow
  exact rules.checkpoint (rules.failFor rfl) (rules.pure flow.value)

/-- The calls that a node makes are related. -/
def Calls (site callee : NodeId) : Prop :=
  ∀ function, program.tree.functionAt? callee = some function → ∀ values,
    rules.Related (program.activate left site callee function values)
      (program.activate right site callee function values)

/-- The call itself is assumed to be related; all that is left are its arguments. -/
theorem callFunction {site callee : NodeId} {arguments : List NodeId}
    (walks : ∀ node ∈ arguments, rules.Walks node)
    (calls : rules.Calls site callee) :
    rules.Related (program.callFunction left site callee arguments)
      (program.callFunction right site callee arguments) := by
  simp only [Program.callFunction]
  cases declared : program.tree.functionAt? callee with
  | none => exact rules.failFor rfl
  | some function =>
    apply rules.bind (rules.evaluateAll walks)
    intro values
    exact calls function declared values

/-- A construct is invoked on both sides with the same arguments. -/
theorem callConstruct (construct : Construct World) {arguments : List NodeId}
    (walks : ∀ node ∈ arguments, rules.Walks node) :
    rules.Related (Program.callConstruct left construct arguments)
      (Program.callConstruct right construct arguments) := by
  apply rules.bind (rules.evaluateAll walks)
  intro values
  split
  · apply rules.bind (rules.invoke construct values)
    intro value
    exact rules.checkpoint (rules.failFor rfl) (rules.pure value)
  · exact rules.failFor rfl

/-- A statement is related if the walks of its children are and, for a loop, its own. -/
theorem performStatement (node : NodeId) {content : Statement}
    (walks : ∀ child ∈ content.children, rules.Walks child)
    (again : ∀ condition body, content = .loop condition body → rules.Walks node) :
    rules.Related (program.performStatement left node content)
      (program.performStatement right node content) := by
  cases content with
  | block statements => exact rules.processBlock walks
  | declareVariable declaration =>
    have defaults : ∀ node ∈ declaration.initializer, rules.Walks node := by
      intro node member
      exact walks node (by simpa [Statement.children] using member)
    apply rules.bind (rules.initialValue defaults)
    intro value
    exact rules.bind (rules.write _ _ _ _) fun _ => rules.pure _
  | declareFunction _ => exact rules.pure _
  | branch condition consequent alternative =>
    apply rules.bind (rules.evaluate (walks condition (by simp [Statement.children])))
    intro test
    split
    · exact walks consequent (by simp [Statement.children])
    · cases alternative with
      | none => exact rules.pure _
      | some otherwise => exact walks otherwise (by simp [Statement.children])
  | loop condition body =>
    exact rules.processLoop (again condition body rfl)
      (walks condition (by simp [Statement.children])) (walks body (by simp [Statement.children]))
  | foreach target iterable body =>
    apply rules.declaration
    intro declaration _
    apply rules.bind (rules.evaluate (walks iterable (by simp [Statement.children])))
    intro value
    apply rules.bind (rules.ofCauses fun _ => iterationItems_blameless)
    intro items
    exact rules.processItems target declaration (walks body (by simp [Statement.children])) items
  | breakLoop => exact rules.pure _
  | continueLoop => exact rules.pure _
  | leave value =>
    cases value with
    | none => exact rules.pure _
    | some result =>
      exact rules.bind (rules.evaluate (walks result (by simp [Statement.children])))
        fun _ => rules.pure _
  | errorBlock parts => exact rules.processErrorBlock walks

/-- An expression is related if the walks of its children are and, for a call, the call. -/
theorem performExpression (node : NodeId) {content : Expression World}
    (walks : ∀ child ∈ content.children, rules.Walks child)
    (calls : ∀ callee arguments, content = .call callee arguments →
      rules.Calls node callee) :
    rules.Related (program.performExpression left node content)
      (program.performExpression right node content) := by
  cases content with
  | literal value => exact rules.pure value
  | list items => exact rules.bind (rules.evaluateAll walks) fun _ => rules.pure _
  | read target => exact rules.declaration target fun _ _ => rules.read _
  | assign target operand =>
    apply rules.bind (rules.evaluate (walks operand List.mem_cons_self))
    intro value
    apply rules.declaration
    intro declaration _
    exact rules.bind (rules.write _ _ _ _) fun _ => rules.pure value
  | binary operator leftOperand rightOperand =>
    obtain ⟨first, second⟩ := List.forall_mem_cons.mp walks
    apply rules.bind (rules.evaluate first)
    intro leftValue
    apply rules.bind (rules.evaluate (second rightOperand List.mem_cons_self))
    intro rightValue
    exact rules.ofCauses fun _ => Operator.apply_blameless
  | call callee arguments => exact rules.callFunction walks (calls callee arguments rfl)
  | construct construct arguments => exact rules.callConstruct construct walks

/-- One more layer of the tree: the walks of a node are related if those of its children are, and
with them, where the node is a loop or a call, the next round and the call. -/
theorem step (node : NodeId)
    (walks : ∀ child ∈ program.tree.children node, rules.Walks child)
    (again : ∀ condition body,
      program.tree.instruction node = .ok (.statement (.loop condition body)) →
        rules.Walks node)
    (calls : ∀ callee arguments,
      program.tree.instruction node = .ok (.expression (.call callee arguments)) →
        rules.Calls node callee) :
    rules.Related (program.step left node) (program.step right node) := by
  apply rules.instruction
  intro instruction found
  rw [Tree.children_of_instruction found] at walks
  cases instruction with
  | statement content =>
    apply rules.performStatement node walks
    rintro condition body rfl
    exact again condition body found
  | expression content =>
    refine rules.bind (rules.performExpression node walks ?_) fun _ => rules.pure _
    rintro callee arguments rfl
    exact calls callee arguments found

/-- Running the declarations of a library is related if each of them is. -/
theorem runDeclarations
    (runs : ∀ statement, rules.Related (Program.runDeclaration left statement)
      (Program.runDeclaration right statement)) (statements : List NodeId) :
    rules.Related (program.runDeclarations left statements)
      (program.runDeclarations right statements) := by
  induction statements with
  | nil => exact rules.pure ()
  | cons statement rest inductionHypothesis =>
    apply rules.checkpoint (rules.pure ())
    apply rules.instruction
    intro instruction _
    split
    · apply rules.bind (runs statement)
      intro failed
      split
      · exact rules.pure ()
      · exact inductionHypothesis
    · exact inductionHypothesis

end Treewalk.Program.WalkRules

namespace Treewalk.Program.Rules

variable {World : Type} {program : Program World} (rules : Rules program)

/-- The walks of a node are related. -/
abbrev Walks (left right : Walk World) (node : NodeId) : Prop :=
  rules.Related (left node) (right node)

variable {left right : Walk World}

/-- A failure is handed on from the same statement on both sides. -/
theorem runStatement {statement : NodeId} (walk : rules.Walks left right statement) :
    rules.Related (Program.runStatement left statement)
      (Program.runStatement right statement) := by
  apply rules.attempt walk
  · intro flow
    exact rules.pure flow
  · intro fault raised
    dsimp only [settle]
    split
    · exact rules.pure _
    · next failure =>
      apply rules.bind (rules.handFrom statement raised (by simpa using failure))
      intro _
      exact rules.pure _
  · intro fault failure
    simp only [settle, failure]
    exact .handFrom statement _

/-- Function declarations are not put on the call stack on either side. -/
theorem processStatement {statement : NodeId} (walk : rules.Walks left right statement) :
    rules.Related (program.processStatement left statement)
      (program.processStatement right statement) := by
  simp only [Program.processStatement]
  cases found : program.tree.instruction statement with
  | error fault =>
    rw [fault_of_instruction_error found]
    exact rules.fail (rules.raises_ofCause rfl)
  | ok instruction =>
    change rules.Related
      (if instruction.isTracked then _ else Program.runStatement left statement)
      (if instruction.isTracked then _ else Program.runStatement right statement)
    split
    · next tracked =>
      apply rules.tracked statement (rules.tracks_of_isTracked found tracked)
      exact rules.checkpoint (rules.pure _) (rules.runStatement walk)
    · exact rules.runStatement walk

/-- A body that is protected on one side is so on the other. -/
theorem processProtected {body : NodeId} (walk : rules.Walks left right body) :
    rules.Related (Program.processProtected left body)
      (Program.processProtected right body) := by
  apply rules.protect
  apply rules.attempt walk
  · intro flow
    exact rules.pure flow
  · intro fault raised
    exact rules.bind (rules.hand raised) fun _ => rules.pure _
  · intro fault _
    exact .hand _

/-- Declarations of a library are entered, so their nodes have to be allowed for. -/
theorem runDeclaration {statement : NodeId} (tracks : rules.Tracks statement)
    (walk : rules.Walks left right statement) :
    rules.Related (Program.runDeclaration left statement)
      (Program.runDeclaration right statement) := by
  apply rules.tracked statement tracks
  apply rules.attempt walk
  · intro _
    exact rules.pure false
  · intro fault raised
    dsimp only
    split
    · exact rules.pure true
    · next failure =>
      exact rules.bind (rules.handFrom statement raised (by simpa using failure))
        fun _ => rules.pure true
  · intro fault failure
    simp only [failure]
    exact .handFrom statement _

/-- The rules around two walks. -/
def around (left right : Walk World) : WalkRules program left right where
  Related := rules.Related
  pure := rules.pure
  failFor blameless := rules.fail (rules.raises_ofCause blameless)
  bind := rules.bind
  checkpoint := rules.checkpoint
  read := rules.read
  write := rules.write
  invoke := rules.invoke
  processStatement := rules.processStatement
  processProtected := rules.processProtected

theorem evaluate {node : NodeId} (walk : rules.Walks left right node) :
    rules.Related (Program.evaluate left node) (Program.evaluate right node) :=
  (rules.around left right).evaluate walk

theorem processBlock {statements : List NodeId}
    (walks : ∀ statement ∈ statements, rules.Walks left right statement) :
    rules.Related (program.processBlock left statements)
      (program.processBlock right statements) :=
  (rules.around left right).processBlock walks

/-- The inside of a call walks the defaults of the parameters and the body. -/
theorem runFunction {function : FunctionDeclaration}
    (defaults : ∀ parameter ∈ function.parameters, ∀ declaration,
      program.tree.variableAt? parameter = some declaration →
        ∀ node ∈ declaration.initializer, rules.Walks left right node)
    (body : rules.Walks left right function.body) (values : List Value) :
    rules.Related (program.runFunction left function values)
      (program.runFunction right function values) :=
  (rules.around left right).runFunction defaults body values

/-- The calls that a node makes are related. -/
abbrev Calls (left right : Walk World) (site callee : NodeId) : Prop :=
  (rules.around left right).Calls site callee

/-- One more layer of the tree: the walks of a node are related if those of its children are, and
with them, where the node is a loop or a call, the next round and the call. -/
theorem step (node : NodeId)
    (walks : ∀ child ∈ program.tree.children node, rules.Walks left right child)
    (again : ∀ condition body,
      program.tree.instruction node = .ok (.statement (.loop condition body)) →
        rules.Walks left right node)
    (calls : ∀ callee arguments,
      program.tree.instruction node = .ok (.expression (.call callee arguments)) →
        rules.Calls left right node callee) :
    rules.Related (program.step left node) (program.step right node) :=
  (rules.around left right).step node walks again calls

/-- Running the declarations of a library is related to itself. -/
theorem runDeclarations (tracks : ∀ node, rules.Tracks node)
    (walks : ∀ node, rules.Walks left right node) (statements : List NodeId) :
    rules.Related (program.runDeclarations left statements)
      (program.runDeclarations right statements) :=
  (rules.around left right).runDeclarations
    (fun statement => rules.runDeclaration (tracks statement) (walks statement)) statements

end Treewalk.Program.Rules

namespace Treewalk.Program.Congruence

variable {World : Type} {program : Program World} (congruence : Congruence program)

section

variable {left right : Walk World} (walks : ∀ node, congruence.Walks left right node)

include walks

/-- The inside of a call. -/
theorem runFunction (function : FunctionDeclaration) (values : List Value) :
    congruence.Related (program.runFunction left function values)
      (program.runFunction right function values) :=
  congruence.toRules.runFunction (fun _ _ _ _ node _ => walks node) (walks function.body) values

/-- A call from a site that is allowed for is related. -/
theorem activate {site callee : NodeId} (tracks : congruence.Tracks site) :
    congruence.Calls left right site callee :=
  fun function declared values =>
    congruence.call site callee tracks declared (congruence.runFunction walks function values)

/-- One more layer of the tree. -/
theorem step (node : NodeId) :
    congruence.Related (program.step left node) (program.step right node) := by
  apply congruence.toRules.step node
  · intro child _
    exact walks child
  · intro _ _ _
    exact walks node
  · intro callee arguments found
    exact congruence.activate walks (congruence.tracks_of_isTracked found rfl)

end

/-- The walk of every node is related to itself. -/
theorem process (fuel : Nat) (node : NodeId) :
    congruence.Related (program.process fuel node) (program.process fuel node) := by
  induction fuel generalizing node with
  | zero => exact congruence.exhausted
  | succ fuel inductionHypothesis => exact congruence.step inductionHypothesis node

/-- Walking a node for its value is related to itself. -/
theorem eval (fuel : Nat) (node : NodeId) :
    congruence.Related (program.eval fuel node) (program.eval fuel node) :=
  congruence.evaluate (congruence.process fuel node)

/-- Processing statements as a block is related to itself. -/
theorem processStatements (fuel : Nat) (statements : List NodeId) :
    congruence.Related (program.processStatements fuel statements)
      (program.processStatements fuel statements) :=
  congruence.processBlock fun statement _ => congruence.process fuel statement

end Treewalk.Program.Congruence
