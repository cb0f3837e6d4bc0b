import Treewalk.Proofs.Guards
import Treewalk.Proofs.ScopeCoverage

/-!
# Variables of a running scope

While a scope runs, its variables are bound: entering it bound them, and whatever runs inside leaves
the number of bindings as it was. Since the layout of the scope covers all that the evaluator can
get to without entering another scope, a declaration, a parameter, a loop variable and the cause of
an error block can always be written. Only an assignment can meet a variable without a binding,
because its target may belong to a scope that does not run.

`Machine.covering` is the guard of what runs in a scope, given that the variables of the scope are
bound. Its contract is kept edge by edge: the walk of a node keeps it if the walks of the nodes
below do, and a call changes over to the guard of the function that is called.
-/

namespace Treewalk

variable {World Result : Type}

/-- If this is a failed write, then an assignment of the tree made it, and its target had no
binding. -/
def Occurrence.Excused (tree : Tree World) : Occurrence → Prop
  | .unbound site cell store =>
    site = .assignment ∧ store.bindings cell = [] ∧
      ∃ node target operand,
        tree.instruction node = .ok (.expression (.assign target operand)) ∧
          cell = tree.cell target
  | _ => True

/-- What the machine notes by itself is never a failed write. -/
theorem Occurrence.excused_of_noted {tree : Tree World} {Sites : NodeId → Prop}
    {frames : List Frame} (occurrence : Occurrence) (noted : occurrence.NotedAmong Sites frames) :
    occurrence.Excused tree := by
  cases occurrence with
  | unbound => cases noted
  | _ => trivial

namespace Machine

/-- All variables of the layout have a binding. -/
def Live (layout : Layout) (machine : Machine World) : Prop :=
  ∀ cell, layout.binds cell → 0 < machine.store.depth cell

/-- Bindings may be overwritten as long as their number stays. -/
theorem Live.of_depth {layout : Layout} {before after : Machine World} (live : before.Live layout)
    (depth : ∀ cell, after.store.depth cell = before.store.depth cell) : after.Live layout := by
  intro cell binds
  rw [depth]
  exact live cell binds

/-- The variables of a layout are bound after binding them. -/
theorem live_bind (layout : Layout) {machine : Machine World} {store : Store}
    (bound : machine.store = store.bind layout) : machine.Live layout := by
  intro cell binds
  rw [bound, Store.depth_bind]
  have positive := Layout.multiplicity_pos.mpr binds
  omega

/-- What may be noted in a scope while its variables are bound. -/
def covering (tree : Tree World) (layout : Layout) : Guard World where
  Holds := Live layout
  Allowed := Occurrence.Excused tree
  stable live _ depth := live.of_depth depth
  allows _ := Occurrence.excused_of_noted

variable {tree : Tree World} {layout : Layout} {body : Exec (Machine World) Result}

/-- A variable of the scope can be written. -/
theorem covering_write (site : WriteSite) (name : String) {cell : Cell} (binds : layout.binds cell)
    (value : Value) : (covering tree layout).contract.Kept (write site name cell value) := by
  refine Guard.kept_write (fun machine live empty => ?_) name value
  have positive := live cell binds
  rw [Store.depth, empty] at positive
  exact absurd positive (Nat.lt_irrefl 0)

/-- An assignment is excused. -/
theorem covering_assign {node target operand : NodeId}
    (found : tree.instruction node = .ok (.expression (.assign target operand))) (name : String)
    (value : Value) :
    (covering tree layout).contract.Kept (write .assignment name (tree.cell target) value) := by
  refine Guard.kept_write (fun machine _ empty => ?_) name value
  exact ⟨rfl, empty, node, target, operand, found, rfl⟩

/-- What runs inside another scope keeps to the guard of that scope. -/
theorem covering_within (activation : Activation) {inner : Layout}
    (kept : (covering tree inner).contract.Kept body)
    (opens : ∀ before : Machine World, before.Live layout →
      (activation.framed before).Live inner) :
    (covering tree layout).contract.Kept (activation.within body) :=
  Guard.kept_within activation kept opens (fun _ _ => trivial) fun _ excused => excused

end Machine

namespace Program

open Contract Machine

variable {program : Program World} {walk : Walk World}

/-- A settled result writes nothing. -/
theorem covering_ofExcept {tree : Tree World} {layout : Layout} (settled : Except Fault Result) :
    (covering tree layout).contract.Kept (Exec.ofExcept settled) := by
  cases settled with
  | error fault => exact kept_fail trivial
  | ok result => exact kept_pure result

/-- What asks for a variable goes on only if the node declares one. -/
theorem covering_declaration {tree : Tree World} {layout : Layout} {node : NodeId}
    {next : VariableDeclaration → Exec (Machine World) Result}
    (kept : ∀ declaration, program.tree.variableAt? node = some declaration →
      (covering tree layout).contract.Kept (next declaration)) :
    (covering tree layout).contract.Kept (program.declaration node >>= next) := by
  simp only [Program.declaration]
  cases declared : program.tree.variableAt? node with
  | none => exact fun before => ⟨trivial, (covering tree layout).contract.refl before⟩
  | some declaration => exact fun before => kept declaration declared before

/-- The walk of a node keeps to the scope in which the node stands, whichever that is. -/
def Covers (program : Program World) (walk : Walk World) : Prop :=
  ∀ {layout : Layout} {Inside : NodeId → Prop}, program.tree.Region layout Inside →
    ∀ {node : NodeId}, Inside node → (covering program.tree layout).contract.Kept (walk node)

namespace Covers

variable (covers : program.Covers walk) {layout : Layout} {Inside : NodeId → Prop}
  (region : program.tree.Region layout Inside)

include covers region

/-- An expression is evaluated inside what is covered. -/
theorem evaluate {node : NodeId} (inside : Inside node) :
    (covering program.tree layout).contract.Kept (Program.evaluate walk node) :=
  kept_bind (covers region inside) fun flow => kept_pure flow.value

theorem evaluateAll {nodes : List NodeId} (inside : ∀ node ∈ nodes, Inside node) :
    (covering program.tree layout).contract.Kept (Program.evaluateAll walk nodes) := by
  induction nodes with
  | nil => exact kept_pure []
  | cons node rest inductionHypothesis =>
    obtain ⟨first, others⟩ := List.forall_mem_cons.mp inside
    refine kept_bind (covers.evaluate region first) fun value => ?_
    exact kept_bind (inductionHypothesis others) fun values => kept_pure (value :: values)

/-- The first value of a variable comes from its initializer, which is one of its children. -/
theorem initialValue {declaration : VariableDeclaration}
    (inside : ∀ node ∈ declaration.initializer, Inside node) :
    (covering program.tree layout).contract.Kept (program.initialValue walk declaration) := by
  simp only [Program.initialValue]
  split
  · exact kept_pure _
  · split
    · next initializer found => exact covers.evaluate region (inside initializer found)
    · exact kept_pure _

/-- The value of a parameter without an argument comes from its default, which is inside. -/
theorem parameterValue {declaration : VariableDeclaration}
    (inside : ∀ node ∈ declaration.initializer, Inside node) (values : List Value) :
    (covering program.tree layout).contract.Kept
      (Program.parameterValue walk declaration values) := by
  simp only [Program.parameterValue]
  split
  · exact kept_pure _
  · split
    · next initializer found => exact covers.evaluate region (inside initializer found)
    · exact kept_pure _

/-- A failure that is handed on writes nothing. -/
theorem runStatement {statement : NodeId} (inside : Inside statement) :
    (covering program.tree layout).contract.Kept (Program.runStatement walk statement) := by
  refine kept_attempt (covers region inside) (fun flow => kept_pure flow) fun fault _ => ?_
  simp only [settle]
  split
  · exact kept_pure _
  · exact kept_bind (Guard.kept_handFrom statement fault) fun _ => kept_pure _

/-- Entering and leaving a statement binds nothing. -/
theorem processStatement {statement : NodeId} (inside : Inside statement) :
    (covering program.tree layout).contract.Kept (program.processStatement walk statement) := by
  have run := covers.runStatement region inside
  refine kept_bind (covering_ofExcept _) fun instruction => ?_
  split
  · exact Guard.kept_tracked trivial (kept_checkpoint Guard.kept_poll (kept_pure _) run)
  · exact run

theorem processBlock {statements : List NodeId}
    (inside : ∀ statement ∈ statements, Inside statement) :
    (covering program.tree layout).contract.Kept (program.processBlock walk statements) := by
  induction statements with
  | nil => exact kept_pure _
  | cons statement rest inductionHypothesis =>
    obtain ⟨first, others⟩ := List.forall_mem_cons.mp inside
    refine kept_checkpoint Guard.kept_poll (kept_pure _) ?_
    refine kept_bind (covers.processStatement region first) fun flow => ?_
    split
    · exact inductionHypothesis others
    · exact kept_pure flow

/-- A loop comes back to itself, so it has to be inside as well. -/
theorem processLoop {loop condition body : NodeId} (loopInside : Inside loop)
    (conditionInside : Inside condition) (bodyInside : Inside body) :
    (covering program.tree layout).contract.Kept
      (Program.processLoop walk loop condition body) := by
  refine kept_checkpoint Guard.kept_poll (kept_pure _) ?_
  refine kept_bind (covers.evaluate region conditionInside) fun test => ?_
  split
  · refine kept_bind (covers region bodyInside) fun flow => ?_
    split
    · exact kept_pure flow
    · split
      · exact kept_pure _
      · exact covers region loopInside
  · exact kept_pure _

/-- The item is written to the target, which the layout has to bind. -/
theorem processItems {target body : NodeId} (binds : layout.binds (program.tree.cell target))
    (declaration : VariableDeclaration) (inside : Inside body) (items : List Value) :
    (covering program.tree layout).contract.Kept
      (program.processItems walk target declaration body items) := by
  induction items with
  | nil => exact kept_pure _
  | cons item rest inductionHypothesis =>
    refine kept_checkpoint Guard.kept_poll (kept_pure _) ?_
    refine kept_bind (covering_write .iteration _ binds item) fun _ => ?_
    refine kept_bind (covers region inside) fun flow => ?_
    split
    · exact kept_pure flow
    · split
      · exact kept_pure _
      · exact inductionHypothesis

theorem processPart {part : Option NodeId} (inside : ∀ node ∈ part, Inside node) :
    (covering program.tree layout).contract.Kept (Program.processPart walk part) := by
  cases part with
  | none => exact kept_pure ()
  | some node => exact kept_bind (covers region (inside node rfl)) fun _ => kept_pure ()

/-- An error scope binds nothing. -/
theorem processProtected {body : NodeId} (inside : Inside body) :
    (covering program.tree layout).contract.Kept (Program.processProtected walk body) := by
  refine Guard.kept_protect ?_
  refine kept_attempt (covers region inside) (fun flow => kept_pure flow) fun fault _ => ?_
  exact kept_bind (Guard.kept_hand fault) fun _ => kept_pure _

omit covers in
/-- A cause that is asked for is written to its declaration, which is one of the children. -/
theorem bindCause {cause : Option NodeId} (inside : ∀ node ∈ cause, Inside node)
    (fault : Fault) :
    (covering program.tree layout).contract.Kept (program.bindCause fault cause) := by
  cases cause with
  | none => exact kept_pure ()
  | some node =>
    refine covering_declaration fun declaration declared => ?_
    exact covering_write .caughtError _ (region.binds (inside node rfl) declared) _

/-- The parts of an error block are its children. -/
theorem processErrorBlock {parts : ErrorBlock}
    (inside : ∀ node ∈ (Statement.errorBlock parts).children, Inside node) :
    (covering program.tree layout).contract.Kept (program.processErrorBlock walk parts) := by
  simp only [Statement.children, List.forall_mem_cons, List.forall_mem_append,
    Option.mem_toList] at inside
  obtain ⟨body, ⟨⟨onError, onSuccess⟩, cleanup⟩, cause⟩ := inside
  refine kept_bind (covers.processProtected region body) ?_
  rintro ⟨flow, caught⟩
  cases caught with
  | some fault =>
    refine kept_bind (bindCause region cause fault) fun _ => ?_
    refine kept_bind (covers.processPart region onError) fun _ => ?_
    exact kept_bind (covers.processPart region cleanup) fun _ => kept_pure _
  | none =>
    refine kept_bind (covers.processPart region onSuccess) fun _ => ?_
    exact kept_bind (covers.processPart region cleanup) fun _ => kept_pure flow

/-- Parameters stand in the scope of their function, and so do their defaults. -/
theorem bindParameters {parameters : List NodeId}
    (inside : ∀ parameter ∈ parameters, Inside parameter) (values : List Value) :
    (covering program.tree layout).contract.Kept
      (program.bindParameters walk parameters values) := by
  induction parameters generalizing values with
  | nil => exact kept_pure ()
  | cons parameter rest inductionHypothesis =>
    obtain ⟨first, others⟩ := List.forall_mem_cons.mp inside
    refine covering_declaration fun declaration declared => ?_
    have initializer : ∀ node ∈ declaration.initializer, Inside node := by
      have children := region.children first (Tree.instruction_of_variableAt? declared) rfl
      simpa [Instruction.children, Statement.children] using children
    refine kept_bind (covers.parameterValue region initializer values) fun value => ?_
    refine kept_bind (covering_write .parameter _ (region.binds first declared) value) fun _ => ?_
    exact inductionHypothesis others values.tail

omit region in
/-- Wherever a function is called from, the inside of the call runs in the region of the
function. -/
theorem activate (built : program.tree.IsBuilt) (site : NodeId) {callee : NodeId}
    {function : FunctionDeclaration} (declared : program.tree.functionAt? callee = some function)
    (values : List Value) :
    (covering program.tree layout).contract.Kept
      (program.activate walk site callee function values) := by
  have called := built.functionRegion declared
  have children : ∀ node ∈ function.parameters ++ [function.body],
      program.tree.InScope callee node := by
    intro node listed
    refine .child ?_
    rw [Tree.children_of_instruction (Tree.instruction_of_functionAt? declared)]
    exact listed
  obtain ⟨parameters, body⟩ := List.forall_mem_append.mp children
  have inside : (covering program.tree (program.tree.functionLayout callee)).contract.Kept
      (program.runFunction walk function values) := by
    refine kept_bind (covers.bindParameters called parameters values) fun _ => ?_
    refine kept_bind (covers called (body _ List.mem_cons_self)) fun flow => ?_
    exact kept_checkpoint Guard.kept_poll (kept_fail trivial) (kept_pure _)
  refine covering_within _ inside fun before _ => ?_
  exact live_bind (program.tree.functionLayout callee) rfl

/-- The arguments are evaluated outside the scope that the call opens, the body inside it. -/
theorem callFunction (built : program.tree.IsBuilt) (site callee : NodeId)
    {arguments : List NodeId} (inside : ∀ argument ∈ arguments, Inside argument) :
    (covering program.tree layout).contract.Kept
      (program.callFunction walk site callee arguments) := by
  simp only [Program.callFunction]
  cases declared : program.tree.functionAt? callee with
  | none => exact fun before => ⟨trivial, (covering program.tree layout).contract.refl before⟩
  | some function =>
    have called : (covering program.tree layout).contract.Kept
        (Program.evaluateAll walk arguments >>= program.activate walk site callee function) :=
      kept_bind (covers.evaluateAll region inside) fun values =>
        covers.activate built site declared values
    exact fun before => called before

theorem callConstruct (construct : Construct World) {arguments : List NodeId}
    (inside : ∀ argument ∈ arguments, Inside argument) :
    (covering program.tree layout).contract.Kept
      (Program.callConstruct walk construct arguments) := by
  refine kept_bind (covers.evaluateAll region inside) fun values => ?_
  split
  · refine kept_bind (Guard.kept_invoke construct values) fun value => ?_
    exact kept_checkpoint Guard.kept_poll (kept_fail trivial) (kept_pure value)
  · exact kept_fail trivial

/-- Whatever a statement writes to is inside, because the tree declares it there. -/
theorem performStatement {node : NodeId} (inside : Inside node) {content : Statement}
    (found : program.tree.instruction node = .ok (.statement content)) :
    (covering program.tree layout).contract.Kept (program.performStatement walk node content) := by
  have children (plain : (Instruction.statement content : Instruction World).declaredFunction? =
      none) : ∀ child ∈ content.children, Inside child := region.children inside found plain
  cases content with
  | block statements => exact covers.processBlock region (children rfl)
  | declareVariable declaration =>
    have declared : program.tree.variableAt? node = some declaration :=
      Tree.variableAt?_of_instruction found
    have initializer : ∀ node ∈ declaration.initializer, Inside node := by
      simpa [Statement.children] using children rfl
    refine kept_bind (covers.initialValue region initializer) fun value => ?_
    have binds := region.binds inside declared
    exact kept_bind (covering_write .declaration _ binds value) fun _ => kept_pure _
  | declareFunction _ => exact kept_pure _
  | branch condition consequent alternative =>
    simp only [Statement.children, List.forall_mem_cons, Option.mem_toList] at children
    obtain ⟨conditionInside, consequentInside, alternativeInside⟩ := children rfl
    refine kept_bind (covers.evaluate region conditionInside) fun test => ?_
    split
    · exact covers region consequentInside
    · cases alternative with
      | none => exact kept_pure _
      | some otherwise => exact covers region (alternativeInside otherwise rfl)
  | loop condition body =>
    simp only [Statement.children, List.forall_mem_cons] at children
    obtain ⟨conditionInside, bodyInside, -⟩ := children rfl
    exact covers.processLoop region inside conditionInside bodyInside
  | foreach target iterable body =>
    simp only [Statement.children, List.forall_mem_cons] at children
    obtain ⟨targetInside, iterableInside, bodyInside, -⟩ := children rfl
    refine covering_declaration fun declaration declared => ?_
    refine kept_bind (covers.evaluate region iterableInside) fun value => ?_
    refine kept_bind (covering_ofExcept _) fun items => ?_
    exact covers.processItems region (region.binds targetInside declared) declaration bodyInside
      items
  | breakLoop => exact kept_pure _
  | continueLoop => exact kept_pure _
  | leave value =>
    cases value with
    | none => exact kept_pure _
    | some result =>
      have resultInside : Inside result := children rfl result (by simp [Statement.children])
      exact kept_bind (covers.evaluate region resultInside) fun value => kept_pure _
  | errorBlock parts => exact covers.processErrorBlock region (children rfl)

/-- Assignments write to a declaration inside, and calls open a scope that covers their function. -/
theorem performExpression (built : program.tree.IsBuilt) {node : NodeId} (inside : Inside node)
    {content : Expression World}
    (found : program.tree.instruction node = .ok (.expression content)) :
    (covering program.tree layout).contract.Kept (program.performExpression walk node content) := by
  have children : ∀ child ∈ content.children, Inside child := region.children inside found rfl
  cases content with
  | literal value => exact kept_pure value
  | list items => exact kept_bind (covers.evaluateAll region children) fun _ => kept_pure _
  | read target =>
    refine covering_declaration fun _ _ => ?_
    exact kept_state fun _ => kept_pure _
  | assign target operand =>
    have operandInside : Inside operand := children operand List.mem_cons_self
    refine kept_bind (covers.evaluate region operandInside) fun value => ?_
    refine covering_declaration fun declaration _ => ?_
    exact kept_bind (covering_assign found _ value) fun _ => kept_pure value
  | binary operator left right =>
    have leftInside : Inside left := children left List.mem_cons_self
    have rightInside : Inside right := children right (List.mem_cons_of_mem _ List.mem_cons_self)
    refine kept_bind (covers.evaluate region leftInside) fun leftValue => ?_
    refine kept_bind (covers.evaluate region rightInside) fun rightValue => ?_
    exact covering_ofExcept _
  | call callee arguments => exact covers.callFunction region built node callee children
  | construct construct arguments => exact covers.callConstruct region construct children

omit region in
/-- One more layer of the tree. -/
theorem step (built : program.tree.IsBuilt) : program.Covers (program.step walk) := by
  intro layout Inside region node inside
  cases found : program.tree.instruction node with
  | error fault =>
    simp only [Program.step, found]
    exact fun before => ⟨trivial, (covering program.tree layout).contract.refl before⟩
  | ok instruction =>
    cases instruction with
    | statement content =>
      rw [step_statement found]
      exact covers.performStatement region inside found
    | expression content =>
      rw [step_expression found]
      exact kept_bind (covers.performExpression region built inside found) fun _ => kept_pure _

/-- Declarations of a library are processed in a scope that binds what they declare. -/
theorem runDeclarations {statements : List NodeId}
    (inside : ∀ statement ∈ statements, Inside statement) :
    (covering program.tree layout).contract.Kept (program.runDeclarations walk statements) := by
  induction statements with
  | nil => exact kept_pure ()
  | cons statement rest inductionHypothesis =>
    obtain ⟨first, others⟩ := List.forall_mem_cons.mp inside
    have run : (covering program.tree layout).contract.Kept (runDeclaration walk statement) := by
      refine Guard.kept_tracked trivial ?_
      refine kept_attempt (covers region first) (fun _ => kept_pure false) fun fault _ => ?_
      dsimp only
      split
      · exact kept_pure true
      · exact kept_bind (Guard.kept_handFrom statement fault) fun _ => kept_pure true
    refine kept_checkpoint Guard.kept_poll (kept_pure ()) ?_
    refine kept_bind (covering_ofExcept _) fun instruction => ?_
    split
    · refine kept_bind run fun failed => ?_
      split
      · exact kept_pure ()
      · exact inductionHypothesis others
    · exact inductionHypothesis others

end Covers

/-- In a built tree every walk keeps to the scope in which its node stands. -/
theorem covers_process (built : program.tree.IsBuilt) (fuel : Nat) :
    program.Covers (program.process fuel) := by
  induction fuel with
  | zero => exact fun _ _ _ => kept_exhausted
  | succ fuel inductionHypothesis => exact inductionHypothesis.step built

end Program

end Treewalk
