import Treewalk.Program

/-!
# Descending into a walk

Some nodes hand the flow of a node below them on as their own: a block that of the statement at
which it ends, a branch that of the part it chooses, a loop that of a round, an error block that of
its body. `Program.Descends` says from which machine a walk comes to such a node below, and
`Program.Reaches` follows these descents through a run. Both name the machines themselves, and not
only what can be seen of them, so whatever is reached is a state of the run and of no other one.

Expressions are left out. A function that is called returns to its call site, and no flow gets past
that.
-/

namespace Treewalk

variable {World : Type}

namespace Exec

variable {State Result Next : Type} {first : Exec State Result} {next : Result → Exec State Next}
  {before after : State}

/-- Sequencing goes on from where the first computation is done. -/
theorem bind_of_done {result : Result} (done : first before = .done result after) :
    (first >>= next) before = next result after := by
  rw [bind_apply, done]

/-- A sequence whose first computation is cut off is cut off there. -/
theorem bind_of_exhausted (cutOff : first before = .exhausted after) :
    (first >>= next) before = .exhausted after := by
  rw [bind_apply, cutOff]

end Exec

namespace Program

/-- From which machine a block walks a statement that it has come to. -/
inductive StatementWalks (program : Program World) (statement : NodeId) (machine : Machine World) :
    Machine World → Prop where
  /-- It has been put on the call stack, and no stop was requested there. -/
  | tracked {instruction : Instruction World}
      (found : program.tree.instruction statement = .ok instruction)
      (tracked : instruction.isTracked = true)
      (goes : (machine.enter statement).look.shouldStop = false) :
      StatementWalks program statement machine (machine.enter statement).look
  | untracked {instruction : Instruction World}
      (found : program.tree.instruction statement = .ok instruction)
      (untracked : instruction.isTracked = false) :
      StatementWalks program statement machine machine

/-- Which statements a block walks, and from which machines. -/
inductive BlockWalks (program : Program World) (walk : Walk World) (inner : NodeId)
    (start : Machine World) : List NodeId → Machine World → Prop where
  | here {rest : List NodeId} {machine : Machine World} (goes : machine.look.shouldStop = false)
      (walks : program.StatementWalks inner machine.look start) :
      BlockWalks program walk inner start (inner :: rest) machine
  | later {statement : NodeId} {rest : List NodeId} {machine after : Machine World} {flow : Flow}
      (goes : machine.look.shouldStop = false)
      (processed : program.processStatement walk statement machine.look = .done flow after)
      (resumes : flow.resumes = true) (later : BlockWalks program walk inner start rest after) :
      BlockWalks program walk inner start (statement :: rest) machine

/-- From which machines the body of a loop over items is walked. -/
inductive ItemsWalk (program : Program World) (walk : Walk World) (target : NodeId)
    (declaration : VariableDeclaration) (body : NodeId) (start : Machine World) :
    List Value → Machine World → Prop where
  | here {item : Value} {rest : List Value} {machine : Machine World}
      (goes : machine.look.shouldStop = false)
      (written : program.write .iteration target declaration item machine.look = .done () start) :
      ItemsWalk program walk target declaration body start (item :: rest) machine
  | later {item : Value} {rest : List Value} {machine ready after : Machine World} {flow : Flow}
      (goes : machine.look.shouldStop = false)
      (written : program.write .iteration target declaration item machine.look = .done () ready)
      (walked : walk body ready = .done flow after)
      (returns : flow.returns = false) (breaks : flow.breaks = false)
      (later : ItemsWalk program walk target declaration body start rest after) :
      ItemsWalk program walk target declaration body start (item :: rest) machine

/-- The walk of a node from a machine comes to a node below, at a place whose flow may become that
of the node, and walks it from `start`. -/
inductive Descends (program : Program World) (walk : Walk World) (node : NodeId)
    (before : Machine World) : NodeId → Machine World → Prop where
  | statement {statements : List NodeId} {inner : NodeId} {start : Machine World}
      (found : program.tree.instruction node = .ok (.statement (.block statements)))
      (walks : program.BlockWalks walk inner start statements before) :
      Descends program walk node before inner start
  | consequent {condition consequent : NodeId} {alternative : Option NodeId} {test : Value}
      {start : Machine World}
      (found : program.tree.instruction node =
        .ok (.statement (.branch condition consequent alternative)))
      (tested : evaluate walk condition before = .done test start)
      (holds : test.isTruthy = true) :
      Descends program walk node before consequent start
  | alternative {condition consequent otherwise : NodeId} {test : Value} {start : Machine World}
      (found : program.tree.instruction node =
        .ok (.statement (.branch condition consequent (some otherwise))))
      (tested : evaluate walk condition before = .done test start)
      (fails : test.isTruthy = false) :
      Descends program walk node before otherwise start
  | round {condition body : NodeId} {test : Value} {start : Machine World}
      (found : program.tree.instruction node = .ok (.statement (.loop condition body)))
      (goes : before.look.shouldStop = false)
      (tested : evaluate walk condition before.look = .done test start)
      (holds : test.isTruthy = true) :
      Descends program walk node before body start
  /-- A loop that goes on is walked again. -/
  | again {condition body : NodeId} {test : Value} {ready start : Machine World} {flow : Flow}
      (found : program.tree.instruction node = .ok (.statement (.loop condition body)))
      (goes : before.look.shouldStop = false)
      (tested : evaluate walk condition before.look = .done test ready)
      (holds : test.isTruthy = true) (walked : walk body ready = .done flow start)
      (returns : flow.returns = false) (breaks : flow.breaks = false) :
      Descends program walk node before node start
  | item {target iterable body : NodeId} {declaration : VariableDeclaration} {value : Value}
      {items : List Value} {ready start : Machine World}
      (found : program.tree.instruction node = .ok (.statement (.foreach target iterable body)))
      (declared : program.tree.variableAt? target = some declaration)
      (iterated : evaluate walk iterable before = .done value ready)
      (listed : iterationItems value = .ok items)
      (walks : program.ItemsWalk walk target declaration body start items ready) :
      Descends program walk node before body start
  | protectedBody {parts : ErrorBlock}
      (found : program.tree.instruction node = .ok (.statement (.errorBlock parts))) :
      Descends program walk node before parts.body before.openScope

/-- The walk of a node from a machine, with some fuel, reaches a node and walks it from `start` with
the fuel that is left. -/
inductive Reaches (program : Program World) : Nat → NodeId → Machine World →
    Nat → NodeId → Machine World → Prop where
  | here {fuel : Nat} {node : NodeId} {machine : Machine World} :
      Reaches program fuel node machine fuel node machine
  | down {fuel less : Nat} {node inner target : NodeId} {before between start : Machine World}
      (descends : program.Descends (program.process fuel) node before inner between)
      (further : Reaches program fuel inner between less target start) :
      Reaches program (fuel + 1) node before less target start

section CutOff

open Exec

/-! What is reached is walked in the run and nowhere else, so a walk that is cut off there cuts off
the run in the very state. -/

variable {program : Program World} {walk : Walk World} {node inner : NodeId}
  {before start cut : Machine World} {Result : Type}

/-- With no stop due a checkpoint is passed. -/
theorem checkpoint_goes {stop go : Exec (Machine World) Result}
    (goes : before.look.shouldStop = false) :
    (do
      let stops ← Machine.poll
      if stops then stop else go : Exec (Machine World) Result) before = go before.look := by
  rw [bind_of_done (Machine.poll_apply before), goes, if_neg Bool.false_ne_true]

/-- A block that walks a statement is cut off with it: routing the end of a statement needs an
end. -/
theorem StatementWalks.exhausted (walks : program.StatementWalks inner before start)
    (cutOff : walk inner start = .exhausted cut) :
    program.processStatement walk inner before = .exhausted cut := by
  have ran : runStatement walk inner start = .exhausted cut := by
    apply bind_of_exhausted
    rw [Exec.attempt, cutOff]
  cases walks with
  | tracked found tracked goes =>
    simp [processStatement, Exec.bind_apply, Exec.ofExcept, Exec.pure, found, tracked, Exec.update,
      Exec.ensuring, Machine.poll_apply, goes, ran]
  | untracked found untracked =>
    simp [processStatement, Exec.bind_apply, Exec.ofExcept, Exec.pure, found, untracked, ran]

/-- A block is cut off with the statement that it has come to. -/
theorem BlockWalks.exhausted {statements : List NodeId}
    (walks : program.BlockWalks walk inner start statements before)
    (cutOff : walk inner start = .exhausted cut) :
    program.processBlock walk statements before = .exhausted cut := by
  induction walks with
  | here goes walks =>
    rw [processBlock, checkpoint_goes goes]
    exact bind_of_exhausted (walks.exhausted cutOff)
  | later goes processed resumes _ inductionHypothesis =>
    rw [processBlock, checkpoint_goes goes, bind_of_done processed, if_pos resumes]
    exact inductionHypothesis

/-- A loop over items is cut off with the round that it has come to. -/
theorem ItemsWalk.exhausted {target body : NodeId} {declaration : VariableDeclaration}
    {items : List Value}
    (walks : program.ItemsWalk walk target declaration body start items before)
    (cutOff : walk body start = .exhausted cut) :
    program.processItems walk target declaration body items before = .exhausted cut := by
  induction walks with
  | here goes written =>
    rw [processItems, checkpoint_goes goes, bind_of_done written]
    exact bind_of_exhausted cutOff
  | later goes written walked returns breaks _ inductionHypothesis =>
    rw [processItems, checkpoint_goes goes, bind_of_done written, bind_of_done walked, returns,
      breaks]
    exact inductionHypothesis

/-- An error scope is opened around a body, and a body that is cut off does not get to its end. -/
theorem processProtected_exhausted {body : NodeId}
    (cutOff : walk body before.openScope = .exhausted cut) :
    processProtected walk body before = .exhausted cut := by
  have ran : runProtected walk body before.openScope = .exhausted cut := by
    apply bind_of_exhausted
    rw [Exec.attempt, cutOff]
  rw [processProtected, Machine.protect_apply, ran]

/-- A walk that comes to a node below is cut off with it. -/
theorem Descends.exhausted (descends : program.Descends walk node before inner start)
    (cutOff : walk inner start = .exhausted cut) :
    program.step walk node before = .exhausted cut := by
  cases descends with
  | statement found walks =>
    rw [step_statement found]
    exact walks.exhausted cutOff
  | consequent found tested holds =>
    simp [step_statement found, performStatement, Exec.bind_apply, tested, holds, cutOff]
  | alternative found tested fails =>
    simp [step_statement found, performStatement, Exec.bind_apply, tested, fails, cutOff]
  | round found goes tested holds =>
    rw [step_statement found]
    change processLoop walk node _ _ before = .exhausted cut
    rw [processLoop, checkpoint_goes goes, bind_of_done tested, if_pos holds]
    exact bind_of_exhausted cutOff
  | again found goes tested holds walked returns breaks =>
    rw [step_statement found]
    change processLoop walk node _ _ before = .exhausted cut
    rw [processLoop, checkpoint_goes goes, bind_of_done tested, if_pos holds, bind_of_done walked,
      returns, breaks]
    exact cutOff
  | @item _ _ _ _ value items _ _ found declared iterated listed walks =>
    -- Listing fails with a cause and the walk with a fault of it, so the items are looked up here.
    have settled : (iterationItems value).mapError Fault.ofCause = .ok items := by
      rw [listed]
      rfl
    simp [step_statement found, performStatement, Exec.bind_apply, declaration, Exec.ofOption,
      Exec.ofExcept, Exec.pure, declared, iterated, settled, walks.exhausted cutOff]
  | protectedBody found =>
    rw [step_statement found]
    exact bind_of_exhausted (processProtected_exhausted cutOff)

/-- Whatever a run reaches it walks: with too little fuel for that, it is cut off there. -/
theorem Reaches.exhausted {fuel less : Nat} {target : NodeId}
    (reaches : program.Reaches fuel node before less target start)
    (cutOff : program.process less target start = .exhausted cut) :
    program.process fuel node before = .exhausted cut := by
  induction reaches with
  | here => exact cutOff
  | down descends _ inductionHypothesis => exact descends.exhausted (inductionHypothesis cutOff)

end CutOff

end Program

end Treewalk
