import Treewalk.Proofs.Descents
import Treewalk.Proofs.RecordedFailures
import Treewalk.Proofs.ScriptCourses
import Treewalk.Proofs.StratifiedTrees

/-!
# Prompt cancellation

A stop request ends the run of a script whose trees are stratified, and soon. After the stop signal
went up, and as long as nobody lowers it, at most one more construct is invoked, and none if a
construct or the policy raised it. The run does not end in the cancellation signal, and it is not
done with a value, with one exception: a value that was returned while the signal was still down is
kept. This is so in an error block whose body has returned before the signal went up in the part for
success or in the final part, because the flow of those parts is dropped.

The first half is that scripts heed a stop. The second half follows the flow down the run: what
looks at the signal before it goes on answers without a value from any machine, other statements do
so from a machine with the signal down. `Program.ReturnsBeforeStop` is the exception. Its error
block is one that the run reaches, and it is walked from the machine that the run brings it.
-/

namespace Treewalk

variable {World Result : Type}

/-- If this is the end and the signal is up there, the flow carries no value, or it is excused. -/
def Outcome.Valueless (Excused : Flow → Prop) (outcome : Outcome (Machine World) Flow) : Prop :=
  ∀ flow after, outcome = .done flow after → after.stopped = true →
    flow.value? = none ∨ Excused flow

namespace Outcome.Valueless

open Machine

variable {Excused Wider : Flow → Prop} {before : Machine World}

/-- A flow without a value needs no excuse. -/
theorem of_none {flow : Flow} (none : flow.value? = none) (machine : Machine World) :
    ((pure flow : Exec (Machine World) Flow) machine).Valueless Excused := by
  rintro _ _ ⟨⟩ -
  exact .inl none

theorem fail (fault : Fault) (machine : Machine World) :
    ((Exec.fail fault : Exec (Machine World) Flow) machine).Valueless Excused := by
  rintro _ _ ⟨⟩

/-- What is excused may be excused more widely. -/
theorem mono {outcome : Outcome (Machine World) Flow} (valueless : outcome.Valueless Excused)
    (excuses : ∀ flow, Excused flow → Wider flow) : outcome.Valueless Wider :=
  fun flow after done raised => (valueless flow after done raised).imp_right (excuses flow)

/-- The end of a sequence is that of its rest. -/
theorem bind {first : Exec (Machine World) Result} {next : Result → Exec (Machine World) Flow}
    (continues : ∀ result between, first before = .done result between →
      (next result between).Valueless Excused) :
    ((first >>= next) before).Valueless Excused := by
  intro flow after done
  obtain ⟨result, between, ended, continued⟩ := Exec.exists_of_bind_done done
  exact continues result between ended flow after continued

/-- Where the flow is passed on, what excuses it below excuses it here. -/
theorem bind_flow {first : Exec (Machine World) Flow} {next : Flow → Exec (Machine World) Flow}
    (valueless : (first before).Valueless Excused)
    (continues : ∀ flow between, first before = .done flow between →
      next flow = pure flow ∨ (next flow between).Valueless Excused) :
    ((first >>= next) before).Valueless Excused := by
  apply bind
  intro flow between ended
  rcases continues flow between ended with passed | onward
  · rw [passed]
    rintro _ _ ⟨⟩
    exact valueless flow between ended
  · exact onward

/-- A look at the signal decides how to go on. -/
theorem checkpoint {stop go : Exec (Machine World) Flow}
    (stops : (stop before.look).Valueless Excused)
    (goes : before.look.shouldStop = false → (go before.look).Valueless Excused) :
    ((do
      let stops ← poll
      if stops then stop else go : Exec (Machine World) Flow) before).Valueless Excused := by
  rw [Exec.bind_apply, poll_apply]
  dsimp only
  split
  · exact stops
  · next going => exact goes (Bool.eq_false_iff.mpr going)

/-- What cleans up after a body must leave the signal alone. -/
theorem ensuring {body : Exec (Machine World) Flow} {cleanup : Machine World → Machine World}
    (silent : ∀ after, (cleanup after).stopped = after.stopped)
    (valueless : (body before).Valueless Excused) :
    (Exec.ensuring body cleanup before).Valueless Excused := by
  intro flow after done raised
  obtain ⟨inside, ended, rfl⟩ := Exec.exists_of_ensuring_done done
  exact valueless flow inside ended ((silent inside).symm.trans raised)

/-- With the signal down an expression is done with the signal down. -/
theorem of_brisk {body : Exec (Machine World) Flow} (brisk : Brisk body)
    (lowered : before.stopped = false) : (body before).Valueless Excused := by
  intro flow after done raised
  exact absurd (lowered.symm.trans ((brisk.steady done).unraised raised)) Bool.false_ne_true

end Outcome.Valueless

namespace Program

open Contract Machine Outcome

variable {program : Program World} {flow : Flow} {before after : Machine World}

/-- The walk of a node from a machine reaches an error block. The body of the error block returned
with the signal down, and only then, while the rest of the error block ran, did the signal go up. -/
inductive ReturnsBeforeStop (program : Program World) (fuel : Nat) (node : NodeId)
    (before : Machine World) (flow : Flow) : Prop where
  | intro {less : Nat} {inner : NodeId} {parts : ErrorBlock} {start ended final : Machine World}
      (reached : program.Reaches fuel node before (less + 1) inner start)
      (errorBlock : program.tree.instruction inner = .ok (.statement (.errorBlock parts)))
      (returned : flow.returns = true)
      (body : processProtected (program.process less) parts.body start = .done (flow, none) ended)
      (lowered : ended.stopped = false)
      (rest : (do
        processPart (program.process less) parts.onSuccess
        processPart (program.process less) parts.cleanup : Exec (Machine World) Unit) ended =
          .done () final)
      (raised : final.stopped = true)

/-- What was returned before the stop below was so here. -/
theorem ReturnsBeforeStop.up {fuel : Nat} {node inner : NodeId} {start : Machine World}
    (descends : program.Descends (program.process fuel) node before inner start) (flow : Flow)
    (returns : program.ReturnsBeforeStop fuel inner start flow) :
    program.ReturnsBeforeStop (fuel + 1) node before flow := by
  obtain ⟨reached, errorBlock, returned, body, lowered, rest, raised⟩ := returns
  exact ⟨.down descends reached, errorBlock, returned, body, lowered, rest, raised⟩

/-- A block carries a value only by returning it. -/
theorem returns_of_processBlock {walk : Walk World} {statements : List NodeId}
    (done : program.processBlock walk statements before = .done flow after) :
    flow.value? = none ∨ flow.returns = true := by
  induction statements generalizing before with
  | nil =>
    cases done
    exact Or.inl rfl
  | cons statement rest inductionHypothesis =>
    rw [processBlock, Exec.bind_apply, poll_apply] at done
    dsimp only at done
    split at done
    · cases done
      exact Or.inl rfl
    · obtain ⟨passed, between, -, continued⟩ := Exec.exists_of_bind_done done
      split at continued
      · exact inductionHypothesis continued
      · next unresumed =>
        cases continued
        cases flow with
        | resume value => exact absurd rfl unresumed
        | returning value => exact Or.inr rfl
        | breaking => exact Or.inl rfl
        | continuing => exact Or.inl rfl

/-- How the walks of the nodes below answer. -/
structure Answered (program : Program World) (fuel : Nat) : Prop where
  lowered (node : NodeId) {machine : Machine World} (lowered : machine.stopped = false) :
    (program.process fuel node machine).Valueless (program.ReturnsBeforeStop fuel node machine)
  block {node : NodeId} (block : program.tree.isBlock node = true) (machine : Machine World) :
    (program.process fuel node machine).Valueless (program.ReturnsBeforeStop fuel node machine)
  loop {node condition body : NodeId}
    (loop : program.tree.instruction node = .ok (.statement (.loop condition body)))
    (machine : Machine World) :
    (program.process fuel node machine).Valueless (program.ReturnsBeforeStop fuel node machine)
  returns {node : NodeId} (block : program.tree.isBlock node = true)
    {before after : Machine World} {flow : Flow}
    (done : program.process fuel node before = .done flow after) :
    flow.value? = none ∨ flow.returns = true

namespace Answered

variable {fuel : Nat} {Excused : Flow → Prop} (answered : program.Answered fuel)

include answered

/-- A failure that is absorbed resumes without a value, and a stop returns without one. -/
theorem runStatement (statement : NodeId) {machine : Machine World}
    (lowered : machine.stopped = false) :
    (Program.runStatement (program.process fuel) statement machine).Valueless
      (program.ReturnsBeforeStop fuel statement machine) := by
  apply Valueless.bind
  intro ended between attempted
  simp only [Exec.attempt] at attempted
  split at attempted <;> cases attempted
  · next flow walked =>
    rintro _ _ ⟨⟩
    exact answered.lowered statement lowered flow between walked
  · simp only [settle]
    split
    · exact .of_none rfl _
    · exact .bind fun _ machine _ => .of_none rfl machine

/-- A statement that is put on the call stack is walked only if no stop is due there, so with the
signal down. -/
theorem processStatement (statement : NodeId) {machine : Machine World}
    (lowered : machine.stopped = false)
    (excuses : ∀ start, program.StatementWalks statement machine start →
      ∀ flow, program.ReturnsBeforeStop fuel statement start flow → Excused flow) :
    (program.processStatement (program.process fuel) statement machine).Valueless Excused := by
  apply Valueless.bind
  intro instruction between ended
  obtain ⟨found, rfl⟩ := Exec.eq_of_ofExcept_done ended
  split
  · next tracked =>
    apply Valueless.bind
    rintro _ _ ⟨⟩
    apply Valueless.ensuring fun after => Confines.stopped_eq (Confines.leave statement after)
    apply Valueless.checkpoint (.of_none rfl _)
    intro goes
    exact (answered.runStatement statement (lowered_of_shouldStop (Bool.eq_false_iff.mp goes))).mono
      (excuses _ (.tracked found tracked goes))
  · next untracked =>
    exact (answered.runStatement statement lowered).mono
      (excuses _ (.untracked found (Bool.eq_false_iff.mpr untracked)))

/-- The induction is on the statements that are left; the look before each of them finds the signal
down. -/
theorem processBlock (statements : List NodeId) (machine : Machine World)
    (excuses : ∀ inner start,
      program.BlockWalks (program.process fuel) inner start statements machine →
      ∀ flow, program.ReturnsBeforeStop fuel inner start flow → Excused flow) :
    (program.processBlock (program.process fuel) statements machine).Valueless Excused := by
  induction statements generalizing machine with
  | nil => exact .of_none rfl machine
  | cons statement rest inductionHypothesis =>
    apply Valueless.checkpoint (.of_none rfl _)
    intro goes
    have lowered := lowered_of_shouldStop (Bool.eq_false_iff.mp goes)
    apply Valueless.bind_flow (answered.processStatement statement lowered fun start walks =>
      excuses statement start (.here goes walks))
    intro flow between processed
    split
    · next resumes =>
      exact .inr (inductionHypothesis between fun inner start walks =>
        excuses inner start (.later goes processed resumes walks))
    · exact .inl rfl

/-- A loop is walked again from where its round ends, as a node below itself. -/
theorem processLoop {loop condition body : NodeId} (machine : Machine World)
    (found : program.tree.instruction loop = .ok (.statement (.loop condition body)))
    (block : program.tree.isBlock body = true) :
    (Program.processLoop (program.process fuel) loop condition body machine).Valueless
      (program.ReturnsBeforeStop (fuel + 1) loop machine) := by
  apply Valueless.checkpoint (.of_none rfl _)
  intro goes
  apply Valueless.bind
  intro test ready tested
  split
  · next holds =>
    apply Valueless.bind_flow
      ((answered.block block ready).mono (.up (.round found goes tested holds)))
    intro flow between walked
    split
    · exact .inl rfl
    · next returns =>
      apply Or.inr
      split
      · exact .of_none rfl between
      · next breaks =>
        exact (answered.loop found between).mono (.up (.again found goes tested holds walked
          (Bool.eq_false_iff.mpr returns) (Bool.eq_false_iff.mpr breaks)))
  · exact .of_none rfl ready

/-- The induction is on the items that are left. -/
theorem processItems (target : NodeId) (declaration : VariableDeclaration) {body : NodeId}
    (block : program.tree.isBlock body = true) (items : List Value) (machine : Machine World)
    (excuses : ∀ start,
      program.ItemsWalk (program.process fuel) target declaration body start items machine →
      ∀ flow, program.ReturnsBeforeStop fuel body start flow → Excused flow) :
    (program.processItems (program.process fuel) target declaration body items machine).Valueless
      Excused := by
  induction items generalizing machine with
  | nil => exact .of_none rfl machine
  | cons item rest inductionHypothesis =>
    apply Valueless.checkpoint (.of_none rfl _)
    intro goes
    apply Valueless.bind
    intro _ ready written
    apply Valueless.bind_flow
      ((answered.block block ready).mono (excuses ready (.here goes written)))
    intro flow between walked
    split
    · exact .inl rfl
    · next returns =>
      apply Or.inr
      split
      · exact .of_none rfl between
      · next breaks =>
        exact inductionHypothesis between fun start walks =>
          excuses start (.later goes written walked (Bool.eq_false_iff.mpr returns)
            (Bool.eq_false_iff.mpr breaks) walks)

/-- The flow of a protected body, and what it can carry. -/
theorem processProtected {body : NodeId} (block : program.tree.isBlock body = true)
    {caught : Option Fault}
    (done : Program.processProtected (program.process fuel) body before =
      .done (flow, caught) after) :
    (after.stopped = true → flow.value? = none ∨
      program.ReturnsBeforeStop fuel body before.openScope flow) ∧
    (flow.value? = none ∨ flow.returns = true) := by
  rw [Program.processProtected, protect_apply] at done
  cases ended : Program.runProtected (program.process fuel) body before.openScope with
  | failed fault inside =>
    rw [ended] at done
    cases done
  | exhausted inside =>
    rw [ended] at done
    cases done
  | done passed inside =>
    rw [ended] at done
    cases done
    obtain ⟨result, between, attempted, settled⟩ := Exec.exists_of_bind_done ended
    cases result with
    | error fault =>
      obtain ⟨_, _, -, resumed⟩ := Exec.exists_of_bind_done settled
      cases resumed
      exact ⟨fun _ => .inl rfl, .inl rfl⟩
    | ok flow =>
      cases settled
      simp only [Exec.attempt] at attempted
      split at attempted <;> cases attempted
      next walked =>
        exact ⟨answered.block block _ flow inside walked, answered.returns block walked⟩

/-- An error block keeps what its body returned, and this is the only way past a stop. -/
theorem processErrorBlock {node : NodeId} {parts : ErrorBlock} (machine : Machine World)
    (found : program.tree.instruction node = .ok (.statement (.errorBlock parts)))
    (block : program.tree.isBlock parts.body = true) :
    (program.processErrorBlock (program.process fuel) parts machine).Valueless
      (program.ReturnsBeforeStop (fuel + 1) node machine) := by
  apply Valueless.bind
  rintro ⟨flow, caught⟩ ended settled
  obtain ⟨valueless, returns⟩ := answered.processProtected block settled
  cases caught with
  | some fault =>
    exact .bind fun _ _ _ => .bind fun _ _ _ => .bind fun _ machine _ => .of_none rfl machine
  | none =>
    apply Valueless.bind
    intro _ middle succeeded
    apply Valueless.bind
    intro _ final cleaned
    rintro _ _ ⟨⟩ raised
    cases position : ended.stopped with
    | true => exact (valueless position).imp_right (.up (.protectedBody found) flow)
    | false =>
      refine returns.imp_right fun returned => ?_
      refine ⟨.here, found, returned, settled, position, ?_, raised⟩
      rw [Exec.bind_apply, succeeded]
      exact cleaned

/-- The only statement that carries a value by itself is a return, and its operand is an expression.
-/
theorem performStatement (stratified : program.tree.Stratified)
    (heeded : program.Heeded (program.process fuel)) {node : NodeId} {content : Statement}
    (found : program.tree.instruction node = .ok (.statement content)) {machine : Machine World}
    (lowered : machine.stopped = false) :
    (program.performStatement (program.process fuel) node content machine).Valueless
      (program.ReturnsBeforeStop (fuel + 1) node machine) := by
  have operands := stratified.operand found
  have bodies := stratified.body found
  cases content with
  | block statements =>
    exact answered.processBlock statements machine fun inner start walks =>
      .up (.statement found walks)
  | declareVariable declaration =>
    exact .bind fun _ _ _ => .bind fun _ machine _ => .of_none rfl machine
  | declareFunction _ => exact .of_none rfl machine
  | branch condition consequent alternative =>
    apply Valueless.bind
    intro test start tested
    split
    · next holds =>
      exact (answered.block (bodies consequent List.mem_cons_self) start).mono
        (.up (.consequent found tested holds))
    · next fails =>
      cases alternative with
      | none => exact .of_none rfl start
      | some otherwise =>
        have block := bodies otherwise (List.mem_cons_of_mem _ (List.mem_singleton_self _))
        exact (answered.block block start).mono
          (.up (.alternative found tested (Bool.eq_false_iff.mpr fails)))
  | loop condition body =>
    exact answered.processLoop machine found (bodies body (List.mem_singleton_self body))
  | foreach target iterable body =>
    apply Valueless.bind
    intro declaration _ ended
    obtain ⟨declared, rfl⟩ := Exec.eq_of_ofOption_done ended
    apply Valueless.bind
    intro value ready iterated
    apply Valueless.bind
    intro items _ ended
    obtain ⟨settled, rfl⟩ := Exec.eq_of_ofExcept_done ended
    have listed : iterationItems value = .ok items := by
      cases listing : iterationItems value <;> rw [listing] at settled <;> cases settled
      rfl
    exact answered.processItems target declaration (bodies body (List.mem_singleton_self body))
      items _ fun start walks => .up (.item found declared iterated listed walks)
  | breakLoop => exact .of_none rfl machine
  | continueLoop => exact .of_none rfl machine
  | leave value =>
    cases value with
    | none => exact .of_none rfl machine
    | some result =>
      have evaluated := heeded.evaluate (operands result (List.mem_singleton_self result))
      exact .of_brisk (evaluated.bind fun _ => Brisk.pure _) lowered
  | errorBlock parts =>
    exact answered.processErrorBlock machine found (ErrorBlock.forall_bodies.mp bodies).1

end Answered

/-- In a stratified tree the flows of all walks are valueless once the signal is up. -/
theorem answered_process (stratified : program.tree.Stratified) (fuel : Nat) :
    program.Answered fuel := by
  induction fuel with
  | zero =>
    have cutOff (node : NodeId) (machine : Machine World) :
        (program.process 0 node machine).Valueless (program.ReturnsBeforeStop 0 node machine) := by
      rintro _ _ ⟨⟩
    refine ⟨fun node machine _ => cutOff node machine, fun _ => cutOff _, fun _ => cutOff _, ?_⟩
    intro node _ before after flow done
    cases done
  | succ fuel answered =>
    have heeded := program.heeded_process stratified fuel
    refine ⟨?_, ?_, ?_, ?_⟩
    · intro node machine lowered
      cases found : program.tree.instruction node with
      | error fault =>
        simp only [process, step, found]
        exact .fail fault machine
      | ok instruction =>
        cases instruction with
        | statement content =>
          simp only [process]
          rw [step_statement found]
          exact answered.performStatement stratified heeded found lowered
        | expression content =>
          exact .of_brisk (heeded.step_of_expression stratified found) lowered
    · intro node block machine
      obtain ⟨statements, found⟩ := Tree.exists_of_isBlock block
      simp only [process]
      rw [step_statement found]
      exact answered.processBlock statements machine fun inner start walks =>
        .up (.statement found walks)
    · intro node condition body found machine
      simp only [process]
      rw [step_statement found]
      exact answered.processLoop machine found
        (stratified.body found body (List.mem_singleton_self body))
    · intro node block before after flow done
      obtain ⟨statements, found⟩ := Tree.exists_of_isBlock block
      simp only [process] at done
      rw [step_statement found] at done
      exact returns_of_processBlock done

end Program

namespace ScriptGraph

open Contract Machine Program

/-- The trees of all scripts are stratified. -/
def Stratified (graph : ScriptGraph World) : Prop :=
  ∀ number < graph.scripts.size, (graph.script number).tree.Stratified

variable {graph : ScriptGraph World}

/-- The blank script has an empty tree, which is stratified. -/
theorem Stratified.script (stratified : graph.Stratified) (number : Nat) :
    (graph.script number).tree.Stratified := by
  by_cases known : number < graph.scripts.size
  · exact stratified number known
  · have blank : graph.script number = .blank World := by
      simp [ScriptGraph.script, Array.getD, known]
    rw [blank]
    intro node member
    cases member

/-- Roots are blocks, so they may be walked from any machine. -/
theorem isBlock_root (built : graph.IsBuilt) {number : Nat} {layout : Layout}
    (registered : (graph.script number).tree.rootLayout? (graph.script number).root =
      some layout) :
    (graph.script number).tree.isBlock (graph.script number).root = true := by
  obtain ⟨statements, found⟩ := built.root_block registered
  simp only [Tree.isBlock, found]

/-- Scripts with stratified trees heed a stop without delay. -/
theorem heeding_lifted (built : graph.IsBuilt) (stratified : graph.Stratified) :
    heeding.Lifted graph where
  raises_unknownNode _ := trivial
  binds layout machine := by
    have same : Silences machine { machine with store := machine.store.bind layout } :=
      Confines.of_eq rfl rfl
    exact .of_confines same
  notes_script _ _ _ machine := .of_confines (Confines.note machine ⟨rfl, by rintro _ ⟨⟩⟩)
  within _ _ _ _ kept := heeding_within _ kept
  library number status fuel := by
    have notes (machine : Machine World) (root : NodeId) : heeding.Finished machine
        (machine.note (.libraryOpened root machine.monitor.frames machine.store)) :=
      .of_confines (Confines.note machine ⟨rfl, by rintro _ ⟨⟩⟩)
    exact Contract.kept_bind (Contract.kept_update fun machine => notes machine _) fun _ =>
      (heeded_process (program _ status) (stratified.script number) fuel).runDeclarations _
  root number status fuel _ registered :=
    (heeded_process (program _ status) (stratified.script number) fuel).block
      (isBlock_root built registered)

/-- The run of a script comes to its root block, and there a value is returned before the stop. -/
inductive ReturnsBeforeStop (graph : ScriptGraph World) (fuel number : Nat)
    (before : Workspace World) (flow : Flow) : Prop where
  | intro {ready : Workspace World} {layout : Layout}
      (approached : graph.approach fuel number (graph.started number before) = .done () ready)
      (registered : (graph.script number).tree.rootLayout? (graph.script number).root = some layout)
      (returns : (program (graph.script number) (ready.status number)).ReturnsBeforeStop fuel
        (graph.script number).root (graph.rootStart number layout ready) flow)

/-- A run that is done walked its root block, from the machine that its libraries left to it. -/
theorem exists_of_process_done {fuel number : Nat} {before after : Workspace World} {flow : Flow}
    (done : graph.process fuel number before = .done flow after) :
    ∃ ready layout inside,
      graph.approach fuel number (graph.started number before) = .done () ready ∧
      (graph.script number).tree.rootLayout? (graph.script number).root = some layout ∧
      (program (graph.script number) (ready.status number)).process fuel (graph.script number).root
        (graph.rootStart number layout ready) = .done flow inside ∧
      after.machine.stopped = inside.stopped := by
  have fresh : (before.status number).hasRun = false := by
    cases ran : (before.status number).hasRun with
    | false => rfl
    | true =>
      rw [process_again ran] at done
      cases done
  rw [process_apply fresh] at done
  obtain ⟨walked, ended, rfl⟩ := Exec.exists_of_ensuring_done done
  obtain ⟨_, ready, approached, rooted⟩ := Exec.exists_of_bind_done ended
  cases registered : (graph.script number).tree.rootLayout? (graph.script number).root with
  | none =>
    rw [runRoot_unregistered registered] at rooted
    cases rooted
  | some layout =>
    rw [runRoot_apply registered] at rooted
    obtain ⟨left, ran, rfl⟩ := Outcome.exists_of_mapState_done rooted
    obtain ⟨inside, walked, rfl⟩ := Exec.exists_of_ensuring_done ran
    refine ⟨ready, layout, inside, approached, rfl, walked, ?_⟩
    rw [Workspace.machine_announce]
    exact stopped_outOfScope graph number _ ready inside

/-- A run that is done with the signal up answers without a value, unless it returned before the
stop. -/
theorem valueless_process (built : graph.IsBuilt) (stratified : graph.Stratified)
    {fuel number : Nat} {before after : Workspace World} {flow : Flow}
    (done : graph.process fuel number before = .done flow after)
    (raised : after.machine.stopped = true) :
    flow.value? = none ∨ graph.ReturnsBeforeStop fuel number before flow := by
  obtain ⟨ready, layout, inside, approached, registered, walked, same⟩ :=
    exists_of_process_done done
  let program := program (graph.script number) (ready.status number)
  have answered : program.Answered fuel := answered_process (stratified.script number) fuel
  have valueless := answered.block (isBlock_root built registered) _ flow inside walked
  exact (valueless (same.symm.trans raised)).imp_right (.intro approached registered)

end ScriptGraph

/-- However the run of a script goes, what its trace has gained tells all moves of the stop signal.
If none of them is down, no more constructs were invoked after it went up than its mover leaves time
for: one after the pause hook, none after a construct or the policy, and none at all if the signal
was up from the start. The run does not end in the cancellation signal. If the signal is up when it
is done, it answers without a value, except for one that an error block had returned before. -/
theorem prompt_cancellation {graph : ScriptGraph World} (built : graph.IsBuilt)
    (stratified : graph.Stratified) (fuel number : Nat) (before : Workspace World) :
    let ended := graph.process fuel number before
    ∃ added, ended.state.machine.trace = added ++ before.machine.trace ∧
      SignalPath before.machine.stopped added ended.state.machine.stopped ∧
      (Unreset added → Prompt added ∧
        (before.machine.stopped = true → added.countP Occurrence.isInvocation = 0)) ∧
      (∀ fault after, ended = .failed fault after → fault.isCancellation = false) ∧
      (∀ flow after, ended = .done flow after → after.machine.stopped = true →
        flow.value? = none ∨ graph.ReturnsBeforeStop fuel number before flow) := by
  intro ended
  have heeds := ((ScriptGraph.heeding_lifted built stratified).process fuel number before).reached
  obtain ⟨added, trace, path, timely⟩ := heeds
  refine ⟨added, trace, path, ?_, ?_, ?_⟩
  · intro unreset
    exact ⟨(timely unreset).prompt path unreset, fun up => Nat.le_zero.mp ((timely unreset).up up)⟩
  · intro fault after failed
    have uncancelled := Workspace.isCancelled_of_fulfilled
      ((ScriptGraph.uncancelled_lifted built).process fuel number before)
    change ended.isCancelled = false at uncancelled
    rw [failed] at uncancelled
    exact uncancelled
  · intro flow after done raised
    exact ScriptGraph.valueless_process built stratified done raised

/-- A script that calls a function, whose parameter has a construct as its default. -/
def defaultedCall : List (Directive Unit) :=
  [.node (.statement (.declareFunction ⟨"f", [⟨1⟩], ⟨2⟩⟩)),
    .node (.statement (.declareVariable ⟨"n", .plain, some ⟨3⟩⟩)),
    .node (.statement (.block [])),
    .node (.expression (.construct ⟨"tick", 0, fun _ host => (.ok .null, host)⟩ [])),
    .node (.expression (.call ⟨0⟩ [])),
    .root [⟨0⟩, ⟨4⟩]]

/-- A graph of one script is stratified if its tree is. -/
theorem ScriptGraph.sole_stratified (directives : List (Directive World)) (root : NodeId)
    (stratified : (((Builder.applyAll { } directives).getD { }).finish 0).Stratified) :
    (ScriptGraph.sole directives root).Stratified := by
  intro number known
  rw [Nat.lt_one_iff.mp known]
  exact stratified

/-- A pause hook that lets the call be entered as a statement and stops at its call site. -/
def stopsAtCallSite : Workspace Unit where
  machine :=
    { host := { world := () }
      monitor :=
        { breakpoints := [⟨4⟩]
          pauseHook := some fun seen => if seen.length = 2 then .stop else .resume } }

/-- The default is evaluated with the signal already up, and nothing is invoked after that. -/
theorem prompt_cancellation_at_call_site :
    let ended := (ScriptGraph.sole defaultedCall ⟨5⟩).process 9 0 stopsAtCallSite
    ended.state.machine.stopped = true ∧
    ended.state.machine.invocations.map (fun invocation => (invocation.1, invocation.2.2)) =
      [("tick", true)] ∧
    Unreset ended.state.machine.trace ∧ Prompt ended.state.machine.trace := by
  intro ended
  have unreset : Unreset ended.state.machine.trace := by decide +kernel
  obtain ⟨added, trace, -, prompt, -⟩ :=
    prompt_cancellation (ScriptGraph.sole_isBuilt defaultedCall ⟨5⟩ rfl)
      (ScriptGraph.sole_stratified defaultedCall ⟨5⟩ (by decide)) 9 0 stopsAtCallSite
  refine ⟨by decide +kernel, by decide +kernel, unreset, ?_⟩
  rw [show ended.state.machine.trace = added from trace.trans (List.append_nil added)] at unreset ⊢
  exact (prompt unreset).1

/-- A script that returns from the body of an error block whose final part requests a stop. -/
def returnThenHalt : List (Directive Unit) :=
  [.node (.expression (.literal (.int 5))),
    .node (.statement (.leave (some ⟨0⟩))),
    .node (.statement (.block [⟨1⟩])),
    .node (.expression (.construct
      ⟨"halt", 0, fun _ host => (.ok .null, { host with halted := true })⟩ [])),
    .node (.statement (.block [⟨3⟩])),
    .node (.statement (.errorBlock ⟨⟨2⟩, none, none, some ⟨4⟩, none⟩)),
    .root [⟨5⟩]]

/-- The value that a computation returned, with the state it ended in. -/
def Outcome.returned? {State : Type} : Outcome State Flow → Option (Value × State)
  | .done (.returning (some value)) after => some (value, after)
  | _ => none

/-- What a run returned says how it ended. -/
theorem Outcome.eq_of_returned? {State : Type} {outcome : Outcome State Flow} {value : Value}
    {after : State} (returned : outcome.returned? = some (value, after)) :
    outcome = .done (.returning (some value)) after := by
  simp only [Outcome.returned?] at returned
  split at returned <;> cases returned
  rfl

/-- The tree is stratified and the signal is never lowered, yet the run is done with a value while
the signal is up. -/
theorem value_kept_past_stop :
    (ScriptGraph.sole returnThenHalt ⟨6⟩).IsBuilt ∧
    (ScriptGraph.sole returnThenHalt ⟨6⟩).Stratified ∧
    ∃ value after,
      (ScriptGraph.sole returnThenHalt ⟨6⟩).process 9 0
          { machine := { host := { world := () }, monitor := { signal := .shared } } } =
        .done (.returning (some value)) after ∧
      after.machine.stopped = true ∧ Unreset after.machine.trace := by
  refine ⟨ScriptGraph.sole_isBuilt returnThenHalt ⟨6⟩ rfl,
    ScriptGraph.sole_stratified returnThenHalt ⟨6⟩ (by decide), ?_⟩
  have observed : (Outcome.returned? ((ScriptGraph.sole returnThenHalt ⟨6⟩).process 9 0
      { machine := { host := { world := () }, monitor := { signal := .shared } } })).any
        (fun answer => answer.2.machine.stopped && decide (Unreset answer.2.machine.trace)) =
          true := by
    decide +kernel
  obtain ⟨⟨value, after⟩, returned, seen⟩ := (Option.any_eq_true _ _).mp observed
  simp only [Bool.and_eq_true, decide_eq_true_eq] at seen
  exact ⟨value, after, Outcome.eq_of_returned? returned, seen⟩

end Treewalk
