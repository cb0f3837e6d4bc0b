import Treewalk.Proofs.ErrorAggregation
import Treewalk.Proofs.InertDeclarations
import Treewalk.Proofs.SingleFailure

/-!
# Stopping where a statement is entered

A pause hook can answer with a stop request, and it is asked while a statement is being entered. A
block looks at the stop signal once more after that, so the statement is left again as it was found,
unless somebody outside has taken the request back just then: `Program.processStatement_stops`. The
loop over the declarations of a library does not look, and a declaration is processed although a
stop is due.

`Machine.NoEffect` says that nothing was done in between: no binding has changed and no construct
was invoked. For a function declaration there is nothing to do in any case. A variable declaration
of a library is spared exactly if its initial value does nothing and changes nothing.
-/

namespace Treewalk

variable {World Result : Type}

namespace Machine

variable {first second third before after machine : Machine World} {node : NodeId}

/-- No binding is another one and no further construct was invoked. -/
structure NoEffect (before after : Machine World) : Prop where
  bindings : ∀ cell, after.store.bindings cell = before.store.bindings cell
  invocations : after.invocations = before.invocations

namespace NoEffect

/-- Doing nothing has no effect. -/
theorem refl (machine : Machine World) : NoEffect machine machine :=
  ⟨fun _ => rfl, rfl⟩

/-- Two stretches without an effect are one. -/
theorem trans (earlier : NoEffect first second) (later : NoEffect second third) :
    NoEffect first third :=
  ⟨fun cell => (later.bindings cell).trans (earlier.bindings cell),
    later.invocations.trans earlier.invocations⟩

/-- Effects are compared up to what has none, on either side. -/
theorem congr {start finish : Machine World} (starts : NoEffect before start)
    (finishes : NoEffect after finish) : NoEffect start finish ↔ NoEffect before after := by
  constructor
  · intro none
    exact ⟨fun cell => (finishes.bindings cell).symm.trans
        ((none.bindings cell).trans (starts.bindings cell)),
      finishes.invocations.symm.trans (none.invocations.trans starts.invocations)⟩
  · intro none
    exact ⟨fun cell => (finishes.bindings cell).trans
        ((none.bindings cell).trans (starts.bindings cell).symm),
      finishes.invocations.trans (none.invocations.trans starts.invocations.symm)⟩

/-- Whoever moves the stop signal, no construct is invoked. -/
theorem of_confines {Movers : SignalMover → Prop} (confines : Confines Movers before after)
    (store : after.store = before.store) : NoEffect before after := by
  obtain ⟨added, trace, -, confined⟩ := confines
  refine ⟨fun cell => by rw [store], ?_⟩
  have uninvoked : added.filterMap Occurrence.invocation? = [] := by
    refine List.filterMap_eq_nil_iff.mpr fun occurrence member => ?_
    exact Option.isNone_iff_eq_none.mp
      (by simpa [Occurrence.isInvocation] using (confined occurrence member).uninvoked)
  simp only [Machine.invocations, trace, List.filterMap_append, uninvoked, List.nil_append]

/-- Raising the signal has no effect on bindings and invokes nothing. -/
theorem raise (mover : SignalMover) (machine : Machine World) :
    NoEffect machine (machine.raise mover) :=
  of_confines (.raise machine rfl) (SameView.raise mover machine).store

/-- A look at the signal has no effect, whatever comes from outside. -/
theorem look (machine : Machine World) : NoEffect machine machine.look :=
  of_confines (.look machine) (SameView.look machine).store

/-- Leaving a node has no effect. -/
theorem leave (node : NodeId) (machine : Machine World) : NoEffect machine (machine.leave node) :=
  of_confines (.leave node machine) rfl

/-- A fault that is handed on is recorded, or it stops the run; bindings stay as they are. -/
theorem handFrom (statement : NodeId) (fault : Fault) (machine : Machine World) :
    NoEffect machine (Machine.handFrom statement fault machine).state :=
  of_confines (.handFrom statement fault machine) (SameView.hand fault _).store

end NoEffect

/-- The pause hook is asked when the node is entered and answers with a stop request. -/
def StopsAt (machine : Machine World) (node : NodeId) : Prop :=
  machine.monitor.breakpoints.contains node = true ∧
    ∃ hook, machine.monitor.pauseHook = some hook ∧
      hook ((machine.push node).snapshot node :: machine.monitor.pauses) = .stop

/-- The machine at the moment when the pause hook has answered with a stop request. -/
def answered (machine : Machine World) (node : NodeId) : Machine World :=
  (machine.push node).notePause node .stop

/-- All that follows the answer on the way in is that the stop signal goes up. -/
theorem enter_of_stopsAt (stops : machine.StopsAt node) :
    machine.enter node = (machine.answered node).raise .pauseHook := by
  obtain ⟨listed, hook, installed, answer⟩ := stops
  have points : (machine.push node).monitor.breakpoints.contains node = true := listed
  have hooked : (machine.push node).monitor.pauseHook = some hook := installed
  have answers : hook ((machine.push node).snapshot node :: (machine.push node).monitor.pauses) =
      .stop := answer
  simp only [enter, points, if_true, pause, hooked, answers, obey, answered]

/-- A hook that answers with a stop leaves the signal up. -/
theorem stopped_enter_of_stopsAt (stops : machine.StopsAt node) :
    (machine.enter node).stopped = true := by
  rw [enter_of_stopsAt stops, stopped_raise]

/-- Raising the signal is not looking at it. -/
theorem looks_raise (mover : SignalMover) (machine : Machine World) :
    (machine.raise mover).looks = machine.looks := by
  have signalled : (machine.signal true).looks = machine.looks := by
    simp only [signal]
    split <;> rfl
  simp only [raise, noteMove]
  split
  · exact signalled
  · exact signalled

/-- Unless somebody outside is faster, the next look finds that a stop is due. -/
theorem stopped_look_enter (stops : machine.StopsAt node) (firm : machine.Firm) :
    (machine.enter node).look.stopped = true := by
  have still : (machine.enter node).Firm := by
    rw [Firm, (SameRecords.enter node machine).outside, enter_of_stopsAt stops, looks_raise]
    exact firm
  exact stopped_look still (stopped_enter_of_stopsAt stops)

/-- Between the answer of the hook and the first look the signal goes up and nothing else happens.
-/
theorem noEffect_enter (stops : machine.StopsAt node) :
    NoEffect (machine.answered node) (machine.enter node) := by
  rw [enter_of_stopsAt stops]
  exact .raise .pauseHook _

end Machine

namespace Program

open Machine

variable {program : Program World} {walk : Walk World} {machine : Machine World}
  {statement : NodeId} {instruction : Instruction World}

/-- A block leaves a statement at which it was stopped as soon as it has entered it. -/
theorem processStatement_stops (stops : machine.StopsAt statement) (firm : machine.Firm)
    (found : program.tree.instruction statement = .ok instruction)
    (tracked : instruction.isTracked = true) :
    program.processStatement walk statement machine =
      .done (.returning none) ((machine.enter statement).look.leave statement) := by
  have stopped := shouldStop_of_stopped (stopped_look_enter stops firm)
  simp [processStatement, found, tracked, Exec.ofExcept, Exec.pure, Exec.bind_apply, Exec.update,
    Exec.ensuring, poll_apply, stopped]

/-- A block that is stopped where it enters a statement leaves the statement at once. -/
theorem processBlock_stops {start : Machine World} (stops : start.look.StopsAt statement)
    (firm : start.look.Firm) (found : program.tree.instruction statement = .ok instruction)
    (tracked : instruction.isTracked = true) (goes : start.look.shouldStop = false)
    (rest : List NodeId) :
    program.processBlock walk (statement :: rest) start =
      .done (.returning none) ((start.look.enter statement).look.leave statement) := by
  simp [processBlock, Exec.bind_apply, poll_apply, goes,
    processStatement_stops stops firm found tracked, Flow.resumes]

/-- What a declaration of a library does is done by the walk of the declaration, from the moment
when it was entered; a failure of it is handed on and no more. -/
theorem noEffect_runDeclaration (walk : Walk World) (statement : NodeId) (machine : Machine World) :
    NoEffect (walk statement (machine.enter statement)).state
      (runDeclaration walk statement machine).state := by
  simp only [runDeclaration, Exec.bind_apply, Exec.update, Exec.ensuring, Exec.attempt]
  cases walk statement (machine.enter statement) with
  | done flow after => exact .leave statement after
  | exhausted after => exact .refl after
  | failed fault after =>
    have handed := NoEffect.handFrom statement fault after
    cases cancelled : fault.isCancellation with
    | true =>
      simp only [cancelled, if_true]
      exact .leave statement after
    | false =>
      simp only [cancelled, Bool.false_eq_true, if_false, Exec.bind_apply]
      cases ended : Machine.handFrom statement fault after with
      | done result final =>
        rw [ended] at handed
        exact handed.trans (.leave statement final)
      | failed raised final =>
        rw [ended] at handed
        exact handed.trans (.leave statement final)
      | exhausted final =>
        rw [ended] at handed
        exact handed

/-- The bindings after a variable declaration was processed. -/
def declaredStore (cell : Cell) : Outcome (Machine World) Value → Store
  | .done value after => (after.store.replace? cell value).getD after.store
  | .failed _ after => after.store
  | .exhausted after => after.store

/-- A variable declaration does what its initial value does, and binds it. -/
theorem process_variable {declaration : VariableDeclaration} (fuel : Nat)
    (declared : program.tree.variableAt? statement = some declaration)
    (machine : Machine World) :
    let valued := program.initialValue (program.process fuel) declaration machine
    let after := (program.process (fuel + 1) statement machine).state
    after.store = declaredStore (program.tree.cell statement) valued ∧
      after.invocations = valued.state.invocations := by
  intro valued after
  simp only [after, process, step_statement (Tree.instruction_of_variableAt? declared),
    performStatement, Exec.bind_apply]
  cases ended : program.initialValue (program.process fuel) declaration machine with
  | failed fault reached => simp [valued, ended, declaredStore, Outcome.state]
  | exhausted reached => simp [valued, ended, declaredStore, Outcome.state]
  | done value reached =>
    simp only [valued, ended, declaredStore, Program.write, Machine.write]
    cases replaced : reached.store.replace? (program.tree.cell statement) value <;>
      simp [Outcome.state, invocations, Machine.note, List.filterMap_cons,
        Occurrence.invocation?]

/-- The loop over the declarations of a library does not go on after a function declaration at which
it was stopped. -/
theorem runDeclarations_function_stops {function : FunctionDeclaration} (fuel : Nat)
    {start : Machine World} (stops : start.look.StopsAt statement) (firm : start.look.Firm)
    (declared : program.tree.functionAt? statement = some function)
    (goes : start.look.shouldStop = false) (next : NodeId) (later : List NodeId) :
    program.runDeclarations (program.process (fuel + 1)) (statement :: next :: later) start =
      .done () ((start.look.enter statement).leave statement).look := by
  have stopped : ((start.look.enter statement).leave statement).look.stopped = true := by
    apply stopped_look
    · rw [Firm, (SameRecords.leave statement _).outside,
        (SameRecords.enter statement start.look).outside]
      change start.look.outside (start.look.enter statement).looks ≠ _
      rw [enter_of_stopsAt stops, looks_raise]
      exact firm
    · exact stopped_enter_of_stopsAt stops
  rw [runDeclarations_function fuel declared goes]
  exact runDeclarations_stopped (shouldStop_of_stopped stopped)

/-- When the pause hook answers with a stop request as a statement is entered, a stop is due at
once, and it still is when the signal is looked at next, unless somebody outside takes the request
back before that. If nobody does, a block leaves the statement without having done anything. So does
the loop over the declarations of a library, in any case, if the statement declares a function; it
does not go on after that unless the request is taken back. A variable declaration is processed by
that loop all the same: nothing is done until it is left exactly if no construct is invoked for its
initial value and every binding is afterwards what it was. -/
theorem stop_on_entry (program : Program World) {machine : Machine World} {statement : NodeId}
    (stops : machine.StopsAt statement) :
    let answered := machine.answered statement
    let entered := machine.enter statement
    let ended := entered.look.leave statement
    let declared := entered.leave statement
    entered.shouldStop = true ∧ (machine.Firm → entered.look.shouldStop = true) ∧
    answered.NoEffect ended ∧ answered.NoEffect declared ∧ answered.NoEffect declared.look ∧
    (∀ start : Machine World, start.look = machine → machine.shouldStop = false →
      (machine.Firm → ∀ instruction, program.tree.instruction statement = .ok instruction →
        instruction.isTracked = true → ∀ walk rest,
          program.processBlock walk (statement :: rest) start = .done (.returning none) ended) ∧
      ∀ function, program.tree.functionAt? statement = some function → ∀ fuel,
        program.runDeclarations (program.process (fuel + 1)) [statement] start =
          .done () declared ∧
        (machine.Firm → ∀ next later,
          program.runDeclarations (program.process (fuel + 1)) (statement :: next :: later) start =
            .done () declared.look)) ∧
    ∀ declaration, program.tree.variableAt? statement = some declaration → ∀ fuel,
      let valued := program.initialValue (program.process fuel) declaration entered
      let bound := declaredStore (program.tree.cell statement) valued
      answered.NoEffect (runDeclaration (program.process (fuel + 1)) statement machine).state ↔
        (∀ cell, bound.bindings cell = entered.store.bindings cell) ∧
          valued.state.invocations = entered.invocations := by
  intro answered entered ended declared
  have untouched : answered.NoEffect entered := noEffect_enter stops
  have untouchedYet : answered.NoEffect entered.look := untouched.trans (.look entered)
  have left : answered.NoEffect declared := untouched.trans (.leave statement entered)
  refine ⟨shouldStop_of_stopped (stopped_enter_of_stopsAt stops),
    fun firm => shouldStop_of_stopped (stopped_look_enter stops firm),
    untouchedYet.trans (.leave statement _), left, left.trans (.look declared), ?_, ?_⟩
  · rintro start rfl goes
    constructor
    · intro firm instruction found tracked walk rest
      exact processBlock_stops stops firm found tracked goes rest
    · intro function isFunction fuel
      exact ⟨runDeclarations_function fuel isFunction goes [],
        fun firm => runDeclarations_function_stops fuel stops firm isFunction goes⟩
  · intro declaration isVariable fuel valued bound
    obtain ⟨store, invocations⟩ := process_variable fuel isVariable entered
    have ran := noEffect_runDeclaration (program.process (fuel + 1)) statement machine
    rw [← NoEffect.congr untouched (.refl _), NoEffect.congr (.refl entered) ran]
    constructor
    · intro none
      exact ⟨fun cell => (congrArg (·.bindings cell) store).symm.trans (none.bindings cell),
        invocations.symm.trans none.invocations⟩
    · rintro ⟨bindings, uninvoked⟩
      exact ⟨fun cell => (congrArg (·.bindings cell) store).trans (bindings cell),
        invocations.trans uninvoked⟩

end Program

namespace ScriptGraph

/-- A script that declares two variables, one with a construct as its initial value, and a
function. -/
def tickingScript : List (Directive Unit) :=
  [.node (.expression (.construct ⟨"tick", 0, fun _ host => (.ok .null, host)⟩ [])),
    .node (.statement (.declareVariable ⟨"x", .plain, some ⟨0⟩⟩)),
    .node (.statement (.block [])),
    .node (.statement (.declareFunction ⟨"f", [], ⟨2⟩⟩)),
    .node (.expression (.literal (.bool true))),
    .node (.statement (.declareVariable ⟨"y", .plain, some ⟨4⟩⟩)),
    .root [⟨1⟩, ⟨3⟩, ⟨5⟩]]

/-- A pause hook that stops at the first variable and at the function. -/
def stopsAtDeclarations : Machine Unit where
  host := { world := () }
  monitor := { breakpoints := [⟨1⟩, ⟨3⟩], pauseHook := some fun _ => .stop }

/-- The block is stopped and the function declaration does nothing, but the variable declaration of
a library still invokes its construct. -/
theorem stop_on_entry_at_declarations :
    let graph := ScriptGraph.sole tickingScript ⟨6⟩
    let program : Program Unit := { tree := (graph.script 0).tree }
    let machine := stopsAtDeclarations.look
    machine.StopsAt ⟨1⟩ ∧ machine.StopsAt ⟨3⟩ ∧ machine.Firm ∧
    program.processBlock (program.process 2) [⟨1⟩, ⟨3⟩] stopsAtDeclarations =
      .done (.returning none) ((machine.enter ⟨1⟩).look.leave ⟨1⟩) ∧
    (machine.answered ⟨1⟩).NoEffect ((machine.enter ⟨1⟩).look.leave ⟨1⟩) ∧
    program.runDeclarations (program.process 2) [⟨3⟩] stopsAtDeclarations =
      .done () ((machine.enter ⟨3⟩).leave ⟨3⟩) ∧
    ¬ (machine.answered ⟨1⟩).NoEffect
      (Program.runDeclaration (program.process 2) ⟨1⟩ machine).state := by
  intro graph program machine
  have variableStops : machine.StopsAt ⟨1⟩ := ⟨rfl, _, rfl, rfl⟩
  have functionStops : machine.StopsAt ⟨3⟩ := ⟨rfl, _, rfl, rfl⟩
  have firm : machine.Firm := nofun
  obtain ⟨-, -, same, -, -, block, declaration⟩ := Program.stop_on_entry program variableStops
  obtain ⟨-, -, -, -, -, functions, -⟩ := Program.stop_on_entry program functionStops
  refine ⟨variableStops, functionStops, firm, (block _ rfl rfl).1 firm _ rfl rfl _ _, same,
    ((functions _ rfl rfl).2 _ rfl 1).1, ?_⟩
  intro spared
  obtain ⟨-, uninvoked⟩ := (declaration _ rfl 1).mp spared
  have invoked : (program.initialValue (program.process 1) ⟨"x", .plain, some ⟨0⟩⟩
      (machine.enter ⟨1⟩)).state.invocations.length ≠ (machine.enter ⟨1⟩).invocations.length := by
    decide +kernel
  exact invoked (congrArg List.length uninvoked)

/-- When the script is initialized as a library, a stop request at the first variable does not keep
its construct from being invoked, and one at the second variable does not keep it from being
bound. -/
theorem declaration_processed_after_stop :
    let graph := ScriptGraph.sole tickingScript ⟨6⟩
    let cell := (graph.script 0).tree.cell ⟨5⟩
    let paused (node : NodeId) : Workspace Unit :=
      { machine :=
          { host := { world := () }
            monitor := { breakpoints := [node], pauseHook := some fun _ => .stop } } }
    let after (node : NodeId) := (graph.prepare 3 0 false (paused node)).state.machine
    (after ⟨1⟩).monitor.pauses.length = 1 ∧
      (after ⟨1⟩).invocations.map (fun invocation => (invocation.1, invocation.2.2)) =
        [("tick", true)] ∧
      (after ⟨5⟩).monitor.pauses.map
        (fun seen => (seen.store.bindings cell).map Value.isNull) = [[true]] ∧
      ((after ⟨5⟩).store.bindings cell).map Value.isNull = [false] := by
  decide +kernel

end ScriptGraph

end Treewalk
