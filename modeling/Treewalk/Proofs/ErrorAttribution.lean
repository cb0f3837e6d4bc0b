import Treewalk.Proofs.HandedFaults
import Treewalk.Proofs.InertDeclarations

/-!
# Where faults come from

Blocks and the loop over the declarations of a library hand on the failure of a statement while the
statement is on top of the call stack: whatever ran inside the statement has taken itself off again.
This makes every walk attributable in the sense of `Exec.IsAttributable`, and so every run of a
script.

The rules for a single statement are where the argument is. They need the walk below them to
restore the call stack, which `Machine.restoring` says of every walk, and the statement of a block
that is not put on the call stack to have no failure, which holds since it declares a function.
-/

namespace Treewalk

variable {World Result : Type}

open Machine

namespace Program

/-- Walk a statement to its end and hand on its failure, unless it is a stop request. -/
def settleAs (walk : Walk World) (statement : NodeId) (done : Flow → Result)
    (stopped absorbed : Result) : Exec (Machine World) Result := do
  match ← Exec.attempt (walk statement) with
  | .ok flow => return done flow
  | .error fault =>
    if fault.isCancellation then return stopped
    else do
      Machine.handFrom statement fault
      return absorbed

/-- A block settles the end of a statement as a flow. -/
theorem runStatement_eq (walk : Walk World) (statement : NodeId) :
    runStatement walk statement = settleAs walk statement id (.returning none) (.resume none) :=
  rfl

/-- The loop over the declarations of a library settles it as the answer whether to stop. -/
theorem runDeclaration_eq (walk : Walk World) (statement : NodeId) :
    runDeclaration walk statement =
      (do
        Exec.update (Machine.enter statement)
        Exec.ensuring (settleAs walk statement (fun _ => false) true true)
          (Machine.leave statement)) :=
  rfl

variable {program : Program World} {fuel : Nat} {statement : NodeId} {machine : Machine World}

/-- A walk is left with the same node on top of the call stack. -/
theorem top?_of_failed {fault : Fault} {node : NodeId} {after : Machine World}
    (failed : program.process fuel node machine = .failed fault after) :
    after.monitor.top? = machine.monitor.top? := by
  have restored := (restoring_upheld program).process fuel node machine
  rw [failed] at restored
  exact congrArg CallStack.top? restored.2.stack

/-- The evaluator blames nobody for misuse. -/
theorem blameless_of_failed {fault : Fault} {node : NodeId} {after : Machine World}
    (failed : program.process fuel node machine = .failed fault after) :
    fault.isMisuse = false := by
  have raised := (blameless_upheld program).process fuel node machine
  rw [failed] at raised
  exact raised.1

/-- The failure of a statement on top of the call stack is attributed to it, unless it was
attributed before. -/
theorem attributable_settleAs (walk : (program.process fuel statement).IsAttributable id)
    (top : machine.monitor.top? = some statement) (done : Flow → Result)
    (stopped absorbed : Result) :
    Attributable id machine
      (settleAs (program.process fuel) statement done stopped absorbed machine) := by
  have walked := walk machine
  simp only [settleAs, Exec.bind_apply, Exec.attempt]
  cases ended : program.process fuel statement machine with
  | done flow after =>
    rw [ended] at walked
    exact walked
  | exhausted after =>
    rw [ended] at walked
    exact walked
  | failed fault after =>
    rw [ended] at walked
    -- The walk may have been deep inside other statements, which it has all left by now.
    have onTop := (top?_of_failed ended).trans top
    cases cancelled : fault.isCancellation with
    | true =>
      simp only [cancelled, if_true]
      exact walked.concludes cancelled
    | false =>
      simp only [cancelled, Bool.false_eq_true, if_false]
      have handed : Attributable id machine (Machine.handFrom statement fault after) :=
        attributable_handFrom walked (blameless_of_failed ended) cancelled onTop
      exact handed.returning absorbed

/-- A look leaves the call stack alone. -/
theorem top?_look (machine : Machine World) : machine.look.monitor.top? = machine.monitor.top? := by
  have quiet := quietly_poll machine
  rw [poll_apply] at quiet
  exact congrArg CallStack.top? (Quiet.restored quiet).stack

/-- After a node was entered it stands on top, even if the machine paused there. -/
theorem top?_enter (node : NodeId) (machine : Machine World) :
    (machine.enter node).monitor.top? = some node := by
  rw [Monitor.top?, (Restored.enter node machine).stack]
  rfl

/-- Between entering a statement and leaving it. -/
theorem attributable_tracked {body : Exec (Machine World) Result}
    (attributable : ∀ machine : Machine World, machine.monitor.top? = some statement →
      Attributable id machine (body machine)) :
    Exec.IsAttributable id (do
      Exec.update (Machine.enter statement)
      Exec.ensuring body (Machine.leave statement)) := by
  intro before
  apply Attributable.ensuring
  · exact Attributable.after (Uneventful.enter statement before).concludes
      (attributable _ (top?_enter statement before))
  · exact fun machine => (Uneventful.leave statement machine).concludes
  · exact fun fault machine escapes => escapes.leave statement

/-- A statement that is not tracked declares a function and does nothing. -/
theorem runStatement_untracked {instruction : Instruction World}
    (found : program.tree.instruction statement = .ok instruction)
    (untracked : instruction.isTracked ≠ true) (machine : Machine World) :
    runStatement (program.process fuel) statement machine = .exhausted machine ∨
      runStatement (program.process fuel) statement machine = .done (.resume none) machine := by
  have declared : program.tree.functionAt? statement ≠ none := by
    rw [Tree.functionAt?_of_instruction found]
    simpa [Instruction.isTracked] using untracked
  obtain ⟨function, declares⟩ := Option.ne_none_iff_exists'.mp declared
  simp only [runStatement_eq, settleAs, Exec.bind_apply, Exec.attempt]
  cases fuel with
  | zero => exact .inl rfl
  | succ fuel =>
    rw [process_function fuel declares]
    exact .inr rfl

/-- A statement is on top of the call stack when its failure is handed on. -/
theorem attributable_processStatement (walk : (program.process fuel statement).IsAttributable id) :
    (program.processStatement (program.process fuel) statement).IsAttributable id := by
  simp only [processStatement]
  cases found : program.tree.instruction statement with
  | error fault =>
    rw [fault_of_instruction_error found]
    exact .failFor _
  | ok instruction =>
    change Exec.IsAttributable id
      (if instruction.isTracked then _ else runStatement (program.process fuel) statement)
    split
    · apply attributable_tracked
      intro machine top
      have looked := (Uneventful.look machine).concludes
      rw [runStatement_eq, Exec.bind_apply, poll_apply]
      dsimp only
      split
      · exact looked
      · exact Attributable.after looked
          (attributable_settleAs walk ((top?_look machine).trans top) _ _ _)
    · next untracked =>
      intro before
      have nothing := (Uneventful.refl before).concludes
      rcases runStatement_untracked found untracked before with ended | ended
      · rw [ended]
        exact nothing.imp fun _ => Settles.toAscribes
      · rw [ended]
        exact nothing

/-- A declaration of a library is on top of the call stack when its failure is handed on. -/
theorem attributable_runDeclaration (walk : (program.process fuel statement).IsAttributable id) :
    (runDeclaration (program.process fuel) statement).IsAttributable id := by
  rw [runDeclaration_eq]
  exact attributable_tracked fun machine top => attributable_settleAs walk top _ _ _

section

variable {body : NodeId} {before after : Machine World} {added : List Occurrence}

/-- What an error scope records that is opened around a body and closed after it. -/
theorem scopes_of_openScope (settles : before.openScope.Settles after added) :
    after.scopes =
      ({ } : ErrorScope).recordAll (handedTo (before.scopes.length + 1) added) :: before.scopes :=
  settles.scopes

/-- What happened inside an error scope that is closed again leaves the outer ones alone. -/
theorem concludes_closeScope {scope : ErrorScope} (inside : before.openScope.Ascribes after added)
    (scopes : after.scopes = scope :: before.scopes) : before.Concludes after.closeScope := by
  refine ⟨added, ⟨inside.trace, inside.policy, inside.attributed.outside, inside.errors⟩, ?_,
    inside.attributed.absorbed⟩
  rw [inside.attributed.handedTo_eq_nil (Nat.lt_succ_self before.scopes.length),
    ErrorScope.recordInnermost_nil, closeScope, scopes]
  rfl

/-- What is recorded of a protected body: the faults that came to its error scope while it was
walked and, if the body itself failed, the fault of that. -/
theorem protected_cases (walk : (program.process fuel body).IsAttributable id)
    (before : Machine World) :
    match processProtected (program.process fuel) body before with
    | .done (_, caught) after => before.Concludes after ∧ ∃ added own,
        after.trace = added ++ before.trace ∧
        Attributed before.monitor.policy (before.scopes.length + 1) added ∧
        caught = (({ } : ErrorScope).recordAll
          (handedTo (before.scopes.length + 1) added ++ own)).error ∧
        (own = [] ∨ ∃ cause reached,
          program.process fuel body before.openScope = .failed (.ofCause cause) reached ∧
            own = [(.ofCause cause, before.monitor.top?)])
    | .failed fault after => Escapes before after fault
    | .exhausted after => ∃ added, before.Ascribes after added := by
  have walked := walk before.openScope
  rw [processProtected, protect_apply]
  cases ended : program.process fuel body before.openScope with
  | done flow reached =>
    rw [ended] at walked
    obtain ⟨added, settles⟩ := walked
    have scopes : reached.scopes = _ := scopes_of_openScope settles
    rw [runProtected_done _ ended]
    refine ⟨concludes_closeScope settles.toAscribes scopes, added, [], settles.trace,
      settles.attributed, ?_, .inl rfl⟩
    rw [recordedError?, scopes, List.append_nil]
    rfl
  | exhausted reached =>
    rw [ended] at walked
    obtain ⟨added, ascribes⟩ := walked
    rw [runProtected_exhausted _ ended]
    exact ⟨added, ascribes.trace, ascribes.policy, ascribes.attributed.outside, ascribes.errors⟩
  | failed fault reached =>
    rw [ended] at walked
    have top : reached.monitor.top? = before.openScope.monitor.top? := top?_of_failed ended
    cases walked with
    -- Inside an error scope no fault is on its way out.
    | passing _ _ unguarded => cases unguarded
    | @fresh cause concludes =>
      have blameless : cause.isMisuse = false := blameless_of_failed ended
      obtain ⟨added, settles⟩ := concludes
      have scopes : reached.scopes = _ := scopes_of_openScope settles
      rw [runProtected_failed _ ended, Exec.bind_apply]
      cases cancelled : cause.isCancellation with
      | true =>
        have cancellation : (Fault.ofCause cause).isCancellation = true := cancelled
        rw [hand_cancellation cancellation]
        exact .fresh (concludes_closeScope settles.toAscribes scopes)
      | false =>
        rw [hand_guarded blameless cancelled scopes]
        refine ⟨concludes_closeScope (settles.toAscribes.withScopes _) rfl, added,
          [(.ofCause cause, before.monitor.top?)], settles.trace, settles.attributed, ?_,
          .inr ⟨cause, reached, rfl, rfl⟩⟩
        rw [ErrorScope.recordAll_append]
        exact congrArg (fun top => (ErrorScope.record _ (.ofCause cause) top).error) top

end

/-- The errors that an error block catches come from statements that handed them on first of all,
while its error scope was the innermost one, or from the body itself. -/
theorem caught_cases {body : NodeId} {flow : Flow} {primary : Fault} {before after : Machine World}
    (walk : (program.process fuel body).IsAttributable id)
    (caught : processProtected (program.process fuel) body before =
      .done (flow, some primary) after) :
    ∃ added, after.trace = added ++ before.trace ∧
      ∀ error ∈ { primary with suppressed := [] } :: primary.suppressed,
        (∃ cause statement, error = .raisedAt cause statement ∧
          .handed statement (some statement) (before.scopes.length + 1) (.ofCause cause) ∈
            added) ∨
        ∃ cause reached,
          program.process fuel body before.openScope = .failed (.ofCause cause) reached ∧
            error = (Fault.ofCause cause).attributedTo before.monitor.top? := by
  have cases := protected_cases walk before
  rw [caught] at cases
  obtain ⟨-, added, own, trace, attributed, recorded, ownCases⟩ := cases
  have handedCases {handed : Fault × Option NodeId}
      (member : handed ∈ handedTo (before.scopes.length + 1) added ++ own) :
      (∃ cause statement, handed = (.ofCause cause, some statement) ∧
        .handed statement (some statement) (before.scopes.length + 1) (.ofCause cause) ∈ added) ∨
      ∃ cause reached,
        program.process fuel body before.openScope = .failed (.ofCause cause) reached ∧
          handed = (.ofCause cause, before.monitor.top?) := by
    rcases List.mem_append.mp member with inside | last
    · exact .inl (attributed.fresh_of_mem_handedTo (.inl (Nat.succ_ne_zero _)) inside)
    · rcases ownCases with rfl | ⟨cause, reached, failed, rfl⟩
      · cases last
      · exact .inr ⟨cause, reached, failed, List.mem_singleton.mp last⟩
  have plain : ∀ handed ∈ handedTo (before.scopes.length + 1) added ++ own,
      handed.1.suppressed = [] := by
    intro handed member
    rcases handedCases member with ⟨cause, statement, rfl, -⟩ | ⟨cause, reached, -, rfl⟩ <;> rfl
  refine ⟨added, trace, fun error listed => ?_⟩
  rw [ErrorScope.errors_recordAll plain recorded.symm] at listed
  obtain ⟨handed, member, rfl⟩ := List.mem_map.mp listed
  rcases handedCases member with ⟨cause, statement, rfl, happened⟩ | ⟨cause, reached, failed, rfl⟩
  · exact .inl ⟨cause, statement, rfl, happened⟩
  · exact .inr ⟨cause, reached, failed, rfl⟩

/-- Inside a body that is protected the error scope is one level further in. -/
theorem attributable_processProtected {body : NodeId}
    (walk : (program.process fuel body).IsAttributable id) :
    (processProtected (program.process fuel) body).IsAttributable id := by
  intro before
  have cases := protected_cases walk before
  cases ended : processProtected (program.process fuel) body before with
  | done answer after =>
    rw [ended] at cases
    exact cases.1
  | failed fault after =>
    rw [ended] at cases
    exact cases
  | exhausted after =>
    rw [ended] at cases
    exact cases

/-- A look at the stop signal hands nothing on and never fails. -/
theorem attributable_poll : (poll : Exec (Machine World) Bool).IsAttributable id := by
  refine .of_uneventful (fun before => ?_) fun before fault after failed => ?_
  · rw [poll_apply]
    exact .look before
  · rw [poll_apply] at failed
    cases failed

/-- Attributable computations around the walks with some fuel; the other side is left open. -/
def attributing (program : Program World) (fuel : Nat) :
    WalkRules program (program.process fuel) (program.process fuel) where
  Related left _ := left.IsAttributable id
  pure := .pure
  failFor _ := .failFor _
  bind := .bind
  checkpoint stop go := by
    apply Exec.IsAttributable.bind attributable_poll
    rintro (_ | _)
    · exact go
    · exact stop
  read _ := .state fun _ => .pure _
  write site name cell value := by
    refine .of_uneventful (.write site name cell value) fun before fault after failed => ?_
    simp only [Machine.write] at failed
    split at failed <;> cases failed
    exact ⟨_, rfl⟩
  invoke construct arguments := by
    refine .of_uneventful (.invoke construct arguments) fun before fault after failed => ?_
    simp only [Machine.invoke] at failed
    split at failed <;> cases failed
    exact ⟨_, rfl⟩
  processStatement := attributable_processStatement
  processProtected := attributable_processProtected

/-- The induction is on the fuel; a call enters a scope and leaves it around walks with less. -/
theorem attributable_process (program : Program World) (fuel : Nat) (node : NodeId) :
    (program.process fuel node).IsAttributable id := by
  induction fuel generalizing node with
  | zero => exact .exhausted
  | succ fuel inductionHypothesis =>
    let rules := program.attributing fuel
    have walks (node : NodeId) : rules.Walks node := inductionHypothesis node
    apply rules.step node
    · exact fun child _ => walks child
    · exact fun _ _ _ => walks node
    · intro callee _ _ function _ values
      have inside := rules.runFunction (fun _ _ _ _ node _ => walks node) (walks function.body)
        values
      exact Exec.IsAttributable.within _ inside

/-- Evaluations hand on as walks do. -/
theorem attributable_eval (program : Program World) (fuel : Nat) (node : NodeId) :
    (program.eval fuel node).IsAttributable id :=
  (program.attributing fuel).evaluate (program.attributable_process fuel node)

/-- Statements that are processed as a block hand on as walks do. -/
theorem attributable_processStatements (program : Program World) (fuel : Nat)
    (statements : List NodeId) : (program.processStatements fuel statements).IsAttributable id :=
  (program.attributing fuel).processBlock fun statement _ =>
    program.attributable_process fuel statement

/-- The loop over the declarations of a library hands on as walks do. -/
theorem attributable_runDeclarations (program : Program World) (fuel : Nat)
    (statements : List NodeId) :
    (program.runDeclarations (program.process fuel) statements).IsAttributable id :=
  (program.attributing fuel).runDeclarations
    (fun statement => attributable_runDeclaration (program.attributable_process fuel statement))
    statements

section Unattributed

variable {fault : Fault} {after : Machine World}

/-- A sequence fails at its first part, or after it. -/
theorem failed_cases {Next : Type} {first : Exec (Machine World) Result}
    {next : Result → Exec (Machine World) Next}
    (failed : (first >>= next) machine = .failed fault after) :
    first machine = .failed fault after ∨
      ∃ result reached, first machine = .done result reached ∧
        next result reached = .failed fault after := by
  rw [Exec.bind_apply] at failed
  cases ended : first machine with
  | done result reached =>
    rw [ended] at failed
    exact .inr ⟨result, reached, rfl, failed⟩
  | failed raised reached =>
    rw [ended] at failed
    cases failed
    exact .inl rfl
  | exhausted reached =>
    rw [ended] at failed
    cases failed

/-- Whatever handing on a failure fails with has a node, if one is on top of the call stack. -/
theorem node_of_hand {passed : Fault} (blameless : fault.isMisuse = false)
    (uncancelled : fault.isCancellation = false) (top : machine.monitor.top? = some statement)
    (failed : Machine.hand fault machine = .failed passed after) : passed.node ≠ none := by
  have attributed : (fault.attributedTo machine.monitor.top?).isMisuse = false := blameless
  simp only [Machine.hand, Machine.handUncaught, blameless, uncancelled, attributed,
    Bool.false_eq_true, Bool.or_self, if_false] at failed
  split at failed
  · split at failed <;> cases failed
    rw [top]
    cases node : fault.node <;> simp [Fault.attributedTo, node]
  · cases failed

/-- A failure that comes back from the monitor has got a node there. -/
theorem node_of_settleAs {done : Flow → Result} {stopped absorbed : Result}
    (top : machine.monitor.top? = some statement)
    (failed : settleAs (program.process fuel) statement done stopped absorbed machine =
      .failed fault after) : fault.node ≠ none := by
  simp only [settleAs, Exec.bind_apply, Exec.attempt] at failed
  cases ended : program.process fuel statement machine with
  | done flow reached =>
    rw [ended] at failed
    cases failed
  | exhausted reached =>
    rw [ended] at failed
    cases failed
  | failed raised reached =>
    rw [ended] at failed
    cases cancelled : raised.isCancellation with
    | true =>
      simp only [cancelled, if_true] at failed
      cases failed
    | false =>
      simp only [cancelled, Bool.false_eq_true, if_false] at failed
      rcases failed_cases failed with handed | ⟨_, _, _, settled⟩
      · let noted := reached.note
          (.handed statement reached.monitor.top? reached.scopes.length raised)
        have onTop : noted.monitor.top? = some statement := (top?_of_failed ended).trans top
        exact node_of_hand (blameless_of_failed ended) cancelled onTop handed
      · cases settled

/-- Leaving a node does not take the node from a failure. -/
theorem node_of_tracked {body : Exec (Machine World) Result}
    (attributed : ∀ entered reached : Machine World, entered.monitor.top? = some statement →
      body entered = .failed fault reached → fault.node ≠ none)
    (failed : (do
      Exec.update (Machine.enter statement)
      Exec.ensuring body (Machine.leave statement) : Exec (Machine World) Result) machine =
        .failed fault after) : fault.node ≠ none := by
  simp only [Exec.bind_apply, Exec.update, Exec.ensuring] at failed
  cases ended : body (machine.enter statement) with
  | done result reached =>
    rw [ended] at failed
    cases failed
  | exhausted reached =>
    rw [ended] at failed
    cases failed
  | failed raised reached =>
    rw [ended] at failed
    cases failed
    exact attributed _ reached (top?_enter statement machine) ended

/-- A statement of a block fails without a node only if it does not exist. -/
theorem node_of_processStatement
    (failed : program.processStatement (program.process fuel) statement machine =
      .failed fault after) (unattributed : fault.node = none) :
    program.tree.instruction statement = .error fault := by
  simp only [processStatement] at failed
  cases found : program.tree.instruction statement with
  | error missing =>
    rw [found] at failed
    cases failed
    rfl
  | ok instruction =>
    rw [found] at failed
    change (if instruction.isTracked then _ else runStatement (program.process fuel) statement)
      machine = _ at failed
    split at failed
    · refine absurd unattributed (node_of_tracked (fun entered reached top ended => ?_) failed)
      rw [Exec.bind_apply, poll_apply] at ended
      dsimp only at ended
      split at ended
      · cases ended
      · exact node_of_settleAs ((top?_look entered).trans top) ended
    · next untracked =>
      rcases runStatement_untracked found untracked machine with ended | ended
      · rw [ended] at failed
        cases failed
      · rw [ended] at failed
        cases failed

/-- A declaration that fails does so with a node, because it stood on the call stack. -/
theorem node_of_runDeclaration
    (failed : runDeclaration (program.process fuel) statement machine = .failed fault after) :
    fault.node ≠ none := by
  rw [runDeclaration_eq] at failed
  exact node_of_tracked (fun entered reached top ended => node_of_settleAs top ended) failed

/-- A block fails without a node only at one of its statements, which does not exist. -/
theorem node_of_processStatements {statements : List NodeId}
    (failed : program.processStatements fuel statements machine = .failed fault after)
    (unattributed : fault.node = none) :
    ∃ statement ∈ statements, program.tree.instruction statement = .error fault := by
  simp only [processStatements] at failed
  induction statements generalizing machine with
  | nil => cases failed
  | cons statement rest inductionHypothesis =>
    rw [processBlock, Exec.bind_apply, poll_apply] at failed
    dsimp only at failed
    split at failed
    · cases failed
    · rcases failed_cases failed with here | ⟨flow, reached, -, later⟩
      · exact ⟨statement, List.mem_cons_self, node_of_processStatement here unattributed⟩
      · split at later
        · obtain ⟨other, listed, missing⟩ := inductionHypothesis later
          exact ⟨other, List.mem_cons_of_mem statement listed, missing⟩
        · cases later

/-- The loop over the declarations of a library fails without a node only at a statement that does
not exist. -/
theorem node_of_runDeclarations {statements : List NodeId}
    (failed : program.runDeclarations (program.process fuel) statements machine =
      .failed fault after) (unattributed : fault.node = none) :
    ∃ statement ∈ statements, program.tree.instruction statement = .error fault := by
  induction statements generalizing machine with
  | nil => cases failed
  | cons statement rest inductionHypothesis =>
    have later {reached : Machine World}
        (failed : program.runDeclarations (program.process fuel) rest reached =
          .failed fault after) :
        ∃ other ∈ statement :: rest, program.tree.instruction other = .error fault := by
      obtain ⟨other, listed, missing⟩ := inductionHypothesis failed
      exact ⟨other, List.mem_cons_of_mem statement listed, missing⟩
    rw [runDeclarations, Exec.bind_apply, poll_apply] at failed
    dsimp only at failed
    split at failed
    · cases failed
    · cases found : program.tree.instruction statement with
      | error missing =>
        rw [found] at failed
        cases failed
        exact ⟨statement, List.mem_cons_self, found⟩
      | ok instruction =>
        rw [found] at failed
        change (if instruction.isDeclaration then _ >>= _ else program.runDeclarations _ rest :
          Exec (Machine World) Unit) machine.look = _ at failed
        split at failed
        · rcases failed_cases failed with here | ⟨stopped, reached, -, settled⟩
          · exact absurd unattributed (node_of_runDeclaration here)
          · split at settled
            · cases settled
            · exact later settled
        · exact later failed

end Unattributed

end Program

namespace ScriptGraph

variable {graph : ScriptGraph World}

/-- What is attributable in the machine is so in the workspace. -/
theorem attributable_onMachine {body : Exec (Machine World) Result}
    (attributable : body.IsAttributable id) :
    (Workspace.onMachine body).IsAttributable Workspace.machine := by
  intro before
  have inside := attributable before.machine
  simp only [Workspace.onMachine, Exec.zoom]
  cases ended : body before.machine <;> rw [ended] at inside <;> exact inside

/-- What is not part of the machine changes nothing about faults. -/
theorem concludes_of_apart {change : Workspace World → Workspace World}
    (apart : ∀ workspace machine,
      change { workspace with machine } = { change workspace with machine })
    (workspace : Workspace World) : workspace.machine.Concludes (change workspace).machine := by
  rw [Workspace.machine_of_apart apart]
  exact (Uneventful.refl _).concludes

/-- Scripts are attributable; the other side is left open. -/
def attributing (graph : ScriptGraph World) (fuel : Nat) : graph.Congruence fuel fuel where
  Related left _ := left.IsAttributable Workspace.machine
  pure := .pure
  failFor := .failFor
  bind := .bind
  inspect next _ := .state next
  update apart := .update (concludes_of_apart apart)
  ensuring body apart := by
    refine fun before => Attributable.ensuring (body before) (concludes_of_apart apart) ?_
    intro fault workspace escapes
    rwa [Workspace.machine_of_apart apart]
  bindLibrary number layout := by
    refine .update fun workspace => Uneventful.concludes ?_
    exact { Uneventful.refl workspace.machine with }
  declaring number status libraries layout := by
    apply attributable_onMachine
    apply Exec.IsAttributable.withinFrames
    apply Exec.IsAttributable.within
    apply Exec.IsAttributable.bind
    · exact .update fun machine => (Uneventful.note rfl machine).concludes
    · exact fun _ => Program.attributable_runDeclarations _ fuel _
  rooting number status libraries layout := by
    apply attributable_onMachine
    apply Exec.IsAttributable.withinFrames
    apply Exec.IsAttributable.within
    apply Exec.IsAttributable.bind
    · exact .update fun machine => (Uneventful.note rfl machine).concludes
    · exact fun _ => Program.attributable_process _ fuel _

end ScriptGraph

/-- Whatever is run, on any machine, and in particular on one with a new monitor: blocks and the
loop over declarations hand on the failure of a statement while the statement is on top of the call
stack. A run that fails does so with a fault that no statement handed on, or with one that its
origin handed on first and that has come out of everything around it unchanged. What the monitor has
recorded, and what an error scope has recorded of its statements, carries the statement that handed
it on first. Neither loop fails without a node, except at one of its statements that does not
exist. -/
theorem error_attribution (program : Program World) (graph : ScriptGraph World) (fuel : Nat) :
    (∀ node, (program.process fuel node).IsAttributable id ∧
      (program.eval fuel node).IsAttributable id) ∧
    (∀ statements, (program.processStatements fuel statements).IsAttributable id ∧
      (program.runDeclarations (program.process fuel) statements).IsAttributable id) ∧
    (∀ number, (graph.process fuel number).IsAttributable Workspace.machine) ∧
    (∀ number skipSelf, (graph.prepare fuel number skipSelf).IsAttributable Workspace.machine) ∧
    (∀ number before,
      let after := (graph.process fuel number before).state.machine
      ∃ added, after.trace = added ++ before.machine.trace ∧
        ∀ error ∈ after.monitor.errors, error ∈ before.machine.monitor.errors ∨
          ∃ cause statement, error = .raisedAt cause statement ∧
            .handed statement (some statement) 0 (.ofCause cause) ∈ added) ∧
    (∀ body before flow primary after,
      Program.processProtected (program.process fuel) body before =
        .done (flow, some primary) after →
      ∃ added, after.trace = added ++ before.trace ∧
        ∀ error ∈ { primary with suppressed := [] } :: primary.suppressed,
          (∃ cause statement, error = .raisedAt cause statement ∧
            .handed statement (some statement) (before.scopes.length + 1) (.ofCause cause) ∈
              added) ∨
          ∃ cause reached,
            program.process fuel body before.openScope = .failed (.ofCause cause) reached ∧
              error = (Fault.ofCause cause).attributedTo before.monitor.top?) ∧
    ∀ statements before fault after,
      program.processStatements fuel statements before = .failed fault after ∨
        program.runDeclarations (program.process fuel) statements before = .failed fault after →
      fault.node = none → ∃ statement ∈ statements,
        program.tree.get? statement = none ∧ fault = .ofCause (.unknownNode statement) := by
  refine ⟨fun node => ⟨program.attributable_process fuel node, program.attributable_eval fuel node⟩,
    fun statements => ⟨program.attributable_processStatements fuel statements,
      program.attributable_runDeclarations fuel statements⟩,
    (graph.attributing fuel).process, (graph.attributing fuel).prepare, ?_,
    fun body before flow primary after =>
      Program.caught_cases (program.attributable_process fuel body), ?_⟩
  · intro number before after
    have attributable := (graph.attributing fuel).process number before
    obtain ⟨added, ascribes⟩ := Attributable.ascribes attributable
    exact ⟨added, ascribes.trace, fun error => ascribes.error_cases⟩
  · intro statements before fault after failed unattributed
    obtain ⟨statement, listed, missing⟩ :
        ∃ statement ∈ statements, program.tree.instruction statement = .error fault :=
      failed.elim (Program.node_of_processStatements · unattributed)
        (Program.node_of_runDeclarations · unattributed)
    refine ⟨statement, listed, ?_, Program.fault_of_instruction_error missing⟩
    simp only [Tree.instruction] at missing
    split at missing
    · cases missing
    · next absent => exact absent

/-- The statement that the fault of a failed computation is attributed to. -/
def Outcome.blamed? {State : Type} : Outcome State Result → Option NodeId
  | .failed fault _ => fault.node
  | _ => none

/-- A block that calls a function whose only statement fails. -/
def failureInside : List (Directive Unit) :=
  [.node (.expression (.construct ⟨"broken", 0, fun _ host => (.error "out of order", host)⟩ [])),
    .node (.statement (.block [⟨0⟩])),
    .node (.statement (.declareFunction ⟨"f", [], ⟨1⟩⟩)),
    .node (.expression (.call ⟨2⟩ [])),
    .node (.statement (.block [⟨3⟩])),
    .root [⟨2⟩, ⟨4⟩]]

/-- The failing statement hands its failure on, and so do the call and the block around it. What
the script fails with is still attributed to the failing statement. -/
theorem error_attribution_nested :
    let graph := ScriptGraph.sole failureInside ⟨5⟩
    let before : Workspace Unit := { machine := { host := { world := () } } }
    let ended := graph.process 9 0 before
    (handedTo 0 ended.state.machine.trace).map Prod.snd = [some ⟨0⟩, some ⟨3⟩, some ⟨4⟩] ∧
      ∃ cause after, ended = .failed (.raisedAt cause ⟨0⟩) after ∧
        Passing cause ⟨0⟩ after.machine.trace := by
  intro graph before ended
  have handed : (handedTo 0 ended.state.machine.trace).map Prod.snd =
      [some ⟨0⟩, some ⟨3⟩, some ⟨4⟩] := by
    decide +kernel
  have failedAt : ended.blamed? = some ⟨0⟩ := by
    decide +kernel
  obtain ⟨-, -, scripts, -⟩ := error_attribution { tree := (graph.script 0).tree } graph 9
  have attributable : Attributable Workspace.machine before ended := scripts 0 before
  refine ⟨handed, ?_⟩
  clear_value ended
  cases outcome : ended with
  | done flow after =>
    rw [outcome] at failedAt
    cases failedAt
  | exhausted after =>
    rw [outcome] at failedAt
    cases failedAt
  | failed fault after =>
    rw [outcome] at failedAt attributable
    cases attributable with
    | fresh => cases failedAt
    | @passing cause _ added ascribes passing =>
      cases failedAt
      have trace : after.machine.trace = added := ascribes.trace.trans (List.append_nil added)
      exact ⟨cause, after, rfl, trace ▸ passing⟩

end Treewalk
