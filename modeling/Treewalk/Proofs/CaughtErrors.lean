import Treewalk.Proofs.ActivationSymmetry
import Treewalk.Proofs.Records

/-!
# Caught errors

An error block hands a failure of its body to its own error scope and goes on with what the scope
has recorded. There is one way past this. A recorded error makes the scope ask everything inside it
to stop, so a call in the body that was running when the error was recorded ends in the cancellation
signal. A block turns the signal into a return; a body that is no block may end in it. The scope
does not take the signal, the error block fails with it at once, and the recorded error is gone with
the scope.

`caught_error_handled` says exactly which of the two happens, and that a body that is a block never
loses an error. That the evaluator raises no misuse, which a scope would not take either, is part of
the argument.
-/

namespace Treewalk

variable {World Result : Type}

/-- The computation ended in the signal of a stop request. -/
def Outcome.isCancelled {State : Type} : Outcome State Result → Bool
  | .failed fault _ => fault.isCancellation
  | _ => false

namespace Machine

/-- Failing for certain causes only. -/
def raising (Allowed : Cause → Prop) : Contract (Machine World) where
  Raised fault := Allowed fault.cause
  Finished _ _ := True
  Reached _ _ := True
  refl _ := trivial
  trans _ _ := trivial
  reached_of_finished _ := trivial
  reached_trans _ _ := trivial

variable {Allowed : Cause → Prop}

/-- A look at the stop signal raises nothing. -/
theorem raising_poll : (raising Allowed).Kept (poll : Exec (Machine World) Bool) :=
  Contract.kept_poll (fun _ => trivial) fun _ _ => trivial

/-- Whoever routes a fault passes on its cause. -/
theorem raising_hand {fault : Fault} (raised : Allowed fault.cause) :
    (raising Allowed).Kept (hand fault : Exec (Machine World) Unit) := by
  intro machine
  rcases hand_cases fault machine with ⟨passed, cause, ended⟩ | ⟨after, ended, -⟩
  · rw [ended]
    refine ⟨?_, trivial⟩
    change Allowed passed.cause
    rw [cause]
    exact raised
  · rw [ended]
    trivial

/-- What is handed on comes out, if at all, with the cause it went in with. -/
theorem raising_handFrom (statement : NodeId) {fault : Fault} (raised : Allowed fault.cause) :
    (raising Allowed).Kept (handFrom statement fault : Exec (Machine World) Unit) :=
  fun machine => raising_hand raised (machine.note _)

/-- Nothing else comes out of a statement on the call stack than out of its body. -/
theorem raising_tracked (node : NodeId) {body : Exec (Machine World) Result}
    (kept : (raising Allowed).Kept body) :
    (raising Allowed).Kept
      (do
        Exec.update (Machine.enter node)
        Exec.ensuring body (Machine.leave node)) :=
  Contract.kept_tracked node kept (fun _ _ _ => trivial) (fun _ _ _ => trivial)

/-- The evaluator blames nobody for misuse. -/
theorem blameless_upheld (program : Program World) :
    (raising (·.isMisuse = false)).Upheld program where
  raises_ofCause blameless := blameless
  poll := raising_poll
  write site name cell value := by
    intro machine
    simp only [write]
    split
    · trivial
    · exact ⟨rfl, trivial⟩
  invoke construct arguments := by
    intro machine
    simp only [invoke]
    split
    · trivial
    · exact ⟨rfl, trivial⟩
  hand raised := raising_hand raised
  handFrom statement _ raised _ := raising_handFrom statement raised
  tracked node _ _ kept := raising_tracked node kept
  protect kept := Contract.kept_protect kept (fun _ _ _ => trivial) (fun _ _ _ => trivial)
  call _ _ _ _ _ _ kept := fun _ =>
    Contract.fulfilled_within _ (kept _) (fun _ => rfl) (fun _ => trivial) (fun _ _ => trivial)
      (fun _ _ => trivial)

/-- No error scope takes a stop request. -/
theorem hand_cancellation {fault : Fault} (cancellation : fault.isCancellation = true)
    (machine : Machine World) : hand fault machine = .failed fault machine := by
  simp only [hand, handUncaught, cancellation, Bool.or_true, if_true]
  split <;> rfl

/-- Without an open error scope, routing a fault opens none. -/
theorem scopes_handUncaught (fault : Fault) (machine : Machine World) :
    (handUncaught fault machine).state.scopes = machine.scopes := by
  simp only [handUncaught]
  split
  · rfl
  · split
    · rfl
    · split
      · rfl
      · rfl
      · exact (SameRecords.raise .policy _).scopes

/-- A failure after which the innermost error scope has something recorded was taken by it. -/
theorem hand_done_of_recorded {fault recorded : Fault} (blameless : fault.isMisuse = false)
    (failure : fault.isCancellation = false) {machine : Machine World}
    (found : (hand fault machine).state.recordedError? = some recorded) :
    hand fault machine = .done () (hand fault machine).state := by
  cases scopes : machine.scopes with
  | nil =>
    have unscoped : (hand fault machine).state.scopes = [] := by
      simp only [hand, scopes]
      exact (scopes_handUncaught fault machine).trans scopes
    rw [recordedError?, unscoped] at found
    cases found
  | cons scope outer => simp [hand, scopes, blameless, failure, Outcome.state]

end Machine

namespace Program

open Contract Machine

variable (program : Program World) (walk : Walk World)

/-- A body that is walked to its end needs no more settling. -/
theorem runProtected_done {body : NodeId} {flow : Flow} {machine after : Machine World}
    (ended : walk body machine = .done flow after) :
    runProtected walk body machine = .done flow after := by
  simp only [runProtected, Exec.bind_apply, Exec.attempt, ended]
  rfl

/-- A body that fails hands on its failure. -/
theorem runProtected_failed {body : NodeId} {fault : Fault} {machine after : Machine World}
    (ended : walk body machine = .failed fault after) :
    runProtected walk body machine = (hand fault >>= fun _ => pure (.resume none)) after := by
  simp only [runProtected, Exec.bind_apply, Exec.attempt, ended]

/-- After a failure was handed on, nothing else happens to the machine. -/
theorem state_hand_of_final? {fault : Fault} {machine after : Machine World}
    (ended : ((hand fault >>= fun _ => pure (.resume none) : Exec (Machine World) Flow)
      machine).final? = some after) : (hand fault machine).state = after := by
  rw [Exec.bind_apply] at ended
  cases handed : hand fault machine with
  | done result settled =>
    rw [handed] at ended
    cases ended
    rfl
  | failed passed settled =>
    rw [handed] at ended
    cases ended
    rfl
  | exhausted settled =>
    rw [handed] at ended
    cases ended

/-- A body that is cut off is not settled. -/
theorem runProtected_exhausted {body : NodeId} {machine after : Machine World}
    (ended : walk body machine = .exhausted after) :
    runProtected walk body machine = .exhausted after := by
  simp only [runProtected, Exec.bind_apply, Exec.attempt, ended]

/-- With an error recorded, the error block goes on to handle it. -/
theorem processErrorBlock_caught {parts : ErrorBlock} {flow : Flow} {fault : Fault}
    {before after : Machine World}
    (ended : runProtected walk parts.body before.openScope = .done flow after)
    (recorded : after.recordedError? = some fault) :
    program.processErrorBlock walk parts before =
      program.handleCaught walk parts fault after.closeScope := by
  simp only [processErrorBlock, processProtected, Exec.bind_apply, protect_apply, ended, recorded]

/-- What the error scope does not take ends the error block. -/
theorem processErrorBlock_failed {parts : ErrorBlock} {fault : Fault}
    {before after : Machine World}
    (ended : runProtected walk parts.body before.openScope = .failed fault after) :
    program.processErrorBlock walk parts before = .failed fault after.closeScope := by
  simp only [processErrorBlock, processProtected, Exec.bind_apply, protect_apply, ended]

/-- Whatever a statement ends in, its settled end is no stop request. -/
theorem uncancelled_runStatement (statement : NodeId) :
    (raising (·.isCancellation = false)).Kept (runStatement walk statement) := by
  apply kept_bind
  · intro machine
    simp only [Exec.attempt]
    split <;> trivial
  · intro ended
    cases ended with
    | ok flow => exact kept_pure flow
    | error fault =>
      simp only [settle]
      split
      · exact kept_pure _
      · next failure =>
        apply kept_bind (raising_handFrom statement (Bool.eq_false_iff.mpr failure))
        intro _
        exact kept_pure _

/-- The statement of a block turns the cancellation signal into a return. -/
theorem uncancelled_processStatement (statement : NodeId) :
    (raising (·.isCancellation = false)).Kept (program.processStatement walk statement) := by
  have run := uncancelled_runStatement walk statement
  simp only [processStatement]
  cases found : program.tree.instruction statement with
  | error fault =>
    rw [fault_of_instruction_error found]
    exact kept_fail rfl
  | ok instruction =>
    apply kept_bind (kept_pure instruction)
    intro _
    split
    · exact raising_tracked statement (kept_checkpoint raising_poll (kept_pure _) run)
    · exact run

/-- A block never ends in the signal of a stop request. -/
theorem uncancelled_processBlock (statements : List NodeId) :
    (raising (·.isCancellation = false)).Kept (program.processBlock walk statements) := by
  induction statements with
  | nil => exact kept_pure _
  | cons statement rest inductionHypothesis =>
    apply kept_checkpoint raising_poll (kept_pure _)
    apply kept_bind (uncancelled_processStatement program walk statement)
    intro flow
    split
    · exact inductionHypothesis
    · exact kept_pure flow

/-- The walk of a block does not end in the cancellation signal. -/
theorem isCancelled_process_block {fuel : Nat} {node : NodeId} {statements : List NodeId}
    (block : program.tree.instruction node = .ok (.statement (.block statements)))
    (machine : Machine World) : (program.process fuel node machine).isCancelled = false := by
  cases fuel with
  | zero => rfl
  | succ fuel =>
    have walked : program.process (fuel + 1) node machine =
        program.processBlock (program.process fuel) statements machine := by
      simp only [process, step, block]
      rfl
    have kept := program.uncancelled_processBlock (program.process fuel) statements machine
    rw [walked]
    generalize program.processBlock (program.process fuel) statements machine = ended at kept ⊢
    cases ended with
    | done flow after => rfl
    | failed fault after => exact kept.1
    | exhausted after => rfl

end Program

/-- An error that the scope of an error block has recorded by the end of the body is handled exactly
when the body itself did not end in the signal of a stop request: otherwise the error block fails
with the signal at once, and the error is dropped. A body that is a block never drops one. -/
theorem caught_error_handled (program : Program World) (fuel : Nat) (parts : ErrorBlock)
    {before after : Machine World} {fault : Fault}
    (ended : (Program.runProtected (program.process fuel) parts.body before.openScope).final? =
      some after)
    (recorded : after.recordedError? = some fault) :
    ((program.process fuel parts.body before.openScope).isCancelled = false →
      program.processErrorBlock (program.process fuel) parts before =
        program.handleCaught (program.process fuel) parts fault after.closeScope) ∧
    ((program.process fuel parts.body before.openScope).isCancelled = true →
      ∃ signal, signal.isCancellation = true ∧
        program.processErrorBlock (program.process fuel) parts before =
          .failed signal after.closeScope) ∧
    (∀ statements, program.tree.instruction parts.body = .ok (.statement (.block statements)) →
      (program.process fuel parts.body before.openScope).isCancelled = false) := by
  refine ⟨?_, ?_, fun statements block => program.isCancelled_process_block block _⟩
  · intro uncancelled
    cases walked : program.process fuel parts.body before.openScope with
    | done flow reached =>
      have settled := Program.runProtected_done _ walked
      rw [settled] at ended
      cases ended
      exact program.processErrorBlock_caught _ settled recorded
    | failed failure reached =>
      have blameless := (Machine.blameless_upheld program).process fuel parts.body before.openScope
      rw [walked] at blameless uncancelled
      have settled := Program.runProtected_failed _ walked
      have taken : Machine.hand failure reached = .done () after := by
        have same := Program.state_hand_of_final? (settled ▸ ended)
        rw [← same] at recorded ⊢
        exact Machine.hand_done_of_recorded blameless.1 uncancelled recorded
      rw [Exec.bind_apply, taken] at settled
      exact program.processErrorBlock_caught _ settled recorded
    | exhausted reached =>
      rw [Program.runProtected_exhausted _ walked] at ended
      cases ended
  · intro cancelled
    cases walked : program.process fuel parts.body before.openScope with
    | failed signal reached =>
      rw [walked] at cancelled
      have settled := Program.runProtected_failed _ walked
      rw [Exec.bind_apply, Machine.hand_cancellation cancelled] at settled
      rw [settled] at ended
      cases ended
      exact ⟨signal, cancelled, program.processErrorBlock_failed _ settled⟩
    | done flow reached =>
      rw [walked] at cancelled
      cases cancelled
    | exhausted reached =>
      rw [walked] at cancelled
      cases cancelled

/-- A function whose only statement fails, a call of it, a block around the call, and a node to
process after an error. -/
def failingBody : Program Unit where
  tree :=
    ((Builder.applyAll { }
      [.node (.statement (.declareFunction ⟨"f", [], ⟨1⟩⟩)),
        .node (.statement (.block [⟨2⟩])),
        .node (.expression (.read ⟨9⟩)),
        .node (.expression (.call ⟨0⟩ [])),
        .node (.statement (.block [⟨3⟩])),
        .node (.expression (.literal .null))]).getD { }).finish 0

/-- The error block with the given body. -/
def handledBy (body : NodeId) : ErrorBlock :=
  ⟨body, some ⟨5⟩, none, none, none⟩

/-- With the block as its body, the error block handles the error. -/
theorem caught_error_handled_in_block :
    let before : Machine Unit := { host := { world := () } }
    ∃ fault after, after.recordedError? = some fault ∧
      (Program.runProtected (failingBody.process 5) ⟨4⟩ before.openScope).final? = some after ∧
      failingBody.processErrorBlock (failingBody.process 5) (handledBy ⟨4⟩) before =
        failingBody.handleCaught (failingBody.process 5) (handledBy ⟨4⟩) fault
          after.closeScope := by
  intro before
  refine ⟨_, _, rfl, rfl, ?_⟩
  have handled := caught_error_handled failingBody 5 (handledBy ⟨4⟩)
    (show (Program.runProtected (failingBody.process 5) ⟨4⟩ before.openScope).final? = some _
      from rfl) rfl
  exact handled.1 (handled.2.2 _ rfl)

/-- With the bare call as its body, the error block fails at once, though its scope has recorded the
error and handling it would have resumed. -/
theorem caught_error_lost_in_call :
    let before : Machine Unit := { host := { world := () } }
    ∃ fault after, after.recordedError? = some fault ∧
      (Program.runProtected (failingBody.process 5) ⟨3⟩ before.openScope).final? = some after ∧
      failingBody.processErrorBlock (failingBody.process 5) (handledBy ⟨3⟩) before =
        .failed .cancelled after.closeScope ∧
      failingBody.handleCaught (failingBody.process 5) (handledBy ⟨3⟩) fault after.closeScope =
        .done (.resume none) after.closeScope :=
  ⟨_, _, rfl, rfl, rfl, rfl⟩

end Treewalk
