import Treewalk.Proofs.CaughtErrors
import Treewalk.Proofs.StopSignal

/-!
# Error containment

A body that runs in an error scope may run anything: functions, loops, error blocks whose handlers
fail in turn. Whatever fails in there comes to this scope or to one further inside. `Contained` says
what that means for everything outside: the monitor records no fault, the enclosing error scopes
stay as they are, and the policy for uncaught faults does not move the stop signal. It is stated as
a contract that asks something only where a scope is open, so the induction over the evaluator can
use it for the scopes that open further inside as well.

The signal itself may move meanwhile, by constructs, by the pause hook and from outside. The trace
says which of them moved it.
-/

namespace Treewalk

variable {World Result : Type}

namespace Machine

/-- What happened in between was no concern of the monitor's policy. -/
structure Contained (before after : Machine World) : Prop where
  /-- The monitor has recorded no fault. -/
  errors : after.monitor.errors = before.monitor.errors
  /-- The stop signal is where the noted moves lead, and none of these was the policy's. -/
  signal : before.Accounts after fun added =>
    ∀ occurrence ∈ added, occurrence.mover? ≠ some .policy

namespace Contained

/-- Nothing gets out where nothing happens. -/
theorem refl (machine : Machine World) : Contained machine machine :=
  ⟨rfl, [], rfl, .still machine.stopped, List.forall_mem_nil _⟩

/-- Containment can be followed along a run. -/
theorem trans {first second third : Machine World} (earlier : Contained first second)
    (later : Contained second third) : Contained first third where
  errors := later.errors.trans earlier.errors
  signal := by
    apply earlier.signal.trans later.signal
    intro old new _ _ oldUnforced newUnforced occurrence member
    rcases List.mem_append.mp member with late | early
    · exact newUnforced occurrence late
    · exact oldUnforced occurrence early

/-- What records nothing and does not move the signal for the policy contains everything. -/
theorem of_confines {Movers : SignalMover → Prop} (voluntary : ¬ Movers .policy)
    {before after : Machine World} (same : SameRecords before after)
    (confines : Confines Movers before after) : Contained before after where
  errors := same.errors
  signal := by
    apply Accounts.mono confines
    intro added _ confined occurrence member forced
    exact voluntary ((confined occurrence member).movers .policy forced)

/-- What leaves the signal alone and records nothing contains failures. -/
theorem of_silences {before after : Machine World} (same : SameRecords before after)
    (silences : Silences before after) : Contained before after :=
  of_confines id same silences

/-- A look contains failures, for what comes from outside is no doing of the policy. -/
theorem look (machine : Machine World) : Contained machine machine.look :=
  of_confines (by simp) (SameRecords.look machine) (Confines.look machine)

/-- Entering a node contains failures: a pause hook may raise the signal, but not for the policy. -/
theorem enter (node : NodeId) (machine : Machine World) :
    Contained machine (machine.enter node) :=
  of_confines (by simp) (SameRecords.enter node machine) (Confines.enter node machine)

/-- Leaving a node contains failures. -/
theorem leave (node : NodeId) (machine : Machine World) :
    Contained machine (machine.leave node) :=
  of_silences (SameRecords.leave node machine) (Confines.leave node machine)

/-- Opening a scope contains failures, for it is none of the error scopes. -/
theorem opened (activation : Activation) (machine : Machine World) :
    Contained machine (activation.opened machine) :=
  of_confines (by simp) (SameRecords.opened activation machine)
    (Confines.opened activation machine)

/-- Leaving a scope contains failures. -/
theorem exit (activation : Activation) (machine : Machine World) :
    Contained machine (activation.exit machine) :=
  of_silences (SameRecords.exit activation machine) (Confines.exit activation machine)

/-- A construct contains failures: it may move the signal, but not for the policy. -/
theorem invoke (construct : Construct World) (arguments : List Value) (machine : Machine World) :
    Contained machine (Machine.invoke construct arguments machine).state where
  errors := (SameRecords.invoke construct arguments machine).errors
  signal := by
    apply (Accounts.invoke construct arguments machine).mono
    rintro _ _ ⟨moves, rfl, confined⟩ occurrence member forced
    rcases List.mem_append.mp member with late | invoked
    · cases (confined occurrence late).movers .policy forced
    · rw [List.mem_singleton.mp invoked] at forced
      cases forced

end Contained

/-- Staying inside the innermost error scope, if one is open: what happens is contained, and in the
end the same scopes are open again, all but the innermost as they were. -/
def containing : Contract (Machine World) where
  Raised _ := True
  Finished before after := before.scopes ≠ [] →
    Contained before after ∧ ∃ scope, after.scopes = scope :: before.scopes.tail
  Reached before after := before.scopes ≠ [] →
    Contained before after ∧ before.scopes.tail <:+ after.scopes
  refl machine := by
    intro guarded
    refine ⟨Contained.refl machine, machine.scopes.head guarded, ?_⟩
    rw [List.cons_head_tail]
  trans := by
    intro first second third earlier later guarded
    obtain ⟨contained, scope, scopes⟩ := earlier guarded
    have stillOpen : second.scopes ≠ [] := by simp [scopes]
    obtain ⟨laterContained, last, lastScopes⟩ := later stillOpen
    refine ⟨contained.trans laterContained, last, ?_⟩
    rw [lastScopes, scopes]
    rfl
  reached_of_finished := by
    intro before after finished guarded
    obtain ⟨contained, scope, scopes⟩ := finished guarded
    refine ⟨contained, ?_⟩
    rw [scopes]
    exact List.suffix_cons scope _
  reached_trans := by
    intro first second third earlier later guarded
    obtain ⟨contained, scope, scopes⟩ := earlier guarded
    have stillOpen : second.scopes ≠ [] := by simp [scopes]
    obtain ⟨laterContained, outer⟩ := later stillOpen
    refine ⟨contained.trans laterContained, ?_⟩
    rw [scopes] at outer
    exact outer

/-- What contains failures and leaves the error scopes as they are keeps the contract. -/
theorem containing_of_sameScopes {before after : Machine World}
    (scopes : after.scopes = before.scopes) (contained : Contained before after) :
    containing.Finished before after := by
  intro guarded
  refine ⟨contained, before.scopes.head guarded, ?_⟩
  rw [scopes, List.cons_head_tail]

/-- The innermost error scope takes a fault, or passes it on without recording it. -/
theorem containing_hand (fault : Fault) :
    containing.Kept (hand fault : Exec (Machine World) Unit) := by
  apply Contract.kept_of_finished (fun _ => trivial)
  intro before
  cases opened : before.scopes with
  | nil => exact fun guarded => absurd opened guarded
  | cons scope outer =>
    simp only [hand, opened]
    split
    · exact containing.refl before
    · intro _
      refine ⟨⟨rfl, [], rfl, .still before.stopped, List.forall_mem_nil _⟩,
        scope.record fault before.monitor.top?, ?_⟩
      rw [opened]
      rfl

/-- Inside an error scope, whatever is handed on is recorded there or comes straight back. -/
theorem containing_handFrom (statement : NodeId) (fault : Fault) :
    containing.Kept (handFrom statement fault : Exec (Machine World) Unit) := by
  apply Contract.kept_state
  intro machine
  apply Contract.kept_bind
  · apply Contract.kept_update
    intro before
    exact containing_of_sameScopes rfl
      (Contained.of_silences (SameRecords.note before _)
        (Confines.note before ⟨rfl, by rintro _ ⟨⟩⟩))
  · intro _
    exact containing_hand fault

/-- An error scope of its own hides what a body does from everything around it, whether or not a
scope is open there. -/
theorem contained_protect {body : Exec (Machine World) Result} (kept : containing.Kept body)
    (before : Machine World) :
    Contained before (protect body before).state ∧
      before.scopes <:+ (protect body before).state.scopes ∧
      ∀ after, (protect body before).final? = some after → after.scopes = before.scopes := by
  have guarded : before.openScope.scopes ≠ [] := by simp [openScope]
  have closes {after : Machine World} (inside : containing.Finished before.openScope after) :
      Contained before after.closeScope ∧ after.closeScope.scopes = before.scopes := by
    obtain ⟨contained, scope, scopes⟩ := inside guarded
    refine ⟨⟨contained.errors, contained.signal⟩, ?_⟩
    simp only [closeScope, scopes]
    rfl
  have inside := kept before.openScope
  rw [protect_apply]
  cases ended : body before.openScope with
  | done result after =>
    rw [ended] at inside
    obtain ⟨contained, scopes⟩ := closes inside
    refine ⟨contained, scopes ▸ List.suffix_refl _, ?_⟩
    rintro _ ⟨⟩
    exact scopes
  | failed fault after =>
    rw [ended] at inside
    obtain ⟨contained, scopes⟩ := closes inside.2
    refine ⟨contained, scopes ▸ List.suffix_refl _, ?_⟩
    rintro _ ⟨⟩
    exact scopes
  | exhausted after =>
    rw [ended] at inside
    obtain ⟨contained, outer⟩ := inside guarded
    exact ⟨⟨contained.errors, contained.signal⟩, outer, by rintro _ ⟨⟩⟩

/-- What is recorded inside a further error scope goes away with it. -/
theorem containing_protect {body : Exec (Machine World) Result} (kept : containing.Kept body) :
    containing.Kept (protect body) := by
  intro before
  have hidden := contained_protect kept before
  cases ended : protect body before with
  | done result after =>
    rw [ended] at hidden
    exact containing_of_sameScopes (hidden.2.2 after rfl) hidden.1
  | failed fault after =>
    rw [ended] at hidden
    exact ⟨trivial, containing_of_sameScopes (hidden.2.2 after rfl) hidden.1⟩
  | exhausted after =>
    rw [ended] at hidden
    exact fun _ => ⟨hidden.1, (List.tail_suffix before.scopes).trans hidden.2.1⟩

/-- A refused scope fails before anything is opened. -/
theorem containing_within (activation : Activation) {body : Exec (Machine World) Result}
    (kept : containing.Kept body) : containing.Kept (activation.within body) := by
  intro before
  have opened : containing.Finished before (activation.opened before) :=
    containing_of_sameScopes (SameRecords.opened activation before).scopes
      (Contained.opened activation before)
  refine Contract.fulfilled_within activation (kept _) (fun _ => trivial) ?_ ?_ ?_
  · intro limit
    have same := SameRecords.refused activation limit before
    exact containing_of_sameScopes same.scopes
      (Contained.of_silences same (Confines.refused activation limit before))
  · intro after inside
    exact containing.trans (containing.trans opened inside)
      (containing_of_sameScopes (SameRecords.exit activation after).scopes
        (Contained.exit activation after))
  · intro after inside
    exact containing.reached_trans opened inside

/-- Every operation of the machine stays inside the innermost error scope. -/
theorem containing_upheld (program : Program World) : containing.Upheld program where
  raises_ofCause _ := trivial
  poll := by
    intro before
    rw [poll_apply]
    exact containing_of_sameScopes (SameRecords.look before).scopes (Contained.look before)
  write site name cell value := by
    apply Contract.kept_of_finished (fun _ => trivial)
    intro before
    have same := SameRecords.write site name cell value before
    exact containing_of_sameScopes same.scopes
      (Contained.of_silences same (Confines.write site name cell value before))
  invoke construct arguments := by
    apply Contract.kept_of_finished (fun _ => trivial)
    intro before
    exact containing_of_sameScopes (SameRecords.invoke construct arguments before).scopes
      (Contained.invoke construct arguments before)
  hand _ := containing_hand _
  handFrom statement fault _ _ := containing_handFrom statement fault
  tracked node _ _ kept := by
    have entered (before : Machine World) : containing.Finished before (before.enter node) :=
      containing_of_sameScopes (SameRecords.enter node before).scopes (Contained.enter node before)
    apply Contract.kept_tracked node kept
    · intro before after inside
      exact containing.trans (containing.trans (entered before) inside)
        (containing_of_sameScopes rfl (Contained.leave node after))
    · intro before after inside
      exact containing.reached_trans (entered before) inside
  protect kept := containing_protect kept
  call _ _ _ _ _ _ kept := containing_within _ kept

end Machine

namespace Program

open Contract Machine

variable {program : Program World} {walk : Walk World} {parts : ErrorBlock}
  {before : Machine World}

/-- What an error block does between its body and its final part, given the flow of the body and
what its error scope recorded. -/
def respond (program : Program World) (walk : Walk World) (parts : ErrorBlock) :
    Flow × Option Fault → Exec (Machine World) Flow
  | (_, some fault) => do
    program.bindCause fault parts.cause
    processPart walk parts.onError
    return .resume none
  | (flow, none) => do
    processPart walk parts.onSuccess
    return flow

/-- What an error block does after its body. -/
def conclude (program : Program World) (walk : Walk World) (parts : ErrorBlock)
    (settled : Flow × Option Fault) : Exec (Machine World) Flow := do
  let flow ← program.respond walk parts settled
  processPart walk parts.cleanup
  return flow

/-- An error block is its protected body and what follows it. -/
theorem processErrorBlock_apply (program : Program World) (walk : Walk World) (parts : ErrorBlock)
    (before : Machine World) :
    program.processErrorBlock walk parts before =
      (processProtected walk parts.body >>= program.conclude walk parts) before := by
  simp only [processErrorBlock, Exec.bind_apply]
  cases processProtected walk parts.body before with
  | failed fault after => rfl
  | exhausted after => rfl
  | done settled after =>
    obtain ⟨flow, caught⟩ := settled
    cases caught with
    | none =>
      simp only [conclude, respond, Exec.bind_apply]
      cases processPart walk parts.onSuccess after <;> rfl
    | some fault =>
      simp only [conclude, respond, handleCaught, Exec.bind_apply]
      cases program.bindCause fault parts.cause after with
      | failed fault after => rfl
      | exhausted after => rfl
      | done _ bound =>
        dsimp only
        cases processPart walk parts.onError bound <;> rfl

/-- After its body an error scope is still open. -/
theorem scopes_process_openScope {fuel : Nat} {body : NodeId} {after : Machine World}
    (ended : (program.process fuel body before.openScope).final? = some after) :
    after.scopes ≠ [] := by
  have finished := ((containing_upheld program).process fuel body before.openScope).finished ended
  obtain ⟨-, scope, scopes⟩ := finished (by simp [openScope])
  simp [scopes]

/-- A protected body fails only by ending in the cancellation signal. -/
theorem cancelled_of_processProtected {fuel : Nat} {body : NodeId} {fault : Fault}
    {after : Machine World}
    (ended : processProtected (program.process fuel) body before = .failed fault after) :
    fault.isCancellation = true ∧
      (program.process fuel body before.openScope).isCancelled = true := by
  rw [processProtected, protect_apply] at ended
  cases walked : program.process fuel body before.openScope with
  | done flow reached =>
    rw [runProtected_done _ walked] at ended
    cases ended
  | exhausted reached =>
    rw [runProtected_exhausted _ walked] at ended
    cases ended
  | failed failure reached =>
    rw [runProtected_failed _ walked, Exec.bind_apply] at ended
    have blameless := (blameless_upheld program).process fuel body before.openScope
    rw [walked] at blameless
    have stillOpen := scopes_process_openScope (congrArg Outcome.final? walked)
    cases cancellation : failure.isCancellation with
    | true =>
      rw [hand_cancellation cancellation] at ended
      cases ended
      exact ⟨cancellation, cancellation⟩
    | false =>
      -- The scope takes any other failure.
      have blamelessFault : failure.isMisuse = false := blameless.1
      cases opened : reached.scopes with
      | nil => exact absurd opened stillOpen
      | cons scope outer =>
        simp [hand, opened, blamelessFault, cancellation] at ended

end Program

/-- Whatever the body of an error block runs and however it ends, no fault reaches the monitor or an
error scope around the block, and the stop signal is moved by constructs and the pause hook only.
The one thing that leaves the body is the cancellation signal: any other fault that the block fails
with was raised after the body, by what the block does then. -/
theorem error_containment (program : Program World) (fuel : Nat) (parts : ErrorBlock)
    (before : Machine World) :
    let ended := Program.processProtected (program.process fuel) parts.body before
    before.Contained ended.state ∧
    before.scopes <:+ ended.state.scopes ∧
    (∀ after, ended.final? = some after → after.scopes = before.scopes) ∧
    (∀ fault after, ended = .failed fault after → fault.isCancellation = true) ∧
    (∀ fault after,
      program.processErrorBlock (program.process fuel) parts before = .failed fault after →
      fault.isCancellation = true ∨
        ∃ settled reached, ended = .done settled reached ∧
          program.conclude (program.process fuel) parts settled reached =
            .failed fault after) := by
  intro ended
  have body : Machine.containing.Kept
      (Program.runProtected (program.process fuel) parts.body) := by
    apply Contract.kept_attempt ((Machine.containing_upheld program).process fuel parts.body)
    · intro flow
      exact Contract.kept_pure flow
    · intro fault _
      exact Contract.kept_bind (Machine.containing_hand fault) fun _ => Contract.kept_pure _
  obtain ⟨contained, outer, closed⟩ := Machine.contained_protect body before
  have failure : ∀ fault after, ended = .failed fault after → fault.isCancellation = true :=
    fun fault after failed => (Program.cancelled_of_processProtected failed).1
  refine ⟨contained, outer, closed, failure, ?_⟩
  intro fault after failed
  rw [Program.processErrorBlock_apply, Exec.bind_apply] at failed
  cases settled : Program.processProtected (program.process fuel) parts.body before with
  | done result reached =>
    rw [settled] at failed
    exact Or.inr ⟨result, reached, settled, failed⟩
  | failed other reached =>
    rw [settled] at failed
    cases failed
    exact Or.inl (failure _ _ settled)
  | exhausted reached =>
    rw [settled] at failed
    cases failed

end Treewalk
