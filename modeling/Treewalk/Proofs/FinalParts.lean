import Treewalk.Proofs.ErrorContainment

/-!
# The final part of an error block

The part for either end stands last in an error block, and it is walked from where the rest of the
block is done. A failure on the way there goes past it. `Program.Preempts` lists the four places
where that can happen: the body ends in the cancellation signal, the declaration for the cause
cannot be written, the part for errors fails, or the part for success does.

`final_part_runs` says that these are all. Unless one of them happens, what is left to do is to walk
the final part once, whatever flow the other parts ended with; if one does, the block fails there,
and would do so with any final part.
-/

namespace Treewalk

variable {World Result : Type}

/-- The computation failed. -/
def Outcome.isFailed {State : Type} : Outcome State Result → Bool
  | .failed _ _ => true
  | _ => false

@[simp] theorem Outcome.isFailed_done {State : Type} (result : Result) (after : State) :
    (Outcome.done result after).isFailed = false :=
  rfl

@[simp] theorem Outcome.isFailed_failed {State : Type} (fault : Fault) (after : State) :
    (Outcome.failed fault after : Outcome State Result).isFailed = true :=
  rfl

@[simp] theorem Outcome.isFailed_exhausted {State : Type} (after : State) :
    (Outcome.exhausted after : Outcome State Result).isFailed = false :=
  rfl

/-- A sequence fails where its first computation does, or where the second does on what the first is
done with. -/
theorem Exec.isFailed_bind {State Next : Type} {first : Exec State Result}
    {next : Result → Exec State Next} {before : State} :
    ((first >>= next) before).isFailed = true ↔
      (first before).isFailed = true ∨
        ∃ result after, first before = .done result after ∧
          (next result after).isFailed = true := by
  rw [Exec.bind_apply]
  cases first before with
  | done result after =>
    constructor
    · intro failed
      exact Or.inr ⟨result, after, rfl, failed⟩
    · rintro (failed | ⟨_, _, ⟨⟩, failed⟩)
      · cases failed
      · exact failed
  | failed fault after => simp
  | exhausted after => simp

namespace Program

open Machine

variable {program : Program World} {walk : Walk World} {parts : ErrorBlock}
  {before : Machine World}

/-- An error block up to its final part. -/
def processUnfinished (program : Program World) (walk : Walk World) (parts : ErrorBlock) :
    Exec (Machine World) Flow := do
  let settled ← processProtected walk parts.body
  program.respond walk parts settled

/-- The ways past the final part of an error block. -/
inductive Preempts (program : Program World) (walk : Walk World) (parts : ErrorBlock)
    (before : Machine World) : Prop where
  | body (cancelled : (walk parts.body before.openScope).isCancelled = true)
  | cause {flow : Flow} {fault : Fault} {caught : Machine World}
      (recorded : processProtected walk parts.body before = .done (flow, some fault) caught)
      (failed : (program.bindCause fault parts.cause caught).isFailed = true)
  | onError {flow : Flow} {fault : Fault} {caught bound : Machine World}
      (recorded : processProtected walk parts.body before = .done (flow, some fault) caught)
      (assigned : program.bindCause fault parts.cause caught = .done () bound)
      (failed : (processPart walk parts.onError bound).isFailed = true)
  | onSuccess {flow : Flow} {reached : Machine World}
      (unrecorded : processProtected walk parts.body before = .done (flow, none) reached)
      (failed : (processPart walk parts.onSuccess reached).isFailed = true)

/-- The final part, whichever it is, is walked from where the rest of the error block is done. -/
theorem processErrorBlock_unfinished (program : Program World) (walk : Walk World)
    (parts : ErrorBlock) (cleanup : Option NodeId) (before : Machine World) :
    program.processErrorBlock walk { parts with cleanup } before =
      (program.processUnfinished walk parts >>= fun flow => do
        processPart walk cleanup
        return flow) before := by
  rw [processErrorBlock_apply]
  simp only [processUnfinished, Exec.bind_apply]
  cases processProtected walk parts.body before with
  | failed fault after => rfl
  | exhausted after => rfl
  | done settled after => cases settled.2 <;> rfl

/-- After an error was caught, only a failure of its binding or of the part for errors gets past the
final part. -/
theorem isFailed_respond_caught {flow : Flow} {fault : Fault} {caught : Machine World} :
    (program.respond walk parts (flow, some fault) caught).isFailed = true ↔
      (program.bindCause fault parts.cause caught).isFailed = true ∨
        ∃ bound, program.bindCause fault parts.cause caught = .done () bound ∧
          (processPart walk parts.onError bound).isFailed = true := by
  simp only [respond, Exec.isFailed_bind, Exec.pure_apply, Outcome.isFailed_done]
  constructor
  · rintro (unassigned | ⟨_, bound, assigned, failed | ⟨_, _, _, ⟨⟩⟩⟩)
    · exact Or.inl unassigned
    · exact Or.inr ⟨bound, assigned, failed⟩
  · rintro (unassigned | ⟨bound, assigned, failed⟩)
    · exact Or.inl unassigned
    · exact Or.inr ⟨(), bound, assigned, Or.inl failed⟩

/-- Without a caught error, only a failure of the part for success gets past the final part. -/
theorem isFailed_respond_uncaught {flow : Flow} {reached : Machine World} :
    (program.respond walk parts (flow, none) reached).isFailed = true ↔
      (processPart walk parts.onSuccess reached).isFailed = true := by
  simp [respond, Exec.isFailed_bind]

/-- A protected body fails exactly where the body itself ends in the cancellation signal. -/
theorem isFailed_processProtected {fuel : Nat} {body : NodeId} :
    (processProtected (program.process fuel) body before).isFailed = true ↔
      (program.process fuel body before.openScope).isCancelled = true := by
  constructor
  · intro failed
    cases ended : processProtected (program.process fuel) body before with
    | failed fault after => exact (cancelled_of_processProtected ended).2
    | done result after =>
      rw [ended] at failed
      cases failed
    | exhausted after =>
      rw [ended] at failed
      cases failed
  · intro cancelled
    cases walked : program.process fuel body before.openScope with
    | failed signal reached =>
      rw [walked] at cancelled
      rw [processProtected, protect_apply, runProtected_failed _ walked, Exec.bind_apply,
        hand_cancellation cancelled]
      rfl
    | done flow reached =>
      rw [walked] at cancelled
      cases cancelled
    | exhausted reached =>
      rw [walked] at cancelled
      cases cancelled

/-- An error block fails before its final part exactly in the ways listed. -/
theorem preempts_iff {fuel : Nat} :
    program.Preempts (program.process fuel) parts before ↔
      (program.processUnfinished (program.process fuel) parts before).isFailed = true := by
  rw [processUnfinished, Exec.isFailed_bind, isFailed_processProtected]
  constructor
  · intro preempted
    cases preempted with
    | body cancelled => exact Or.inl cancelled
    | cause recorded failed =>
      exact Or.inr ⟨_, _, recorded, isFailed_respond_caught.mpr (Or.inl failed)⟩
    | onError recorded assigned failed =>
      exact Or.inr ⟨_, _, recorded, isFailed_respond_caught.mpr (Or.inr ⟨_, assigned, failed⟩)⟩
    | onSuccess unrecorded failed =>
      exact Or.inr ⟨_, _, unrecorded, isFailed_respond_uncaught.mpr failed⟩
  · rintro (cancelled | ⟨⟨flow, caught⟩, reached, settled, failed⟩)
    · exact .body cancelled
    · cases caught with
      | none => exact .onSuccess settled (isFailed_respond_uncaught.mp failed)
      | some fault =>
        rcases isFailed_respond_caught.mp failed with unassigned | ⟨bound, assigned, unhandled⟩
        · exact .cause settled unassigned
        · exact .onError settled assigned unhandled

end Program

/-- Unless something fails before the final part of an error block, the block comes down to one walk
of that part from where the others have led, whichever part it is and whatever flow they ended with.
If something does, the block fails there, whatever its final part is. -/
theorem final_part_runs (program : Program World) (fuel : Nat) (parts : ErrorBlock)
    {before after : Machine World}
    (returned : (program.processErrorBlock (program.process fuel) parts before).final? =
      some after) :
    (¬ program.Preempts (program.process fuel) parts before ↔
      ∃ flow reached, ∀ cleanup,
        program.processErrorBlock (program.process fuel) { parts with cleanup } before =
          (do
            Program.processPart (program.process fuel) cleanup
            return flow : Exec (Machine World) Flow) reached) ∧
    (program.Preempts (program.process fuel) parts before ↔
      ∃ fault reached, ∀ cleanup,
        program.processErrorBlock (program.process fuel) { parts with cleanup } before =
          .failed fault reached) := by
  have concludes (cleanup : Option NodeId) :=
    program.processErrorBlock_unfinished (program.process fuel) parts cleanup before
  simp only [Exec.bind_apply] at concludes
  rw [Program.preempts_iff]
  cases unfinished : program.processUnfinished (program.process fuel) parts before with
  | done flow reached =>
    simp only [unfinished] at concludes
    refine ⟨⟨fun _ => ⟨flow, reached, concludes⟩, fun _ => by simp⟩, ?_⟩
    refine ⟨fun failed => by simp at failed, ?_⟩
    rintro ⟨fault, reached', failed⟩
    -- Without a final part the block is done.
    have done := (concludes none).symm.trans (failed none)
    cases done
  | failed fault reached =>
    simp only [unfinished] at concludes
    refine ⟨⟨fun unpreempted => by simp at unpreempted, ?_⟩,
      ⟨fun _ => ⟨fault, reached, concludes⟩, fun _ => rfl⟩⟩
    rintro ⟨flow, reached', done⟩
    have failed := (concludes none).symm.trans (done none)
    cases failed
  | exhausted reached =>
    rw [unfinished] at concludes
    rw [concludes parts.cleanup] at returned
    cases returned

/-- A construct that fails in a block of its own, and one that does nothing in another. -/
def brokenAndIdle : Program Unit where
  tree :=
    ((Builder.applyAll { }
      [.node (.expression
          (.construct ⟨"broken", 0, fun _ host => (.error "out of order", host)⟩ [])),
        .node (.statement (.block [⟨0⟩])),
        .node (.expression (.construct ⟨"idle", 0, fun _ host => (.ok .null, host)⟩ [])),
        .node (.statement (.block [⟨2⟩]))]).getD { }).finish 0

/-- The error block whose body fails, with the given part for errors and the idle final part. -/
def brokenBody (onError : Option NodeId) : ErrorBlock :=
  ⟨⟨1⟩, onError, none, some ⟨3⟩, none⟩

/-- Without a part for errors nothing fails before the final part, and that part is walked from
where the failed body was caught. -/
theorem final_part_runs_after_failure :
    let before : Machine Unit := { host := { world := () } }
    ∃ flow reached after,
      (brokenAndIdle.processErrorBlock (brokenAndIdle.process 4) (brokenBody none) before).final? =
        some after ∧
      after.invocations.map (·.1) = ["idle", "broken"] ∧
      ∀ cleanup,
        brokenAndIdle.processErrorBlock (brokenAndIdle.process 4)
            { brokenBody none with cleanup } before =
          (do
            Program.processPart (brokenAndIdle.process 4) cleanup
            return flow : Exec (Machine Unit) Flow) reached := by
  intro before
  have unpreempted :
      ¬ brokenAndIdle.Preempts (brokenAndIdle.process 4) (brokenBody none) before := by
    rw [Program.preempts_iff]
    exact Bool.false_ne_true
  have returned :
      (brokenAndIdle.processErrorBlock (brokenAndIdle.process 4) (brokenBody none) before).final? =
        some _ :=
    rfl
  obtain ⟨flow, reached, runs⟩ :=
    (final_part_runs brokenAndIdle 4 (brokenBody none) returned).1.mp unpreempted
  exact ⟨flow, reached, _, rfl, rfl, runs⟩

/-- With a part for errors that fails too, the error block fails and its final part is not walked,
though it could be. -/
theorem final_part_skipped_after_failing_handler :
    let before : Machine Unit := { host := { world := () } }
    ∃ fault after flow final,
      brokenAndIdle.processErrorBlock (brokenAndIdle.process 4) (brokenBody (some ⟨1⟩)) before =
        .failed fault after ∧
      after.invocations.map (·.1) = ["broken", "broken"] ∧
      brokenAndIdle.process 4 ⟨3⟩ after = .done flow final ∧
      final.invocations.map (·.1) = ["idle", "broken", "broken"] :=
  ⟨_, _, _, _, rfl, rfl, rfl, rfl⟩

end Treewalk
