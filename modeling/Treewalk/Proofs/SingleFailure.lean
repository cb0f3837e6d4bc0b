import Treewalk.Proofs.PolicyAlignment
import Treewalk.Proofs.PromptCancellation

/-!
# The first failure is the last

Under the policy that stops a run, the first failure that nobody catches is recorded and raises the
stop signal. In a stratified tree nothing can fail after that: blocks and loops see the signal
before they do anything, and an expression in which it went up is abandoned with the cancellation
signal. So at most one failure is recorded.

Nobody else may take the stop request back, of course (`Machine.Unrevoked`).

This is a discipline of stratified trees. A statement is `Sparing`: it records one failure at most.
An expression is `Abrupt`: if it recorded one, then it is not done. A block is `Inert`: after a
failure it is done without another.
-/

namespace Treewalk

variable {World State Result Next : Type}

namespace Machine

/-- Nobody outside lowers the stop signal before it is looked at next. -/
def Firm (machine : Machine World) : Prop :=
  machine.outside machine.looks ≠ some false

/-- Nobody outside ever lowers the stop signal. -/
def Unrevoked (machine : Machine World) : Prop :=
  ∀ look, machine.outside look ≠ some false

/-- The policy stops runs for good, and so far there was no reason to. -/
structure Unfailed (machine : Machine World) : Prop where
  policy : machine.monitor.policy = .recordAndStop
  unrevoked : machine.Unrevoked
  errors : machine.monitor.errors = []

/-- The policy stops runs for good, and it did so at the only failure so far. -/
structure FailedOnce (machine : Machine World) : Prop where
  policy : machine.monitor.policy = .recordAndStop
  unrevoked : machine.Unrevoked
  errors : machine.monitor.errors.length = 1
  stopped : machine.stopped = true

variable {before after : Machine World}

/-- Nobody new moves the signal from outside. -/
theorem SameSettings.unrevoked (same : SameSettings before after) (unrevoked : before.Unrevoked) :
    after.Unrevoked := by
  rw [Unrevoked, same.outside]
  exact unrevoked

/-- As long as nothing is handed to the monitor, nothing has failed. -/
theorem Unfailed.of_unhanded (unfailed : before.Unfailed) (unhanded : before.Unhanded after) :
    after.Unfailed where
  policy := unhanded.policy.trans unfailed.policy
  unrevoked := unhanded.unrevoked unfailed.unrevoked
  errors := unhanded.errors.trans unfailed.errors

/-- After the failure nothing else fails as long as nothing is handed to the monitor and the signal
stays up. -/
theorem FailedOnce.of_unhanded (failed : before.FailedOnce) (unhanded : before.Unhanded after)
    (stopped : after.stopped = true) : after.FailedOnce where
  policy := unhanded.policy.trans failed.policy
  unrevoked := unhanded.unrevoked failed.unrevoked
  errors := (congrArg List.length unhanded.errors).trans failed.errors
  stopped := stopped

/-- A raised signal is reason enough to stop. -/
theorem shouldStop_of_stopped {machine : Machine World} (up : machine.stopped = true) :
    machine.shouldStop = true := by
  rw [shouldStop, up, Bool.or_true]

/-- After the failure a stop is due. -/
theorem FailedOnce.shouldStop (failed : before.FailedOnce) : before.shouldStop = true :=
  shouldStop_of_stopped failed.stopped

/-- The signal is what it was moved to, whoever owns it. -/
theorem stopped_signal (raised : Bool) (machine : Machine World) :
    (machine.signal raised).stopped = raised := by
  simp only [signal]
  split
  · next shared => simp only [stopped, shared]
  · rfl

/-- Noting a move does not move it again. -/
theorem stopped_noteMove (mover : SignalMover) (earlier : Bool) (machine : Machine World) :
    (machine.noteMove mover earlier).stopped = machine.stopped := by
  simp only [noteMove]
  split
  · rfl
  · rfl

/-- A raised signal is up. -/
theorem stopped_raise (mover : SignalMover) (machine : Machine World) :
    (machine.raise mover).stopped = true :=
  (stopped_noteMove mover _ _).trans (stopped_signal true machine)

/-- A look finds the signal up unless somebody outside has lowered it. -/
theorem stopped_look {machine : Machine World} (firm : machine.Firm)
    (up : machine.stopped = true) : machine.look.stopped = true := by
  rw [look_eq]
  cases moves : machine.outside machine.looks with
  | none => exact up
  | some raised =>
    cases raised with
    | false => exact absurd moves firm
    | true => exact (stopped_noteMove .outside _ _).trans (stopped_signal true _)

/-- The pause hook never lowers the signal. -/
theorem stopped_enter (node : NodeId) {machine : Machine World} (up : machine.stopped = true) :
    (machine.enter node).stopped = true := by
  dsimp only [enter]
  split
  · simp only [pause]
    split
    · exact up
    · next hook _ =>
      generalize hook _ = action
      cases action with
      | stop => exact stopped_raise .pauseHook _
      | resume => exact up
  · exact up

/-- A look does not lower the signal, because nobody outside does. -/
theorem FailedOnce.look (failed : before.FailedOnce) : before.look.FailedOnce :=
  failed.of_unhanded (.look before) (stopped_look (failed.unrevoked before.looks) failed.stopped)

/-- A pause can only raise it again. -/
theorem FailedOnce.enter (failed : before.FailedOnce) (node : NodeId) :
    (before.enter node).FailedOnce :=
  failed.of_unhanded (.enter node before) (stopped_enter node failed.stopped)

/-- Leaving a node does not lower the signal. -/
theorem FailedOnce.leave (failed : before.FailedOnce) (node : NodeId) :
    (before.leave node).FailedOnce :=
  failed.of_unhanded (.leave node before) failed.stopped

/-- A scope without a call site is opened without a pause. -/
theorem FailedOnce.opened (failed : before.FailedOnce) {activation : Activation}
    (uncalled : activation.callSite = none) : (activation.opened before).FailedOnce := by
  apply failed.of_unhanded (.opened activation before)
  simp only [Activation.opened, uncalled, Activation.framed, Activation.bind]
  cases activation.ownsBindings with
  | true => exact failed.stopped
  | false => exact failed.stopped

/-- Leaving a scope does not lower the signal. -/
theorem FailedOnce.exit (failed : before.FailedOnce) (activation : Activation) :
    (activation.exit before).FailedOnce := by
  apply failed.of_unhanded (.exit activation before)
  exact (Confines.stopped_eq (Confines.exit activation before)).trans failed.stopped

end Machine

open Machine

/-- What became of a computation that started unfailed: at most one failure was recorded, and a
fault that comes out after that is the cancellation signal. -/
def Spares (part : State → Machine World) : Outcome State Result → Prop
  | .done _ after => (part after).Unfailed ∨ (part after).FailedOnce
  | .failed fault after =>
    (part after).Unfailed ∨ (part after).FailedOnce ∧ fault.isCancellation = true
  | .exhausted _ => True

/-- The computation records one failure at most. -/
def Sparing (part : State → Machine World) (body : Exec State Result) : Prop :=
  ∀ before, (part before).Unfailed → Spares part (body before)

/-- What became of a computation that started after a failure. -/
def Rests (part : State → Machine World) : Outcome State Result → Prop
  | .done _ after => (part after).FailedOnce
  | .failed _ _ => False
  | .exhausted _ => True

/-- The computation records one failure at most, and if it recorded one, then it is not done. -/
structure Abrupt (part : State → Machine World) (body : Exec State Result) : Prop where
  sparing : Sparing part body
  unfailed : ∀ {before after : State} {result : Result}, (part before).Unfailed →
    body before = .done result after → (part after).Unfailed

/-- The computation records one failure at most, and after a failure it is done without another. -/
structure Inert (part : State → Machine World) (body : Exec State Result) : Prop where
  sparing : Sparing part body
  rests : ∀ before, (part before).FailedOnce → Rests part (body before)

section

variable {part : State → Machine World} {first : Exec State Result}
  {next : Result → Exec State Next}

/-- Sequencing, given what becomes of what the first computation is done with. -/
theorem Sparing.bind_of_done (sparing : Sparing part first)
    (continued : ∀ before result after, (part before).Unfailed → first before = .done result after →
      (part after).Unfailed ∨ (part after).FailedOnce → Spares part (next result after)) :
    Sparing part (first >>= next) := by
  intro before unfailed
  have spared := sparing before unfailed
  rw [Exec.bind_apply]
  cases ended : first before with
  | done result after =>
    rw [ended] at spared
    exact continued before result after unfailed ended spared
  | failed fault after =>
    rw [ended] at spared
    exact spared
  | exhausted after => trivial

/-- What has not failed was sparing. -/
theorem Spares.of_unfailed {outcome : Outcome State Result}
    (unfailed : (part outcome.state).Unfailed) : Spares part outcome := by
  cases outcome with
  | done result after => exact Or.inl unfailed
  | failed fault after => exact Or.inl unfailed
  | exhausted after => trivial

/-- The computation ends unfailed whichever way it ends. -/
theorem Abrupt.of_unhanded {body : Exec State Result}
    (unhanded : ∀ before, (part before).Unhanded (part (body before).state)) :
    Abrupt part body where
  sparing before unfailed := .of_unfailed (unfailed.of_unhanded (unhanded before))
  unfailed {before after result} unfailed ended := by
    have still := unfailed.of_unhanded (unhanded before)
    rw [ended] at still
    exact still

/-- An abrupt start leaves the rest to run only if nothing failed. -/
theorem Abrupt.bind_sparing (abrupt : Abrupt part first)
    (rest : ∀ result, Sparing part (next result)) : Sparing part (first >>= next) := by
  apply abrupt.sparing.bind_of_done
  intro before result after unfailed ended _
  exact rest result after (abrupt.unfailed unfailed ended)

/-- A sequence of abrupt parts is abrupt. -/
theorem Abrupt.bind (abrupt : Abrupt part first) (rest : ∀ result, Abrupt part (next result)) :
    Abrupt part (first >>= next) where
  sparing := abrupt.bind_sparing fun result => (rest result).sparing
  unfailed {before after result} unfailed done := by
    obtain ⟨middle, between, ended, continued⟩ := Exec.exists_of_bind_done done
    exact (rest middle).unfailed (abrupt.unfailed unfailed ended) continued

/-- Whoever rests after a failure records no other. -/
theorem Rests.spares {outcome : Outcome State Result} (rests : Rests part outcome) :
    Spares part outcome := by
  cases outcome with
  | done result after => exact Or.inr rests
  | failed fault after => exact rests.elim
  | exhausted after => trivial

/-- After a sparing part that recorded the failure, an inert rest adds none. -/
theorem Sparing.bind (sparing : Sparing part first) (rest : ∀ result, Inert part (next result)) :
    Sparing part (first >>= next) := by
  apply sparing.bind_of_done
  intro before result after _ _ spared
  rcases spared with unfailed | failed
  · exact (rest result).sparing after unfailed
  · exact ((rest result).rests after failed).spares

/-- A sequence of inert parts is inert. -/
theorem Inert.bind (inert : Inert part first) (rest : ∀ result, Inert part (next result)) :
    Inert part (first >>= next) where
  sparing := inert.sparing.bind rest
  rests before failed := by
    have rested := inert.rests before failed
    rw [Exec.bind_apply]
    cases ended : first before with
    | done result after =>
      rw [ended] at rested
      exact (rest result).rests after rested
    | failed fault after =>
      rw [ended] at rested
      exact rested.elim
    | exhausted after => trivial

/-- A value fails nothing. -/
theorem Inert.pure (result : Result) : Inert part (Pure.pure result : Exec State Result) where
  sparing _ unfailed := Or.inl unfailed
  rests _ failed := failed

/-- A change is inert if it hands nothing on and leaves the signal alone. -/
theorem Inert.update {change : State → State}
    (unhanded : ∀ before, (part before).Unhanded (part (change before)))
    (stopped : ∀ before, (part (change before)).stopped = (part before).stopped) :
    Inert part (Exec.update change) where
  sparing before unfailed := Or.inl (unfailed.of_unhanded (unhanded before))
  rests before failed :=
    failed.of_unhanded (unhanded before) ((stopped before).trans failed.stopped)

/-- What is cut off makes no claim. -/
theorem Inert.exhausted : Inert part (Exec.exhausted : Exec State Result) where
  sparing _ _ := trivial
  rests _ _ := trivial

/-- Cleaning up must keep what is known of failures. -/
theorem Spares.ensuring {opened : State} {cleanup : State → State}
    (spares : Spares part (first opened))
    (unfailed : ∀ state, (part state).Unfailed → (part (cleanup state)).Unfailed)
    (failed : ∀ state, (part state).FailedOnce → (part (cleanup state)).FailedOnce) :
    Spares part (Exec.ensuring first cleanup opened) := by
  simp only [Exec.ensuring]
  cases ended : first opened with
  | done result after =>
    rw [ended] at spares
    exact spares.imp (unfailed after) (failed after)
  | failed fault after =>
    rw [ended] at spares
    exact spares.imp (unfailed after) fun once => ⟨failed after once.1, once.2⟩
  | exhausted after => trivial

/-- After a failure it must keep that the run rests. -/
theorem Rests.ensuring {opened : State} {cleanup : State → State}
    (rests : Rests part (first opened))
    (failed : ∀ state, (part state).FailedOnce → (part (cleanup state)).FailedOnce) :
    Rests part (Exec.ensuring first cleanup opened) := by
  simp only [Exec.ensuring]
  cases ended : first opened with
  | done result after =>
    rw [ended] at rests
    exact failed after rests
  | failed fault after =>
    rw [ended] at rests
    exact rests
  | exhausted after => trivial

end

namespace Machine

variable {body first : Exec (Machine World) Result}

/-- What looks for a stop before it goes on is inert. -/
theorem inert_checkpoint (result : Result) {go : Exec (Machine World) Result}
    (sparing : Sparing id go) :
    Inert id
      (do
        let stops ← poll
        if stops then return result else go) where
  sparing before unfailed := by
    have looked : before.look.Unfailed := unfailed.of_unhanded (.look before)
    rw [Exec.bind_apply, poll_apply]
    dsimp only
    split
    · exact Or.inl looked
    · exact sparing _ looked
  rests before failed := by
    have looked : before.look.FailedOnce := FailedOnce.look failed
    rw [Exec.bind_apply, poll_apply]
    dsimp only
    rw [if_pos looked.shouldStop]
    exact looked

/-- A statement on the call stack is as sparing as its body. -/
theorem sparing_tracked (node : NodeId) (sparing : Sparing id body) :
    Sparing id
      (do
        Exec.update (Machine.enter node)
        Exec.ensuring body (Machine.leave node)) := by
  intro before unfailed
  have entered : (before.enter node).Unfailed := unfailed.of_unhanded (.enter node before)
  exact (sparing _ entered).ensuring (fun after still => still.of_unhanded (.leave node after))
    fun after failed => FailedOnce.leave failed node

/-- A statement on the call stack is as inert as its body. -/
theorem inert_tracked (node : NodeId) (inert : Inert id body) :
    Inert id
      (do
        Exec.update (Machine.enter node)
        Exec.ensuring body (Machine.leave node)) where
  sparing := sparing_tracked node inert.sparing
  rests before failed := by
    have entered : (before.enter node).FailedOnce := FailedOnce.enter failed node
    exact (inert.rests _ entered).ensuring fun after failed => FailedOnce.leave failed node

/-- The policy takes the first failure and raises the signal. -/
theorem sparing_hand (fault : Fault) : Sparing id (hand fault : Exec (Machine World) Unit) := by
  intro before unfailed
  by_cases unguarded : before.scopes = []
  · have stops : before.monitor.policy = .recordAndStop := unfailed.policy
    have direct : hand fault before = handUncaught fault before := by
      simp only [hand, unguarded]
    rw [direct]
    simp only [handUncaught, stops]
    split
    · exact Or.inl unfailed
    · split
      · exact Or.inl unfailed
      · -- The policy records the failure and raises the signal.
        let recorded : Machine World :=
          { before with
            monitor := before.monitor.record (fault.attributedTo before.monitor.top?) }
        have raised := Unhanded.raise .policy recorded
        have first : recorded.monitor.errors.length = 1 := by
          have none : before.monitor.errors = [] := unfailed.errors
          simp [recorded, Monitor.record, none]
        exact Or.inr ⟨raised.policy.trans stops, raised.unrevoked unfailed.unrevoked,
          (congrArg List.length raised.errors).trans first, stopped_raise .policy recorded⟩
  · exact .of_unfailed (unfailed.of_unhanded (Unhanded.hand fault unguarded))

/-- A fault that is handed on is recorded once. -/
theorem sparing_handFrom (statement : NodeId) (fault : Fault) :
    Sparing id (handFrom statement fault : Exec (Machine World) Unit) := by
  intro before unfailed
  exact sparing_hand fault (before.note _) { unfailed with }

/-- A fault that is caught after a failure is the cancellation signal, so only the first failure is
handed on. -/
theorem sparing_attempt (sparing : Sparing id first)
    {next : Except Fault Result → Exec (Machine World) Next}
    (done : ∀ result, Inert id (next (.ok result)))
    (cancelled : ∀ fault after, fault.isCancellation = true → after.Unfailed ∨ after.FailedOnce →
      Spares id (next (.error fault) after))
    (failed : ∀ fault, fault.isCancellation = false → Sparing id (next (.error fault))) :
    Sparing id (Exec.attempt first >>= next) := by
  intro before unfailed
  have spared := sparing before unfailed
  rw [Exec.bind_apply]
  simp only [Exec.attempt]
  cases ended : first before with
  | done result after =>
    rw [ended] at spared
    rcases spared with still | once
    · exact (done result).sparing after still
    · exact ((done result).rests after once).spares
  | failed fault after =>
    rw [ended] at spared
    cases signal : fault.isCancellation with
    | true => exact cancelled fault after signal (spared.imp_right And.left)
    | false =>
      -- A failure that is caught here was not recorded before.
      rcases spared with still | ⟨-, other⟩
      · exact failed fault signal after still
      · cases signal.symm.trans other
  | exhausted after => trivial

/-- A scope may be refused, which hands nothing on. -/
theorem sparing_within (activation : Activation) (sparing : Sparing id body) :
    Sparing id (activation.within body) := by
  intro before unfailed
  rw [Activation.within_apply]
  split
  · exact Or.inl (unfailed.of_unhanded (.refused activation _ before))
  · have opened : (activation.opened before).Unfailed :=
      unfailed.of_unhanded (.opened activation before)
    apply (sparing _ opened).ensuring
    · exact fun after still => still.of_unhanded (.exit activation after)
    · exact fun after failed => FailedOnce.exit failed activation

/-- A call is done only if its body is. -/
theorem abrupt_within (activation : Activation) (abrupt : Abrupt id body) :
    Abrupt id (activation.within body) where
  sparing := sparing_within activation abrupt.sparing
  unfailed {before after result} unfailed done := by
    obtain ⟨inside, ended, rfl⟩ := Activation.exists_of_within_done done
    have opened : (activation.opened before).Unfailed :=
      unfailed.of_unhanded (.opened activation before)
    exact (abrupt.unfailed opened ended).of_unhanded (.exit activation inside)

/-- The scopes of scripts are never refused. -/
theorem inert_within {activation : Activation} (uncalled : activation.callSite = none)
    (uncounted : activation.layout.owner.isFunction = false) (inert : Inert id body) :
    Inert id (activation.within body) where
  sparing := sparing_within activation inert.sparing
  rests before failed := by
    have opened : (activation.opened before).FailedOnce := FailedOnce.opened failed uncalled
    rw [Activation.within_apply, Activation.refuses_eq_none uncounted]
    exact (inert.rests _ opened).ensuring fun after failed => FailedOnce.exit failed activation

/-- After a last look at the signal, the computation is done only if it is down. -/
theorem abrupt_checkpoint (sparing : Sparing id first) (answer : Result → Next) :
    Abrupt id
      (do
        let result ← first
        let stops ← poll
        if stops then Exec.fail .cancelled else return answer result) where
  sparing := by
    apply sparing.bind_of_done
    intro before result after _ _ spared
    have looked : after.look.Unfailed ∨ after.look.FailedOnce :=
      spared.imp (·.of_unhanded (.look after)) FailedOnce.look
    rw [Exec.bind_apply, poll_apply]
    dsimp only
    split
    · exact looked.imp_right fun once => ⟨once, rfl⟩
    · exact looked
  unfailed {before after result} unfailed done := by
    obtain ⟨middle, between, ended, continued⟩ := Exec.exists_of_bind_done done
    have spared := sparing before unfailed
    rw [ended] at spared
    rw [Exec.bind_apply, poll_apply] at continued
    dsimp only at continued
    split at continued
    · cases continued
    · next going =>
      cases continued
      rcases spared with still | once
      · exact Unfailed.of_unhanded still (.look between)
      · exact absurd (FailedOnce.look once).shouldStop going

/-- No failure gets past an error scope. -/
theorem abrupt_protect (sparing : Sparing id body) (contained : containing.Kept body) :
    Abrupt id (protect body) := by
  have still {before after : Machine World} (unfailed : before.Unfailed)
      (ended : (protect body before).final? = some after) : after.Unfailed := by
    have spared := sparing before.openScope { unfailed with }
    have errors := (contained_protect contained before).1.errors
    rw [protect_apply] at ended errors
    cases inside : body before.openScope with
    | done result reached =>
      rw [inside] at spared ended errors
      cases ended
      have policy : reached.monitor.policy = .recordAndStop :=
        spared.elim Unfailed.policy FailedOnce.policy
      have unrevoked : reached.Unrevoked := spared.elim Unfailed.unrevoked FailedOnce.unrevoked
      exact ⟨policy, unrevoked, errors.trans unfailed.errors⟩
    | failed fault reached =>
      rw [inside] at spared ended errors
      cases ended
      have policy : reached.monitor.policy = .recordAndStop :=
        spared.elim Unfailed.policy fun once => once.1.policy
      have unrevoked : reached.Unrevoked :=
        spared.elim Unfailed.unrevoked fun once => once.1.unrevoked
      exact ⟨policy, unrevoked, errors.trans unfailed.errors⟩
    | exhausted reached =>
      rw [inside] at ended
      cases ended
  constructor
  · intro before unfailed
    cases ended : protect body before with
    | done result after => exact Or.inl (still unfailed (congrArg Outcome.final? ended))
    | failed fault after => exact Or.inl (still unfailed (congrArg Outcome.final? ended))
    | exhausted after => trivial
  · intro before after result unfailed ended
    exact still unfailed (congrArg Outcome.final? ended)

end Machine

namespace Program

variable {program : Program World} {walk : Walk World}

/-- The failure of a statement is the one that may be recorded. -/
theorem sparing_runStatement {node : NodeId} (sparing : Sparing id (walk node)) :
    Sparing id (runStatement walk node) := by
  apply sparing_attempt sparing
  · intro flow
    exact Inert.pure flow
  · intro fault after cancelled spared
    simp only [settle, cancelled, if_true]
    exact spared
  · intro fault failure
    simp only [settle, failure, Bool.false_eq_true, if_false]
    exact (sparing_handFrom node fault).bind fun _ => Inert.pure _

/-- The failure of a declaration of a library is the one that may be recorded. -/
theorem sparing_runDeclaration {node : NodeId} (sparing : Sparing id (walk node)) :
    Sparing id (runDeclaration walk node) := by
  apply sparing_tracked node
  apply sparing_attempt sparing
  · intro flow
    exact Inert.pure false
  · intro fault after cancelled spared
    simp only [cancelled, if_true]
    exact spared
  · intro fault failure
    simp only [failure, Bool.false_eq_true, if_false]
    exact (sparing_handFrom node fault).bind fun _ => Inert.pure true

/-- Binding a cause fails without being handed on. -/
theorem abrupt_bindCause (program : Program World) (fault : Fault) (cause : Option NodeId) :
    Abrupt id (program.bindCause fault cause) := by
  cases cause with
  | none => exact .of_unhanded Unhanded.refl
  | some cause =>
    simp only [bindCause, declaration]
    cases program.tree.variableAt? cause with
    | none => exact .of_unhanded Unhanded.refl
    | some declaration => exact .of_unhanded (Unhanded.write _ _ _ _)

/-- The flow of a part is dropped, and its failures were its own. -/
theorem inert_processPart {part : Option NodeId}
    (blocks : ∀ node ∈ part, Inert id (walk node)) : Inert id (processPart walk part) := by
  cases part with
  | none => exact Inert.pure ()
  | some node => exact (blocks node rfl).bind fun _ => Inert.pure ()

/-- A failure of the body does not leave its error scope, so that the other parts start unfailed. -/
theorem abrupt_processProtected (contained : ∀ node, containing.Kept (walk node)) {body : NodeId}
    (inert : Inert id (walk body)) : Abrupt id (processProtected walk body) := by
  apply abrupt_protect
  · apply sparing_attempt inert.sparing
    · intro flow
      exact Inert.pure flow
    · intro fault after cancelled spared
      dsimp only
      rw [Exec.bind_apply, hand_cancellation cancelled]
      exact spared.imp_right fun once => ⟨once, cancelled⟩
    · intro fault _
      exact (sparing_hand fault).bind fun _ => Inert.pure _
  · apply Contract.kept_attempt (contained body)
    · intro flow
      exact Contract.kept_pure flow
    · intro fault _
      exact Contract.kept_bind (containing_hand fault) fun _ => Contract.kept_pure _

/-- What the body recorded stays inside its error scope, so the failure is one of the other parts.
-/
theorem sparing_processErrorBlock (contained : ∀ node, containing.Kept (walk node))
    {parts : ErrorBlock}
    (blocks : ∀ body ∈ (Statement.errorBlock parts).bodies, Inert id (walk body)) :
    Sparing id (program.processErrorBlock walk parts) := by
  obtain ⟨body, onError, onSuccess, cleanup⟩ := ErrorBlock.forall_bodies.mp blocks
  apply (abrupt_processProtected contained body).bind_sparing
  rintro ⟨flow, caught⟩
  cases caught with
  | some fault =>
    apply (abrupt_bindCause program fault parts.cause).bind_sparing
    intro _
    apply (inert_processPart onError).sparing.bind
    intro _
    exact (inert_processPart cleanup).bind fun _ => Inert.pure _
  | none =>
    apply (inert_processPart onSuccess).sparing.bind
    intro _
    exact (inert_processPart cleanup).bind fun _ => Inert.pure flow

/-- Under the policy that stops runs, a stratified tree records one failure at most. -/
def sparing (program : Program World) : program.Discipline where
  Expression := Abrupt id
  Statement := Sparing id
  Block := Inert id
  expression_pure _ := .of_unhanded Unhanded.refl
  expression_fail _ := .of_unhanded Unhanded.refl
  expression_exhausted := .of_unhanded Unhanded.refl
  block_pure := Inert.pure
  block_exhausted := Inert.exhausted
  statement_of_expression abrupt := abrupt.sparing
  statement_of_block inert := inert.sparing
  expression_bind abrupt rest := abrupt.bind rest
  statement_after abrupt rest := abrupt.bind_sparing rest
  statement_bind sparing rest := Sparing.bind sparing rest
  block_bind inert rest := inert.bind rest
  checkpoint result _ := inert_checkpoint result
  tracked node _ _ := inert_tracked node
  read _ := .of_unhanded Unhanded.refl
  write site name cell value := .of_unhanded (Unhanded.write site name cell value)
  runStatement := sparing_runStatement
  runDeclaration := sparing_runDeclaration
  errorBlock := sparing_processErrorBlock
  call activation _ _ abrupt inert :=
    abrupt_within activation (abrupt.bind fun _ => abrupt_checkpoint inert.sparing Flow.value)
  invoke construct arguments := by
    have invoked : Abrupt id (Machine.invoke construct arguments) :=
      .of_unhanded (Unhanded.invoke construct arguments)
    exact abrupt_checkpoint invoked.sparing id

end Program

namespace Inert

/-- Reading the state is inert. -/
theorem state {part : State → Machine World} {next : State → Exec State Result}
    (inert : ∀ current, Inert part (next current)) : Inert part (Exec.state >>= next) where
  sparing before unfailed := (inert before).sparing before unfailed
  rests before failed := (inert before).rests before failed

/-- A loop over items is inert if its body is. -/
theorem forM {part : State → Machine World} {Item : Type} {items : List Item}
    {body : Item → Exec State PUnit} (inert : ∀ item ∈ items, Inert part (body item)) :
    Inert part (items.forM body) := by
  induction items with
  | nil => exact Inert.pure PUnit.unit
  | cons item rest inductionHypothesis =>
    apply (inert item List.mem_cons_self).bind
    intro _
    exact inductionHypothesis fun other member => inert other (List.mem_cons_of_mem item member)

/-- What is inert on the machine is so on the workspace. -/
theorem onMachine {body : Exec (Machine World) Result} (inert : Inert id body) :
    Inert Workspace.machine (Workspace.onMachine body) where
  sparing before unfailed := by
    have spared := inert.sparing before.machine unfailed
    simp only [Workspace.onMachine, Exec.zoom]
    cases ended : body before.machine with
    | exhausted after => trivial
    | _ =>
      rw [ended] at spared
      exact spared
  rests before failed := by
    have rested := inert.rests before.machine failed
    simp only [Workspace.onMachine, Exec.zoom]
    cases ended : body before.machine with
    | exhausted after => trivial
    | _ =>
      rw [ended] at rested
      exact rested

/-- Frames of scripts are never refused, so they are inert around a body. -/
theorem withinFrames {layouts : List Layout}
    (uncounted : ∀ layout ∈ layouts, layout.owner.isFunction = false)
    {body : Exec (Machine World) Result} (inert : Inert id body) :
    Inert id (Activation.withinFrames layouts body) := by
  induction layouts with
  | nil => exact inert
  | cons layout rest inductionHypothesis =>
    obtain ⟨first, others⟩ := List.forall_mem_cons.mp uncounted
    exact inert_within rfl first (inductionHypothesis others)

end Inert

namespace ScriptGraph

open Workspace

/-- The roots of all scripts are registered. -/
def Registered (graph : ScriptGraph World) : Prop :=
  ∀ number < graph.scripts.size,
    ((graph.script number).tree.rootLayout? (graph.script number).root).isSome = true

variable {graph : ScriptGraph World}

/-- Working with a layout that is registered. -/
theorem inert_rootLayout {script : Script World} {layout : Layout}
    (registered : script.tree.rootLayout? script.root = some layout)
    {next : Layout → Exec (Workspace World) Result} (inert : Inert machine (next layout)) :
    Inert machine (rootLayout script >>= next) := by
  have found : rootLayout script = Pure.pure layout := by
    simp only [rootLayout, registered]
    rfl
  rw [found]
  exact inert

section

variable (stratified : graph.Stratified) {number : Nat} {layout : Layout}
  (registered : (graph.script number).tree.rootLayout? (graph.script number).root = some layout)

include stratified registered

/-- Declaring a library is inert in a stratified tree. -/
theorem inert_declare (fuel : Nat) : Inert machine (graph.declare fuel number) := by
  apply inert_rootLayout registered
  apply Inert.bind
  · exact Inert.update (fun before => { Unhanded.refl before.machine with }) (fun _ => rfl)
  · intro _
    apply Inert.state
    intro workspace
    apply Inert.onMachine
    apply Inert.withinFrames fun _ => uncounted_of_mem_libraryLayouts
    apply inert_within rfl (uncounted_of_registered registered)
    apply Inert.bind
    · exact Inert.update (fun before => Unhanded.note rfl before) (fun _ => rfl)
    · intro _
      exact ((program _ _).sparing.process (stratified.script number) fuel).runDeclarations _

/-- Walking a root block is inert in a stratified tree. -/
theorem inert_runRoot (built : graph.IsBuilt) (fuel : Nat) :
    Inert machine (graph.runRoot fuel number) := by
  apply inert_rootLayout registered
  apply Inert.state
  intro workspace
  apply Inert.onMachine
  apply Inert.withinFrames fun _ => uncounted_of_mem_libraryLayouts
  apply inert_within rfl (uncounted_of_registered registered)
  apply Inert.bind
  · exact Inert.update (fun before => Unhanded.note rfl before) (fun _ => rfl)
  · intro _
    exact ((program _ _).sparing.process (stratified.script number) fuel).block
      (isBlock_root built registered)

end

variable (stratified : graph.Stratified) (registered : graph.Registered)

include stratified registered

/-- Preparing a script is inert if the trees are stratified, along the libraries below it. -/
theorem inert_prepare (fuel : Nat) {number : Nat} (known : number < graph.scripts.size)
    (skipSelf : Bool) : Inert machine (graph.prepare fuel number skipSelf) := by
  induction number using Nat.strongRecOn generalizing skipSelf with
  | ind number inductionHypothesis =>
    rw [ScriptGraph.prepare]
    apply Inert.bind
    · exact Inert.update (fun before => .refl before.machine) (fun _ => rfl)
    · intro _
      apply Inert.bind
      · apply Inert.forM
        intro library _
        apply Inert.state
        intro workspace
        split
        · exact Inert.pure ()
        · exact inductionHypothesis library.1 library.2 (Nat.lt_trans library.2 known) false
      · intro _
        split
        · exact Inert.pure ()
        · obtain ⟨layout, found⟩ := Option.isSome_iff_exists.mp (registered number known)
          exact inert_declare stratified found fuel

/-- Under the policy that stops runs, the run of a script records one failure at most. -/
theorem sparing_process (built : graph.IsBuilt) (fuel : Nat) {number : Nat}
    (known : number < graph.scripts.size) : Sparing machine (graph.process fuel number) := by
  obtain ⟨layout, found⟩ := Option.isSome_iff_exists.mp (registered number known)
  have root := inert_runRoot stratified found built fuel
  have run : Inert machine (graph.run fuel number) := by
    apply Inert.bind
    · exact Inert.update (fun before => .refl before.machine) (fun _ => rfl)
    · intro _
      apply Inert.state
      intro workspace
      split
      · exact root
      · exact (inert_prepare stratified registered fuel known true).bind fun _ => root
  intro before unfailed
  rw [ScriptGraph.process, Exec.bind_apply]
  dsimp only [Exec.state]
  split
  · exact Or.inl unfailed
  · apply Spares.ensuring
    · apply run.sparing
      rw [machine_announce]
      exact unfailed
    · intro after still
      rw [machine_announce]
      exact still
    · intro after once
      rw [machine_announce]
      exact once

end ScriptGraph

end Treewalk
