import Treewalk.Proofs.StopSignal

/-!
# Heeding a stop

How soon a computation comes to rest once the stop signal is up, as long as nobody lowers it again.
`Machine.Heeds` measures this in constructs: from a raised signal on, no more of them are invoked
than allowed, and after a signal that went up on the way no more than its mover leaves time for.

Everything that looks at the signal before it goes on allows none, and such computations can follow
each other (`Machine.heeding`). An expression may allow one, the first that it invokes, but then it
fails: an expression that is evaluated after all has not seen the signal go up, and has invoked
nothing if it was up before. So expressions can follow each other, too (`Exec.Brisk`), and then be
followed by what may allow one (`Exec.Brief`). A call starts with the pause hook, which may raise
the signal just before the parameters are bound. It ends with a look at the signal, so that it too
is done only with the signal down (`Exec.Checked`).
-/

namespace Treewalk

variable {World Result Next : Type}

namespace Exec

variable {State : Type}

/-- A sequence that is done went on from where its first computation was done. -/
theorem exists_of_bind_done {first : Exec State Result} {next : Result → Exec State Next}
    {before after : State} {result : Next} (done : (first >>= next) before = .done result after) :
    ∃ middle between, first before = .done middle between ∧
      next middle between = .done result after := by
  rw [bind_apply] at done
  cases ended : first before with
  | done middle between =>
    rw [ended] at done
    exact ⟨middle, between, rfl, done⟩
  | failed fault between =>
    rw [ended] at done
    cases done
  | exhausted between =>
    rw [ended] at done
    cases done

/-- What was cleaned up after was done. -/
theorem exists_of_ensuring_done {body : Exec State Result} {cleanup : State → State}
    {before after : State} {result : Result}
    (done : ensuring body cleanup before = .done result after) :
    ∃ inside, body before = .done result inside ∧ after = cleanup inside := by
  simp only [ensuring] at done
  cases ended : body before with
  | done answer inside =>
    rw [ended] at done
    cases done
    exact ⟨inside, rfl, rfl⟩
  | failed fault inside =>
    rw [ended] at done
    cases done
  | exhausted inside =>
    rw [ended] at done
    cases done

/-- Settled results and values that are there leave the state alone. -/
theorem eq_of_ofExcept_done {settled : Except Fault Result} {before after : State} {result : Result}
    (done : (ofExcept settled : Exec State Result) before = .done result after) :
    settled = .ok result ∧ after = before := by
  cases settled <;> cases done
  exact ⟨rfl, rfl⟩

/-- A value that has been given was there, and the state is as it was. -/
theorem eq_of_ofOption_done {cause : Cause} {found : Option Result} {before after : State}
    {result : Result}
    (done : (ofOption cause found : Exec State Result) before = .done result after) :
    found = some result ∧ after = before := by
  cases found <;> cases done
  exact ⟨rfl, rfl⟩

/-- A computation with a cleanup has ended only if its body has. -/
theorem exists_of_ensuring_final? {body : Exec State Result} {cleanup : State → State}
    {before after : State} (ended : (ensuring body cleanup before).final? = some after) :
    ∃ inside, (body before).final? = some inside ∧ after = cleanup inside := by
  simp only [ensuring] at ended
  cases reached : body before with
  | done result inside =>
    rw [reached] at ended
    cases ended
    exact ⟨inside, rfl, rfl⟩
  | failed fault inside =>
    rw [reached] at ended
    cases ended
    exact ⟨inside, rfl, rfl⟩
  | exhausted inside =>
    rw [reached] at ended
    cases ended

end Exec

/-- A scope that was left was entered, and its body was done inside. -/
theorem Activation.exists_of_within_done {activation : Activation}
    {body : Exec (Machine World) Result} {before after : Machine World} {result : Result}
    (done : activation.within body before = .done result after) :
    ∃ inside, body (activation.opened before) = .done result inside ∧
      after = activation.exit inside := by
  rw [within_apply] at done
  split at done
  · cases done
  · exact Exec.exists_of_ensuring_done done

/-- How many constructs may still be invoked after the stop signal was raised. Constructs and the
policy raise it where the next thing to happen is a look at it, and what comes from outside is seen
by the next look anyway; the pause hook may raise it before the first expression of a call or of a
declaration. -/
def SignalMover.grace : SignalMover → Nat
  | .pauseHook => 1
  | _ => 0

/-- No more constructs were invoked after the stop signal went up than its mover leaves time for. -/
def Prompt (happened : List Occurrence) : Prop :=
  ∀ later mover earlier, happened = later ++ .signalled mover true :: earlier →
    later.countP Occurrence.isInvocation ≤ mover.grace

/-- No more constructs were invoked than allowed if the stop signal was up from the start, and not
too many after it went up otherwise. -/
structure Timely (allowance : Nat) (raised : Bool) (happened : List Occurrence) : Prop where
  up : raised = true → happened.countP Occurrence.isInvocation ≤ allowance
  down : raised = false → Prompt happened

/-- Among occurrences confined to moves of the signal there are no invocations. -/
theorem countP_isInvocation_of_confined {Movers : SignalMover → Prop}
    {happened some : List Occurrence}
    (confined : ∀ occurrence ∈ happened, occurrence.Confined Movers) (included : some ⊆ happened) :
    some.countP Occurrence.isInvocation = 0 := by
  rw [List.countP_eq_zero]
  intro occurrence member
  simp [(confined occurrence (included member)).uninvoked]

namespace Prompt

variable {earlier later happened : List Occurrence}

/-- Where the signal does not move, nothing is invoked too late. -/
theorem of_unmoved (unmoved : ∀ occurrence ∈ happened, occurrence.mover? = none) :
    Prompt happened := by
  rintro later mover earlier rfl
  cases unmoved (.signalled mover true) (by simp)

/-- Among occurrences confined to moves nothing is invoked. -/
theorem of_confined {Movers : SignalMover → Prop}
    (confined : ∀ occurrence ∈ happened, occurrence.Confined Movers) : Prompt happened := by
  rintro later mover earlier rfl
  rw [countP_isInvocation_of_confined confined (List.subset_append_left later _)]
  exact Nat.zero_le _

/-- Where the signal went up earlier, what happened later counts as well. -/
theorem append (prompt : Prompt later)
    (inTime : ∀ rest mover first, earlier = rest ++ .signalled mover true :: first →
      later.countP Occurrence.isInvocation + rest.countP Occurrence.isInvocation ≤
        mover.grace) : Prompt (later ++ earlier) := by
  intro after mover before happened
  rcases List.append_eq_append_iff.mp happened with
    ⟨rest, rfl, found⟩ | ⟨rest, rfl, found⟩
  · rw [List.countP_append]
    exact inTime rest mover before found
  · cases rest with
    | nil =>
      have atOnce := inTime [] mover before found.symm
      simpa using atOnce
    | cons occurrence between =>
      cases found
      exact prompt after mover between rfl

end Prompt

namespace Timely

variable {allowance : Nat} {first middle last raised : Bool} {old new happened : List Occurrence}

/-- What is timely without an allowance is so with one. -/
theorem mono (timely : Timely 0 raised happened) : Timely allowance raised happened :=
  ⟨fun up => Nat.le_trans (timely.up up) (Nat.zero_le allowance), timely.down⟩

/-- With the signal not lowered, nothing was invoked too late. -/
theorem prompt (timely : Timely allowance raised happened) (path : SignalPath raised happened last)
    (unreset : Unreset happened) : Prompt happened := by
  cases raised with
  | false => exact timely.down rfl
  | true => exact .of_unmoved (path.of_up unreset).2

/-- What is timely followed by what is timely, as long as it stays within the allowance and within
what is left of the time that a mover has given. -/
theorem append (oldPath : SignalPath first old middle) (newPath : SignalPath middle new last)
    (unreset : Unreset (new ++ old)) (newTimely : Timely allowance middle new)
    (stays : first = true → middle = true → (new ++ old).countP Occurrence.isInvocation ≤ allowance)
    (rises : first = false → middle = true → ∀ rest mover start,
      old = rest ++ .signalled mover true :: start →
      new.countP Occurrence.isInvocation + rest.countP Occurrence.isInvocation ≤ mover.grace) :
    Timely allowance first (new ++ old) := by
  obtain ⟨newUnreset, oldUnreset⟩ := unreset.append
  have newPrompt := newTimely.prompt newPath newUnreset
  constructor
  · rintro rfl
    exact stays rfl (oldPath.of_up oldUnreset).1
  · rintro rfl
    apply newPrompt.append
    cases middle with
    | true => exact rises rfl rfl
    | false =>
      -- A signal that is down and was never lowered did not go up earlier.
      rintro rest mover start rfl
      cases oldPath.of_down oldUnreset (.signalled mover true) (by simp)

end Timely

namespace Machine

/-- Where no stop is due the stop signal is down. -/
theorem lowered_of_shouldStop {machine : Machine World} (going : ¬ machine.shouldStop = true) :
    machine.stopped = false := by
  simp only [shouldStop, Bool.or_eq_true, not_or, Bool.not_eq_true] at going
  exact going.2

/-- As long as nobody lowers the stop signal, what happened in between was timely. -/
def Heeds (allowance : Nat) (before after : Machine World) : Prop :=
  before.Accounts after fun added => Unreset added → Timely allowance before.stopped added

/-- A stop was heeded without delay, and the stop signal did not go up. -/
structure Steady (before after : Machine World) : Prop where
  heeds : Heeds 0 before after
  unraised : after.stopped = true → before.stopped = true

namespace Heeds

variable {allowance : Nat} {first second third before after : Machine World}

/-- What heeds without an allowance does so with one. -/
theorem mono (heeds : Heeds 0 before after) : Heeds allowance before after :=
  Accounts.mono heeds fun _ _ timely unreset => (timely unreset).mono

/-- What is allowed with the signal up does not matter when it is down. -/
theorem of_lowered (heeds : Heeds allowance before after) (lowered : before.stopped = false) :
    Heeds 0 before after := by
  apply Accounts.mono heeds
  intro added _ timely unreset
  exact ⟨fun up => absurd (lowered.symm.trans up) Bool.false_ne_true, (timely unreset).down⟩

/-- Where no construct is invoked there is nothing to wait for. -/
theorem of_confines {Movers : SignalMover → Prop} (confines : Confines Movers before after) :
    Heeds 0 before after := by
  apply Accounts.mono confines
  intro added _ confined _
  have uninvoked := countP_isInvocation_of_confined confined (List.Subset.refl added)
  exact ⟨fun _ => Nat.le_of_eq uninvoked, fun _ => .of_confined confined⟩

/-- What heeds a stop without delay may follow anything that heeds it. -/
theorem trans (earlier : Heeds allowance first second) (later : Heeds 0 second third) :
    Heeds allowance first third := by
  apply Accounts.trans earlier later
  intro old new oldPath newPath oldTimely newTimely unreset
  have early := oldTimely unreset.append.2
  have late := newTimely unreset.append.1
  apply Timely.append oldPath newPath unreset late.mono
  · intro up stillUp
    rw [List.countP_append]
    have none := late.up stillUp
    have few := early.up up
    omega
  · intro down up rest mover start found
    have none := late.up up
    have inTime := early.down down rest mover start found
    omega

/-- The pause hook leaves time for what may allow one construct. -/
theorem after_hook (earlier : Confines (· = .pauseHook) first second)
    (later : Heeds 1 second third) : Heeds 1 first third := by
  apply Accounts.trans earlier later
  intro old new oldPath newPath confined newTimely unreset
  have late := newTimely unreset.append.1
  apply Timely.append oldPath newPath unreset late
  · intro _ up
    rw [List.countP_append, countP_isInvocation_of_confined confined (List.Subset.refl old)]
    exact late.up up
  · rintro _ up rest mover start rfl
    have hook : mover = .pauseHook := (confined (.signalled mover true) (by simp)).movers mover rfl
    rw [countP_isInvocation_of_confined confined (List.subset_append_left rest _), hook]
    exact late.up up

end Heeds

namespace Steady

variable {allowance : Nat} {first second third before after : Machine World}

/-- What is silent neither moves the signal nor invokes anything. -/
theorem of_silences (silences : Silences before after) : Steady before after where
  heeds := .of_confines silences
  unraised up := (Confines.stopped_eq silences).symm.trans up

/-- Where nothing happens the signal does not go up. -/
theorem refl (machine : Machine World) : Steady machine machine :=
  of_silences (Confines.refl machine)

/-- If the signal is down in the end and nobody lowered it, then it never was up. -/
theorem of_lowered (heeds : Heeds allowance before after) (lowered : after.stopped = false) :
    Steady before after where
  heeds := by
    apply Accounts.mono heeds
    intro added path timely unreset
    refine ⟨?_, (timely unreset).down⟩
    intro up
    rw [up, lowered] at path
    exact absurd (path.of_up unreset).1 Bool.false_ne_true
  unraised up := absurd (lowered.symm.trans up) Bool.false_ne_true

/-- Whatever heeds a stop may follow what did not let the signal go up. -/
theorem trans_heeds (earlier : Steady first second) (later : Heeds allowance second third) :
    Heeds allowance first third := by
  apply Accounts.trans earlier.heeds later
  intro old new oldPath newPath oldTimely newTimely unreset
  have early := oldTimely unreset.append.2
  have late := newTimely unreset.append.1
  apply Timely.append oldPath newPath unreset late
  · intro up stillUp
    rw [List.countP_append]
    exact Nat.add_le_add (late.up stillUp) (early.up up)
  · intro down up
    exact absurd (down.symm.trans (earlier.unraised up)) Bool.false_ne_true

/-- Steady stretches are steady together. -/
theorem trans (earlier : Steady first second) (later : Steady second third) :
    Steady first third where
  heeds := earlier.trans_heeds later.heeds
  unraised up := earlier.unraised (later.unraised up)

end Steady

/-- Heeding a stop without delay. -/
def heeding : Contract (Machine World) where
  Raised _ := True
  Finished := Heeds 0
  Reached := Heeds 0
  refl machine := (Steady.refl machine).heeds
  trans earlier later := earlier.trans later
  reached_of_finished heeds := heeds
  reached_trans earlier later := earlier.trans later

/-- The contract speaks of every end, so it can be checked at the state that is reached. -/
theorem heeding_kept_iff {body : Exec (Machine World) Result} :
    heeding.Kept body ↔ ∀ before, Heeds 0 before (body before).state := by
  constructor
  · intro kept before
    exact (kept before).reached
  · intro heeds
    apply Contract.kept_of_finished (fun _ => trivial)
    exact heeds

/-- However the computation ends, it allows one construct. -/
def Brief (body : Exec (Machine World) Result) : Prop :=
  ∀ before, Heeds 1 before (body before).state

/-- The computation may allow one construct, but then it is not done. -/
structure Brisk (body : Exec (Machine World) Result) : Prop where
  brief : Brief body
  steady : ∀ {before after : Machine World} {result : Result},
    body before = .done result after → Steady before after

/-- The computation may allow one construct, and it is done only with the signal down. -/
structure Checked (body : Exec (Machine World) Result) : Prop where
  brief : Brief body
  lowered : ∀ {before after : Machine World} {result : Result},
    body before = .done result after → after.stopped = false

variable {first : Exec (Machine World) Result} {next : Result → Exec (Machine World) Next}

/-- Sequencing answers for where the first computation leads and for what comes after it. -/
theorem heeds_bind {allowance : Nat} {before : Machine World}
    (abandoned : Heeds allowance before (first before).state)
    (continued : ∀ result after, first before = .done result after →
      Heeds allowance before (next result after).state) :
    Heeds allowance before ((first >>= next) before).state := by
  rw [Exec.bind_apply]
  cases ended : first before with
  | done result after => exact continued result after ended
  | failed fault after =>
    rw [ended] at abandoned
    exact abandoned
  | exhausted after =>
    rw [ended] at abandoned
    exact abandoned

/-- Cleaning up adds to where the body leads, unless the body is cut off. -/
theorem heeds_ensuring {allowance : Nat} {before opened : Machine World}
    {cleanup : Machine World → Machine World}
    (inside : Heeds allowance before (first opened).state)
    (closes : ∀ after, Heeds 0 after (cleanup after)) :
    Heeds allowance before (Exec.ensuring first cleanup opened).state := by
  simp only [Exec.ensuring]
  cases ended : first opened with
  | done result after =>
    rw [ended] at inside
    exact inside.trans (closes after)
  | failed fault after =>
    rw [ended] at inside
    exact inside.trans (closes after)
  | exhausted after =>
    rw [ended] at inside
    exact inside

namespace Brief

/-- What heeds a stop without delay is brief. -/
theorem of_kept {body : Exec (Machine World) Result} (kept : heeding.Kept body) : Brief body :=
  fun before => (heeding_kept_iff.mp kept before).mono

/-- After a brief part the rest has to heed without delay. -/
theorem bind (brief : Brief first) (kept : ∀ result, heeding.Kept (next result)) :
    Brief (first >>= next) := by
  intro before
  have heeds := brief before
  apply heeds_bind heeds
  intro result after ended
  rw [ended] at heeds
  exact heeds.trans (heeding_kept_iff.mp (kept result) after)

/-- Whether a computation failed does not matter to what it allows. -/
theorem attempt (brief : Brief first) : Brief (Exec.attempt first) := by
  intro before
  have heeds := brief before
  simp only [Exec.attempt]
  cases ended : first before with
  | done result after =>
    rw [ended] at heeds
    exact heeds
  | failed fault after =>
    rw [ended] at heeds
    exact heeds
  | exhausted after =>
    rw [ended] at heeds
    exact heeds

/-- The pause hook may raise the signal where a node is entered. -/
theorem tracked (node : NodeId) (brief : Brief first) :
    Brief
      (do
        Exec.update (Machine.enter node)
        Exec.ensuring first (Machine.leave node)) := by
  intro before
  have entered := Heeds.after_hook (Confines.enter node before) (brief (before.enter node))
  exact heeds_ensuring entered fun after => .of_confines (Confines.leave node after)

end Brief

namespace Brisk

/-- What is silent is brisk. -/
theorem of_silences {body : Exec (Machine World) Result}
    (silences : ∀ before, Silences before (body before).state) : Brisk body where
  brief before := (Heeds.of_confines (silences before)).mono
  steady := by
    intro before after result done
    have silent := silences before
    rw [done] at silent
    exact .of_silences silent

/-- Being done with a value invokes nothing. -/
theorem pure (result : Result) : Brisk (Pure.pure result : Exec (Machine World) Result) :=
  of_silences fun before => Confines.refl before

/-- Failing invokes nothing. -/
theorem fail (fault : Fault) : Brisk (Exec.fail fault : Exec (Machine World) Result) :=
  of_silences fun before => Confines.refl before

/-- What is cut off invokes nothing and is not done. -/
theorem exhausted : Brisk (Exec.exhausted : Exec (Machine World) Result) :=
  of_silences fun before => Confines.refl before

/-- A write invokes nothing. -/
theorem write (site : WriteSite) (name : String) (cell : Cell) (value : Value) :
    Brisk (Machine.write site name cell value : Exec (Machine World) Unit) :=
  of_silences (Confines.write site name cell value)

/-- What may allow one construct can follow an expression. -/
theorem bind_brief (brisk : Brisk first) (brief : ∀ result, Brief (next result)) :
    Brief (first >>= next) := by
  intro before
  apply heeds_bind (brisk.brief before)
  intro result after ended
  exact (brisk.steady ended).trans_heeds (brief result after)

/-- A sequence of brisk parts is brisk, since each is done only with the signal where it was. -/
theorem bind (brisk : Brisk first) (rest : ∀ result, Brisk (next result)) :
    Brisk (first >>= next) where
  brief := brisk.bind_brief fun result => (rest result).brief
  steady := by
    intro before after result done
    obtain ⟨middle, between, ended, continued⟩ := Exec.exists_of_bind_done done
    exact (brisk.steady ended).trans ((rest middle).steady continued)

end Brisk

namespace Checked

/-- What is done only with the signal down is brisk. -/
theorem brisk (checked : Checked first) : Brisk first where
  brief := checked.brief
  steady := by
    intro before after result done
    have heeds := checked.brief before
    rw [done] at heeds
    exact .of_lowered heeds (checked.lowered done)

/-- After a look at the signal it is down, or the computation fails. -/
theorem checkpoint (brief : Brief first) (answer : Result → Next) :
    Checked
      (do
        let result ← first
        let stops ← Machine.poll
        if stops then Exec.fail .cancelled else return answer result) where
  brief := by
    intro before
    have heeds := brief before
    apply heeds_bind heeds
    intro result after ended
    rw [ended] at heeds
    have looked : ((do
        let stops ← Machine.poll
        if stops then Exec.fail .cancelled else return answer result :
          Exec (Machine World) Next) after).state = after.look := by
      rw [Exec.bind_apply, poll_apply]
      dsimp only
      split <;> rfl
    rw [looked]
    exact heeds.trans (.of_confines (Confines.look after))
  lowered := by
    intro before after result done
    obtain ⟨middle, between, -, looked⟩ := Exec.exists_of_bind_done done
    rw [Exec.bind_apply, poll_apply] at looked
    dsimp only at looked
    split at looked
    · cases looked
    · next going =>
      cases looked
      exact lowered_of_shouldStop going

/-- After a brisk part the check comes at the end. -/
theorem bind (brisk : Brisk first) (checked : ∀ result, Checked (next result)) :
    Checked (first >>= next) where
  brief := brisk.bind_brief fun result => (checked result).brief
  lowered := by
    intro before after result done
    obtain ⟨middle, between, -, continued⟩ := Exec.exists_of_bind_done done
    exact (checked middle).lowered continued

/-- A call, whose call site may let the pause hook raise the signal. -/
theorem within (activation : Activation) (checked : Checked first) :
    Checked (activation.within first) where
  brief := by
    intro before
    have opened := Heeds.after_hook (Confines.opened activation before)
      (checked.brief (activation.opened before))
    rw [Activation.within_apply]
    split
    · next limit _ => exact (Heeds.of_confines (Confines.refused activation limit before)).mono
    · exact heeds_ensuring opened fun after => .of_confines (Confines.exit activation after)
  lowered := by
    intro before after result done
    obtain ⟨inside, ended, rfl⟩ := Activation.exists_of_within_done done
    exact (Confines.stopped_eq (Confines.exit activation inside)).trans (checked.lowered ended)

end Checked

/-- A construct that raises the signal is the last to be invoked. -/
theorem brief_invoke (construct : Construct World) (arguments : List Value) :
    Brief (Machine.invoke construct arguments) := by
  intro before
  apply (Accounts.invoke construct arguments before).mono
  rintro _ _ ⟨moves, rfl, confined⟩ _
  constructor
  · intro _
    rw [List.countP_append, countP_isInvocation_of_confined confined (List.Subset.refl moves)]
    exact Nat.le_refl 1
  · intro _
    apply Prompt.append (.of_confined confined)
    intro rest mover start found
    cases rest with
    | nil => cases found
    | cons occurrence between => simp at found

/-- What looks at the signal before it goes on heeds a stop without delay. -/
theorem heeding_checkpoint {stop go : Exec (Machine World) Result} (stopKept : heeding.Kept stop)
    (brief : Brief go) :
    heeding.Kept
      (do
        let stops ← Machine.poll
        if stops then stop else go) := by
  rw [heeding_kept_iff]
  intro before
  have looked : Heeds 0 before before.look := .of_confines (Confines.look before)
  rw [Exec.bind_apply, poll_apply]
  dsimp only
  split
  · exact looked.trans (heeding_kept_iff.mp stopKept before.look)
  · next going => exact looked.trans ((brief before.look).of_lowered (lowered_of_shouldStop going))

/-- A write neither invokes nor moves anything. -/
theorem heeding_write (site : WriteSite) (name : String) (cell : Cell) (value : Value) :
    heeding.Kept (Machine.write site name cell value : Exec (Machine World) Unit) :=
  heeding_kept_iff.mpr fun before => .of_confines (Confines.write site name cell value before)

/-- A fault may raise the signal for the policy. -/
theorem heeding_hand (fault : Fault) :
    heeding.Kept (Machine.hand fault : Exec (Machine World) Unit) :=
  heeding_kept_iff.mpr fun before => .of_confines (Confines.hand fault before)

/-- That it is handed on is noted. -/
theorem heeding_handFrom (statement : NodeId) (fault : Fault) :
    heeding.Kept (Machine.handFrom statement fault : Exec (Machine World) Unit) :=
  heeding_kept_iff.mpr fun before => .of_confines (Confines.handFrom statement fault before)

/-- A statement heeds a stop if its body does, because a pause that raises the signal leaves no more
to invoke than the body allows. -/
theorem heeding_tracked (node : NodeId) (kept : heeding.Kept first) :
    heeding.Kept
      (do
        Exec.update (Machine.enter node)
        Exec.ensuring first (Machine.leave node)) := by
  apply Contract.kept_tracked node kept
  · intro before after inside
    exact (Heeds.trans (.of_confines (Confines.enter node before)) inside).trans
      (.of_confines (Confines.leave node after))
  · intro before after inside
    exact Heeds.trans (.of_confines (Confines.enter node before)) inside

/-- Error scopes are no business of the stop signal. -/
theorem heeding_protect (kept : heeding.Kept first) : heeding.Kept (Machine.protect first) :=
  Contract.kept_protect kept (fun _ _ inside => inside) (fun _ _ inside => inside)

/-- A scope heeds a stop if its body does, with the pause at its call site. -/
theorem heeding_within (activation : Activation) (kept : heeding.Kept first) :
    heeding.Kept (activation.within first) := by
  intro before
  have opened : Heeds 0 before (activation.opened before) :=
    .of_confines (Confines.opened activation before)
  refine Contract.fulfilled_within activation (kept _) (fun _ => trivial) ?_ ?_ ?_
  · intro limit
    exact .of_confines (Confines.refused activation limit before)
  · intro after inside
    exact (opened.trans inside).trans (.of_confines (Confines.exit activation after))
  · intro after inside
    exact opened.trans inside

end Machine

end Treewalk
