import Treewalk.Proofs.HandedFaults
import Treewalk.Proofs.MirroredRuns
import Treewalk.Proofs.StopSignal

/-!
# Transparent error blocks

Around a body that does not fail, an error block without any other part makes no difference. Its
body runs with one error scope more, and everything in it, however deeply nested, gets the same
answers through that scope, as long as nothing fails right at its level.

`Machine.sheltered` is the machine as this run has it: an empty scope lies on top of those that are
open around the error block, and whatever was handed on meanwhile came to a scope one level further
inside. Nothing else is different, so the operations of the machine that read neither scopes nor
trace do the same to it. The two runs mirror each other (`Machine.sheltering`), and what parts them
is a failure that is handed on at the level of the error block.
-/

namespace Treewalk

variable {World Result Next : Type}

namespace ErrorScope

/-- Open scopes with an empty one on top of the outermost ones, of which there are `level`. -/
def sheltered (level : Nat) : List ErrorScope → List ErrorScope
  | [] => [{ }]
  | scope :: outer =>
    if level ≤ outer.length then scope :: sheltered level outer else { } :: scope :: outer

variable {level : Nat} {scopes outer : List ErrorScope}

/-- Above the level the shelter is the innermost scope. -/
theorem sheltered_of_le (le : scopes.length ≤ level) : sheltered level scopes = { } :: scopes := by
  cases scopes with
  | nil => rfl
  | cons scope outer => exact if_neg (Nat.not_le.mpr le)

/-- A scope inside the shelter is not touched by it. -/
theorem sheltered_cons (le : level ≤ outer.length) (scope : ErrorScope) :
    sheltered level (scope :: outer) = scope :: sheltered level outer :=
  if_pos le

/-- Deeper than the level there is a scope to take off. -/
theorem exists_of_lt (deep : level < scopes.length) :
    ∃ scope outer, scopes = scope :: outer ∧ level ≤ outer.length := by
  cases scopes with
  | nil => exact absurd deep (Nat.not_lt_zero level)
  | cons scope outer => exact ⟨scope, outer, rfl, Nat.le_of_lt_succ deep⟩

/-- The shelter is one more scope. -/
@[simp] theorem length_sheltered (level : Nat) (scopes : List ErrorScope) :
    (sheltered level scopes).length = scopes.length + 1 := by
  induction scopes with
  | nil => rfl
  | cons scope outer inductionHypothesis =>
    rw [sheltered]
    split
    · rw [List.length_cons, inductionHypothesis, List.length_cons]
    · rfl

/-- The added scope has recorded nothing. -/
theorem any_sheltered (level : Nat) (scopes : List ErrorScope) :
    (sheltered level scopes).any (·.error.isSome) = scopes.any (·.error.isSome) := by
  induction scopes with
  | nil => rfl
  | cons scope outer inductionHypothesis =>
    rw [sheltered]
    split
    · rw [List.any_cons, inductionHypothesis, List.any_cons]
    · rfl

end ErrorScope

namespace Occurrence

/-- The occurrence as it is noted with one error scope more. -/
def deepened : Occurrence → Occurrence
  | .handed statement top inside fault => .handed statement top (inside + 1) fault
  | occurrence => occurrence

/-- What the machine notes by itself has no level. -/
theorem deepened_of_isRoutine {occurrence : Occurrence} (routine : occurrence.isRoutine = true) :
    occurrence.deepened = occurrence := by
  cases occurrence with
  | handed => cases routine
  | _ => rfl

@[simp] theorem invocation?_deepened (occurrence : Occurrence) :
    occurrence.deepened.invocation? = occurrence.invocation? := by
  cases occurrence <;> rfl

end Occurrence

/-- A trace of which all but the oldest occurrences were noted with one error scope more. -/
def deepenNewest (older : Nat) : List Occurrence → List Occurrence
  | [] => []
  | newest :: rest =>
    (if older ≤ rest.length then newest.deepened else newest) :: deepenNewest older rest

/-- Where nothing is new, nothing is deepened. -/
theorem deepenNewest_of_le {older : Nat} {happened : List Occurrence}
    (le : happened.length ≤ older) : deepenNewest older happened = happened := by
  induction happened with
  | nil => rfl
  | cons newest rest inductionHypothesis =>
    rw [List.length_cons] at le
    rw [deepenNewest, if_neg (by omega), inductionHypothesis (by omega)]

/-- What has been added is deepened, and what was there before is not. -/
theorem deepenNewest_append (added earlier : List Occurrence) :
    deepenNewest earlier.length (added ++ earlier) =
      added.map Occurrence.deepened ++ earlier := by
  induction added with
  | nil => exact deepenNewest_of_le (Nat.le_refl earlier.length)
  | cons newest rest inductionHypothesis =>
    have within : earlier.length ≤ (rest ++ earlier).length := by simp
    rw [List.cons_append, deepenNewest, if_pos within, inductionHypothesis]
    rfl

namespace Machine

/-- The machine with an empty error scope on top of the outermost ones, and with all but the oldest
occurrences noted there. -/
def sheltered (level older : Nat) (machine : Machine World) : Machine World :=
  { machine with
    scopes := ErrorScope.sheltered level machine.scopes
    trace := deepenNewest older machine.trace }

variable {level older floor : Nat}

/-- A shelter is apart from everything but the error scopes and the trace. -/
theorem apart_sheltered (level older : Nat) :
    Apart (sheltered level older : Machine World → Machine World) where
  aside _ _ _ _ := rfl
  note machine occurrence routine := by
    simp only [sheltered, note, deepenNewest, Occurrence.deepened_of_isRoutine routine, ite_self]
  countLook _ := rfl
  moves _ := rfl

/-- Where the error block is entered, the added scope is the one it opens. -/
theorem sheltered_length (machine : Machine World) :
    machine.sheltered machine.scopes.length machine.trace.length = machine.openScope := by
  simp only [sheltered, openScope, ErrorScope.sheltered_of_le (Nat.le_refl _),
    deepenNewest_of_le (Nat.le_refl _)]

/-- Closing the shelter leaves the scopes as they were without it. -/
theorem closeScope_sheltered {machine : Machine World} (le : machine.scopes.length ≤ level) :
    (machine.sheltered level older).closeScope =
      { machine with trace := deepenNewest older machine.trace } := by
  simp only [sheltered, closeScope, ErrorScope.sheltered_of_le le, List.tail_cons]

/-- The added scope makes no difference to which constructs were invoked. -/
theorem invocations_closeScope_sheltered {machine : Machine World} {added earlier : List Occurrence}
    (trace : machine.trace = added ++ earlier) (le : machine.scopes.length ≤ level) :
    (machine.sheltered level earlier.length).closeScope.invocations = machine.invocations := by
  simp only [closeScope_sheltered le, invocations, trace, deepenNewest_append,
    List.filterMap_append, List.filterMap_map, Function.comp_def, Occurrence.invocation?_deepened]

/-- The shelter records nothing at its level, so it is no reason to stop. -/
@[simp] theorem shouldStop_sheltered (machine : Machine World) :
    (machine.sheltered level older).shouldStop = machine.shouldStop := by
  rw [shouldStop, shouldStop, (apart_sheltered level older).stopped]
  exact congrArg (· || machine.stopped) (ErrorScope.any_sheltered level machine.scopes)

/-- So it makes no difference to what a look at the stop signal comes to. -/
theorem poll_sheltered (machine : Machine World) :
    poll (machine.sheltered level older) = (poll machine).mapState (sheltered level older) := by
  rw [poll_apply, poll_apply, (apart_sheltered level older).look, shouldStop_sheltered]
  rfl

/-- In the end as many error scopes are open as before, and never fewer meanwhile. -/
def leveling : Contract (Machine World) where
  Raised _ := True
  Finished before after := after.scopes.length = before.scopes.length
  Reached before after := before.scopes.length ≤ after.scopes.length
  refl _ := rfl
  trans earlier later := later.trans earlier
  reached_of_finished finished := Nat.le_of_eq finished.symm
  reached_trans earlier later := earlier ▸ later

/-- What records nothing keeps the number of open scopes. -/
theorem leveling_of_sameRecords {body : Exec (Machine World) Result}
    (same : ∀ before, SameRecords before (body before).state) : leveling.Kept body :=
  Contract.kept_of_finished (fun _ => trivial) fun before =>
    congrArg List.length (same before).scopes

/-- Recording opens and closes no scope. -/
theorem leveling_hand (fault : Fault) :
    leveling.Kept (hand fault : Exec (Machine World) Unit) := by
  apply Contract.kept_of_finished (fun _ => trivial)
  intro before
  change (hand fault before).state.scopes.length = before.scopes.length
  cases opened : before.scopes with
  | nil =>
    have unopened := scopes_handUncaught fault before
    simp only [hand, opened, unopened]
  | cons scope outer =>
    simp only [hand, opened]
    split
    · exact congrArg List.length opened
    · rfl

/-- Nor does the note before it. -/
theorem leveling_handFrom (statement : NodeId) (fault : Fault) :
    leveling.Kept (handFrom statement fault : Exec (Machine World) Unit) :=
  Contract.kept_state fun _ =>
    Contract.kept_bind (Contract.kept_update fun _ => rfl) fun _ => leveling_hand fault

/-- Programs open and close error scopes in pairs. -/
theorem leveling_upheld (program : Program World) : leveling.Upheld program where
  raises_ofCause _ := trivial
  poll := leveling_of_sameRecords fun before => by
    rw [poll_apply]
    exact .look before
  write site name cell value := leveling_of_sameRecords (SameRecords.write site name cell value)
  invoke construct arguments := leveling_of_sameRecords (SameRecords.invoke construct arguments)
  hand _ := leveling_hand _
  handFrom statement _ _ _ := leveling_handFrom statement _
  tracked node _ _ kept := by
    have entered (before : Machine World) : (before.enter node).scopes = before.scopes :=
      (SameRecords.enter node before).scopes
    apply Contract.kept_tracked node kept
    · intro before after (inside : after.scopes.length = (before.enter node).scopes.length)
      rw [entered] at inside
      exact inside
    · intro before after (inside : (before.enter node).scopes.length ≤ after.scopes.length)
      rw [entered] at inside
      exact inside
  protect kept := by
    apply Contract.kept_protect kept
    · intro before after (inside : after.scopes.length = before.scopes.length + 1)
      change after.scopes.tail.length = before.scopes.length
      rw [List.length_tail, inside, Nat.add_sub_cancel]
    · intro before after (inside : before.scopes.length + 1 ≤ after.scopes.length)
      exact Nat.le_of_succ_le inside
  call site callee _ _ _ _ kept := by
    let activation : Activation :=
      { layout := program.tree.functionLayout callee, callSite := some site }
    intro before
    have opened : (activation.opened before).scopes = before.scopes :=
      (SameRecords.opened activation before).scopes
    apply Contract.fulfilled_within activation (kept _) (fun _ => trivial)
    · exact fun limit => congrArg List.length (SameRecords.refused activation limit before).scopes
    · intro after (inside : after.scopes.length = (activation.opened before).scopes.length)
      rw [opened] at inside
      exact (congrArg List.length (SameRecords.exit activation after).scopes).trans inside
    · intro after (inside : (activation.opened before).scopes.length ≤ after.scopes.length)
      rw [opened] at inside
      exact inside

/-- Routing a fault further inside does not get to the added scope. -/
theorem hand_sheltered {machine : Machine World} (deep : level < machine.scopes.length)
    (fault : Fault) :
    hand fault (machine.sheltered level older) =
      (hand fault machine).mapState (sheltered level older) := by
  obtain ⟨scope, outer, opened, below⟩ := ErrorScope.exists_of_lt deep
  simp only [hand, sheltered, opened, ErrorScope.sheltered_cons below]
  split
  · simp only [Outcome.mapState, sheltered, opened, ErrorScope.sheltered_cons below]
  · simp only [Outcome.mapState, sheltered, ErrorScope.sheltered_cons below]

/-- What an innermost scope further inside has recorded is still found there. -/
theorem recordedError?_sheltered {machine : Machine World} (deep : level < machine.scopes.length) :
    (machine.sheltered level older).recordedError? = machine.recordedError? := by
  obtain ⟨scope, outer, opened, below⟩ := ErrorScope.exists_of_lt deep
  simp only [recordedError?, sheltered, opened, ErrorScope.sheltered_cons below, List.head?_cons]

/-- Scopes inside the shelter are closed as without it. -/
theorem closeScope_sheltered_of_lt {machine : Machine World}
    (deep : level < machine.scopes.length) :
    (machine.sheltered level older).closeScope = machine.closeScope.sheltered level older := by
  obtain ⟨scope, outer, opened, below⟩ := ErrorScope.exists_of_lt deep
  simp only [closeScope, sheltered, opened, ErrorScope.sheltered_cons below, List.tail_cons]

/-- Scopes are opened inside the shelter as without it. -/
theorem openScope_sheltered {machine : Machine World} (le : level ≤ machine.scopes.length) :
    (machine.sheltered level older).openScope = machine.openScope.sheltered level older := by
  simp only [openScope, sheltered, ErrorScope.sheltered_cons le]

end Machine

open Machine

/-- Runs without the added scope seen from the runs with it, as long as at least `floor` scopes are
open. What parts them are failures that are handed on right where the scope was added. -/
def sheltering (level older floor : Nat) : Mirror (Machine World) where
  image := sheltered level older
  Clear machine := floor ≤ machine.scopes.length ∧ older ≤ machine.trace.length
  partings machine := (handedTo level machine.trace).length

namespace Sheltering

variable {level older floor : Nat}

/-- Nothing is taken back from the trace, and no scope below the floor is closed. -/
theorem onward {before after : Machine World} (trace : before.trace <:+ after.trace)
    (scopes : before.scopes.length ≤ after.scopes.length) :
    (sheltering level older floor).Onward before after where
  clear clear := ⟨Nat.le_trans clear.1 scopes, Nat.le_trans clear.2 trace.length_le⟩
  partings := by
    obtain ⟨added, same⟩ := trace
    simp only [sheltering, ← same, handedTo_append, List.length_append]
    exact Nat.le_add_right _ _

/-- What records nothing goes onward. -/
theorem onward_of_later {before after : Machine World} (later : before.Later (fun _ => True) after)
    (same : SameRecords before after) : (sheltering level older floor).Onward before after :=
  onward later.suffix (Nat.le_of_eq (congrArg List.length same.scopes.symm))

/-- What reads neither scopes nor trace does the same to both. -/
theorem mirrored_of_apart {body : Exec (Machine World) Result}
    (later : ∀ before, Machine.Later (fun _ => True) before (body before).state)
    (same : ∀ before, SameRecords before (body before).state)
    (commutes : ∀ machine : Machine World, body (machine.sheltered level older) =
      (body machine).mapState (sheltered level older)) :
    (sheltering level older floor).Mirrored body body :=
  .of_commutes (fun before => onward_of_later (later before) (same before))
    fun before _ => commutes before

/-- A checkpoint finds the same with and without the shelter. -/
theorem mirrored_checkpoint {leftStop rightStop leftGo rightGo : Exec (Machine World) Result}
    (stop : (sheltering level older floor).Mirrored leftStop rightStop)
    (go : (sheltering level older floor).Mirrored leftGo rightGo) :
    (sheltering level older floor).Mirrored
      (do
        let stops ← poll
        if stops then leftStop else leftGo)
      (do
        let stops ← poll
        if stops then rightStop else rightGo) := by
  have looks : (sheltering level older floor).Mirrored
      (poll : Exec (Machine World) Bool) poll := by
    apply mirrored_of_apart
    · intro before
      rw [poll_apply]
      exact .look (fun _ => trivial) before
    · intro before
      rw [poll_apply]
      exact .look before
    · exact poll_sheltered
  apply looks.bind
  rintro (_ | _)
  · exact go
  · exact stop

/-- Inside a scope above the shelter a fault is recorded there. -/
theorem mirrored_hand (fault : Fault) :
    (sheltering level older (level + 1)).Mirrored
      (hand fault : Exec (Machine World) Unit) (hand fault) :=
  .of_commutes
    (fun before => onward (Later.hand before Occurrence.freely fault).suffix
      (leveling_hand fault before).reached)
    fun _ clear => hand_sheltered clear.1 fault

/-- Handing on the failure of a statement parts the runs only at the level of the added scope. -/
theorem mirrored_handFrom (statement : NodeId) (fault : Fault) :
    (sheltering level older level).Mirrored
      (handFrom statement fault : Exec (Machine World) Unit) (handFrom statement fault) where
  onward before := onward (Later.handFrom before Occurrence.freely statement fault).suffix
    (leveling_handFrom statement fault before).reached
  same {before} clear unparted := by
    let noted := before.note
      (.handed statement before.monitor.top? before.scopes.length fault)
    have handed : handFrom statement fault before = hand fault noted := rfl
    rw [handed] at unparted ⊢
    rcases Nat.lt_or_ge level before.scopes.length with deep | shallow
    · have image : handFrom statement fault (before.sheltered level older) =
          hand fault (noted.sheltered level older) := by
        simp only [handFrom, noted, sheltered, note, deepenNewest, clear.2, if_true,
          Occurrence.deepened, Exec.bind_apply, Exec.state, Exec.update,
          ErrorScope.length_sheltered]
      have inside : level < noted.scopes.length := deep
      exact image.trans (hand_sheltered inside fault)
    · have here : before.scopes.length = level := Nat.le_antisymm shallow clear.1
      have later : (sheltering level older level).Onward noted (hand fault noted).state :=
        onward (Later.hand noted Occurrence.freely fault).suffix (leveling_hand fault noted).reached
      have more := later.partings
      have counted : (handedTo level noted.trace).length =
          (handedTo level before.trace).length + 1 := by
        simp only [noted, note, handedTo_cons, Occurrence.handedTo?, here, if_true,
          Option.toList_some, List.length_append, List.length_singleton]
      simp only [sheltering] at more unparted
      omega

section

variable {left right : Exec (Machine World) Result}

/-- Where more scopes are open than were at first, they stay open. -/
theorem inside (body : (sheltering level older level).Mirrored left right)
    (levels : leveling.Kept left) : (sheltering level older (level + 1)).Mirrored left right where
  onward before := by
    have onward := body.onward before
    refine ⟨fun clear => ⟨?_, ?_⟩, onward.partings⟩
    · exact Nat.le_trans clear.1 (levels before).reached
    · exact (onward.clear ⟨Nat.le_of_succ_le clear.1, clear.2⟩).2
  same clear unparted := body.same ⟨Nat.le_of_succ_le clear.1, clear.2⟩ unparted

/-- A statement stands on the call stack with and without the shelter. -/
theorem mirrored_tracked (node : NodeId)
    (body : (sheltering level older floor).Mirrored left right) :
    (sheltering level older floor).Mirrored
      (do
        Exec.update (Machine.enter node)
        Exec.ensuring left (Machine.leave node))
      (do
        Exec.update (Machine.enter node)
        Exec.ensuring right (Machine.leave node)) := by
  have apart : Apart (sheltered level older : Machine World → Machine World) :=
    apart_sheltered level older
  apply Mirror.Mirrored.bind
  · exact .update
      (fun before => onward_of_later (.enter before Occurrence.freely trivial) (.enter node before))
      fun before _ => apart.enter before node
  · intro _
    exact body.ensuring
      (fun before => onward_of_later (.leave before Occurrence.freely node) (.leave node before))
      fun before _ => apart.leave before node

/-- A scope is refused with and without the shelter. -/
theorem mirrored_within (activation : Activation)
    (body : (sheltering level older floor).Mirrored left right) :
    (sheltering level older floor).Mirrored (activation.within left) (activation.within right) := by
  have apart : Apart (sheltered level older : Machine World → Machine World) :=
    apart_sheltered level older
  have entered : (sheltering level older floor).Mirrored
      (activation.enter : Exec (Machine World) Unit) activation.enter := by
    apply mirrored_of_apart
    · intro before
      rw [Activation.enter_apply]
      split
      · exact .refused before Occurrence.freely activation _
      · exact .opened activation before Occurrence.freely fun _ _ => trivial
    · intro before
      rw [Activation.enter_apply]
      split
      · exact .refused activation _ before
      · exact .opened activation before
    · exact fun machine => apart.enterScope machine activation
  apply entered.bind
  intro _
  exact body.ensuring
    (fun before => onward_of_later (.exit before Occurrence.freely activation)
      (.exit activation before))
    fun before _ => apart.exit before activation

/-- A scope further inside is opened and closed beside the added one. -/
theorem mirrored_protect (body : (sheltering level older (level + 1)).Mirrored left right)
    (levels : leveling.Kept left) :
    (sheltering level older level).Mirrored (protect left) (protect right) := by
  have clears {machine : Machine World} (clear : (sheltering level older level).Clear machine) :
      (sheltering level older (level + 1)).Clear machine.openScope :=
    ⟨Nat.succ_le_succ clear.1, clear.2⟩
  have closes {before after : Machine World}
      (finished : after.scopes.length = before.scopes.length + 1)
      (inner : (sheltering level older (level + 1)).Onward before.openScope after) :
      (sheltering level older level).Onward before after.closeScope := by
    refine ⟨fun clear => ⟨?_, (inner.clear (clears clear)).2⟩, inner.partings⟩
    change level ≤ after.scopes.tail.length
    rw [List.length_tail, finished]
    exact clear.1
  constructor
  · intro before
    have inner := body.onward before.openScope
    have kept := levels before.openScope
    rw [protect_apply]
    cases ended : left before.openScope with
    | done result after =>
      rw [ended] at inner kept
      exact closes kept inner
    | failed fault after =>
      rw [ended] at inner kept
      exact closes kept.2 inner
    | exhausted after =>
      rw [ended] at inner
      refine ⟨fun clear => ?_, inner.partings⟩
      obtain ⟨scopes, trace⟩ := inner.clear (clears clear)
      exact ⟨Nat.le_of_succ_le scopes, trace⟩
  · intro before clear unparted
    have opened : ((sheltering level older level).image before).openScope =
        (sheltering level older (level + 1)).image before.openScope := openScope_sheltered clear.1
    have inner := (body.onward before.openScope).clear (clears clear)
    have same := body.same (clears clear)
    rw [protect_apply] at unparted
    rw [protect_apply, protect_apply, opened]
    cases ended : left before.openScope with
    | done result after =>
      rw [ended] at inner same unparted
      have deep : level < after.scopes.length := inner.1
      rw [same unparted]
      simp only [Outcome.mapState, sheltering, recordedError?_sheltered deep,
        closeScope_sheltered_of_lt deep]
    | failed fault after =>
      rw [ended] at inner same unparted
      rw [same unparted]
      exact congrArg (Outcome.failed fault) (closeScope_sheltered_of_lt inner.1)
    | exhausted after =>
      rw [ended] at same unparted
      rw [same unparted]
      rfl

end

variable {program : Program World} {left right : Program.Walk World}

/-- A failure of a statement at the level itself would get into the shelter, so none is handed on
there. -/
theorem mirrored_runStatement {statement : NodeId}
    (walk : (sheltering level older level).Mirrored (left statement) (right statement)) :
    (sheltering level older level).Mirrored (Program.runStatement left statement)
      (Program.runStatement right statement) := by
  apply walk.attempt.bind
  intro ended
  cases ended with
  | ok flow => exact .pure flow
  | error fault =>
    simp only [Program.settle]
    split
    · exact .pure _
    · exact (mirrored_handFrom statement fault).bind fun _ => .pure _

/-- Entering a statement looks the same from inside the shelter. -/
theorem mirrored_processStatement {statement : NodeId}
    (walk : (sheltering level older level).Mirrored (left statement) (right statement)) :
    (sheltering level older level).Mirrored (program.processStatement left statement)
      (program.processStatement right statement) := by
  have run := mirrored_runStatement walk
  simp only [Program.processStatement]
  cases program.tree.instruction statement with
  | error fault => exact .fail fault
  | ok instruction =>
    refine Mirror.Mirrored.bind (.pure instruction) fun instruction => ?_
    split
    · exact mirrored_tracked statement (mirrored_checkpoint (.pure _) run)
    · exact run

/-- The body of an error block further inside is protected by a scope of its own. -/
theorem mirrored_processProtected {body : NodeId}
    (walk : (sheltering level older level).Mirrored (left body) (right body))
    (levels : leveling.Kept (left body)) :
    (sheltering level older level).Mirrored (Program.processProtected left body)
      (Program.processProtected right body) := by
  have runs : (sheltering level older (level + 1)).Mirrored (Program.runProtected left body)
      (Program.runProtected right body) := by
    apply (inside walk levels).attempt.bind
    intro ended
    cases ended with
    | ok flow => exact .pure flow
    | error fault => exact (mirrored_hand fault).bind fun _ => .pure _
  have kept : leveling.Kept (Program.runProtected left body) :=
    Contract.kept_attempt levels (fun flow => Contract.kept_pure flow) fun fault _ =>
      Contract.kept_bind (leveling_hand fault) fun _ => Contract.kept_pure _
  exact mirrored_protect runs kept

/-- The rules of the evaluator, around walks with some fuel. -/
def rules (program : Program World) (level older fuel : Nat) :
    program.WalkRules (program.process fuel) (program.process fuel) where
  Related left right := (sheltering level older level).Mirrored left right
  pure := .pure
  failFor _ := .fail _
  bind := .bind
  checkpoint := mirrored_checkpoint
  read cell := by
    have stores (machine : Machine World) :
        (machine.sheltered level older).store = machine.store := rfl
    exact .state (fun _ => .pure _) fun machine => by rw [sheltering, stores]
  write site name cell value := mirrored_of_apart
    (fun _ => .write (fun _ => trivial) name value) (SameRecords.write site name cell value)
    fun machine => (apart_sheltered level older).write machine site name cell value
  invoke construct arguments := mirrored_of_apart
    (fun before => .invoke before Occurrence.freely construct arguments)
    (SameRecords.invoke construct arguments)
    fun machine => (apart_sheltered level older).invoke machine construct arguments
  processStatement := mirrored_processStatement
  processProtected {body} walk :=
    mirrored_processProtected walk ((leveling_upheld program).process fuel body)

/-- The walk of every node is mirrored. -/
theorem mirrored_process (program : Program World) (level older fuel : Nat) (node : NodeId) :
    (sheltering level older level).Mirrored (program.process fuel node)
      (program.process fuel node) := by
  induction fuel generalizing node with
  | zero => exact .exhausted
  | succ fuel inductionHypothesis =>
    let rules := rules program level older fuel
    have walks (node : NodeId) : rules.Walks node := inductionHypothesis node
    refine rules.step node (fun child _ => walks child) (fun _ _ _ => walks node) ?_
    intro callee arguments _ function _ values
    exact mirrored_within _
      (rules.runFunction (fun _ _ _ _ node _ => walks node) (walks function.body) values)

end Sheltering

/-- An error block of nothing but a body. -/
def ErrorBlock.bare (body : NodeId) : ErrorBlock :=
  { body, onError := none, onSuccess := none, cleanup := none, cause := none }

namespace Program

/-- Around a body that neither fails nor has a failure handed on at its level, a bare error block
is transparent. If the body ends with a flow, or in the signal of a stop request, then so does the
error block, and it leaves the same bindings, the same monitor (with its call stack, frame log,
recorded errors and stop signal), the same error scopes and the same host, and has invoked the same
constructs. In the trace, what was handed on further inside was handed on one level deeper. -/
theorem transparent_error_block (program : Program World) (fuel : Nat) {node body : NodeId}
    (bare : program.tree.instruction node = .ok (.statement (.errorBlock (.bare body))))
    {before : Machine World} {added : List Occurrence}
    (happened : (program.process fuel body before).state.trace = added ++ before.trace)
    (unhandled : handedTo before.scopes.length added = []) :
    (∀ flow after, program.process fuel body before = .done flow after →
      ∃ hidden, program.process (fuel + 1) node before = .done flow hidden ∧
        hidden = { after with trace := added.map Occurrence.deepened ++ before.trace } ∧
        hidden.invocations = after.invocations) ∧
    ∀ fault after, program.process fuel body before = .failed fault after →
      fault.isCancellation = true →
      ∃ hidden, program.process (fuel + 1) node before = .failed fault hidden ∧
        hidden = { after with trace := added.map Occurrence.deepened ++ before.trace } ∧
        hidden.invocations = after.invocations := by
  let level := before.scopes.length
  let older := before.trace.length
  have unparted : (sheltering level older level).partings
      (program.process fuel body before).state =
        (sheltering level older level).partings before := by
    simp only [sheltering, level, happened, handedTo_append, unhandled, List.append_nil]
  have same : program.process fuel body before.openScope =
      (program.process fuel body before).mapState (sheltered level older) := by
    rw [← sheltered_length before]
    exact (Sheltering.mirrored_process program level older fuel body).same
      ⟨Nat.le_refl level, Nat.le_refl older⟩ unparted
  have walked : program.process (fuel + 1) node before =
      program.processErrorBlock (program.process fuel) (.bare body) before := by
    rw [process, step_statement bare]
    rfl
  have levels := (leveling_upheld program).process fuel body before
  have closed (after : Machine World) (trace : after.trace = added ++ before.trace)
      (scopes : after.scopes.length = level) :
      (after.sheltered level older).closeScope =
          { after with trace := added.map Occurrence.deepened ++ before.trace } ∧
        (after.sheltered level older).closeScope.invocations = after.invocations :=
    ⟨by rw [closeScope_sheltered (Nat.le_of_eq scopes), trace, deepenNewest_append],
      invocations_closeScope_sheltered trace (Nat.le_of_eq scopes)⟩
  constructor
  · intro flow after ended
    rw [ended] at same happened levels
    have settled := runProtected_done (program.process fuel) same
    have unrecorded : (after.sheltered level older).recordedError? = none := by
      simp only [recordedError?, sheltered, ErrorScope.sheltered_of_le (Nat.le_of_eq levels),
        level, List.head?_cons, Option.bind_some]
    refine ⟨_, ?_, closed after happened levels⟩
    rw [walked]
    simp only [processErrorBlock, processProtected, Exec.bind_apply, protect_apply,
      ErrorBlock.bare, settled, unrecorded]
    rfl
  · intro fault after ended cancelled
    rw [ended] at same happened levels
    have settled : runProtected (program.process fuel) body before.openScope =
        .failed fault (after.sheltered level older) := by
      rw [runProtected_failed (program.process fuel) same, Exec.bind_apply,
        hand_cancellation cancelled]
    refine ⟨_, ?_, closed after happened levels.2⟩
    rw [walked]
    exact processErrorBlock_failed program (program.process fuel) settled

/-- A bare error block around a block that catches the failure of a construct in an error block of
its own and then returns what a function returns. -/
def returnInside : Program Unit where
  tree :=
    { key := 0
      nodes := #[
        ⟨.expression (.literal (.bool true)), none⟩,
        ⟨.expression (.construct
          ⟨"broken", 0, fun _ host => (.error "out of order", host)⟩ []), none⟩,
        ⟨.statement (.block [⟨1⟩]), none⟩,
        ⟨.statement (.errorBlock (.bare ⟨2⟩)), none⟩,
        ⟨.statement (.declareFunction ⟨"f", [], ⟨5⟩⟩), none⟩,
        ⟨.statement (.leave (some ⟨0⟩)), none⟩,
        ⟨.expression (.call ⟨4⟩ []), none⟩,
        ⟨.statement (.leave (some ⟨6⟩)), none⟩,
        ⟨.statement (.block [⟨3⟩, ⟨7⟩]), none⟩,
        ⟨.statement (.errorBlock (.bare ⟨8⟩)), none⟩]
      layouts := [⟨.function ⟨4⟩, [], []⟩] }

/-- The failure was handed on, but further inside, so that the outer error block is transparent. -/
theorem transparent_error_block_return :
    let program := returnInside
    let before : Machine Unit := { host := { world := () } }
    let direct := program.process 6 ⟨8⟩ before
    (handedTo 1 direct.state.trace).length = 1 ∧ handedTo 0 direct.state.trace = [] ∧
      ∃ value after hidden, direct = .done (.returning (some value)) after ∧
        program.process 7 ⟨9⟩ before = .done (.returning (some value)) hidden ∧
        hidden.monitor = after.monitor ∧ hidden.invocations = after.invocations := by
  intro program before direct
  have handed : (handedTo 1 direct.state.trace).length = 1 := by
    decide +kernel
  have unhandled : handedTo 0 direct.state.trace = [] := by
    rw [← List.length_eq_zero_iff]
    decide +kernel
  obtain ⟨value, after, ended⟩ :
      ∃ value after, direct = .done (.returning (some value)) after := ⟨_, _, rfl⟩
  have bare : program.tree.instruction ⟨9⟩ =
      .ok (.statement (.errorBlock (.bare ⟨8⟩))) := rfl
  have happened : direct.state.trace = direct.state.trace ++ before.trace :=
    (List.append_nil _).symm
  obtain ⟨done, -⟩ := transparent_error_block program 6 bare happened unhandled
  obtain ⟨hidden, same, left, invoked⟩ := done _ after ended
  exact ⟨handed, unhandled, value, after, hidden, ended, same, by rw [left], invoked⟩

end Program

end Treewalk
