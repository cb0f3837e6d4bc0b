import Mathlib.Data.List.Forall2
import Treewalk.Proofs.CaughtErrors
import Treewalk.Proofs.ScriptContracts

/-!
# Stop requests are no failures

A stop request, whoever it comes from, travels through expressions on the same channel as failures
do. It is taken off this channel in several places: by blocks, by the declarations of a library,
and by whoever routes a fault. Two things follow. No block, no run of a script and no preparation of
one ever ends in the signal. And whatever is recorded, by the monitor or by an error scope, as its
first fault or as one that followed, is a failure through and through: neither a stop request nor a
misuse, and the same for all faults suppressed in it.

`Machine.recording` is the contract behind the second. A fault that the evaluator raises has
suppressed nothing yet; suppressed faults come from error scopes only, and those are never raised
again.
-/

namespace Treewalk

variable {World Result : Type}

/-- A failure, with nothing but failures suppressed in it, at any depth. -/
inductive Fault.IsFailure : Fault → Prop where
  | intro {fault : Fault} (blameless : fault.isMisuse = false)
      (uncancelled : fault.isCancellation = false)
      (suppressed : ∀ later ∈ fault.suppressed, later.IsFailure) : fault.IsFailure

/-- A fault as the evaluator raises it: nobody's misuse, and nothing suppressed in it yet. -/
structure Fault.IsPlain (fault : Fault) : Prop where
  blameless : fault.isMisuse = false
  unsuppressed : fault.suppressed = []

namespace Fault.IsFailure

/-- A plain fault that is no cancellation is a failure. -/
theorem of_isPlain {fault : Fault} (plain : fault.IsPlain)
    (uncancelled : fault.isCancellation = false) : fault.IsFailure := by
  refine ⟨plain.blameless, uncancelled, ?_⟩
  rw [plain.unsuppressed]
  exact List.forall_mem_nil _

/-- Attributing a failure to a node leaves it one. -/
theorem attributedTo {fault : Fault} (failure : fault.IsFailure) (node : Option NodeId) :
    (fault.attributedTo node).IsFailure := by
  obtain ⟨blameless, uncancelled, suppressed⟩ := failure
  exact ⟨blameless, uncancelled, suppressed⟩

/-- Failures that follow a failure are kept with it. -/
theorem following {fault : Fault} (failure : fault.IsFailure) {later : List Fault}
    (failures : ∀ other ∈ later, other.IsFailure) :
    Fault.IsFailure { fault with suppressed := fault.suppressed ++ later } := by
  obtain ⟨blameless, uncancelled, suppressed⟩ := failure
  refine ⟨blameless, uncancelled, ?_⟩
  intro other member
  rcases List.mem_append.mp member with old | new
  · exact suppressed other old
  · exact failures other new

end Fault.IsFailure

/-- An error scope has recorded nothing but failures on top of what it had recorded: a first fault,
or later ones suppressed in the first. -/
inductive ErrorScope.Extends (before after : ErrorScope) : Prop where
  | unchanged (same : after.error = before.error)
  | first {fault : Fault} (unrecorded : before.error = none) (recorded : after.error = some fault)
      (failure : fault.IsFailure)
  | later {primary : Fault} {added : List Fault} (recorded : before.error = some primary)
      (extended : after.error =
        some { primary with suppressed := primary.suppressed ++ added })
      (failures : ∀ fault ∈ added, fault.IsFailure)

/-- An error scope that has recorded nothing but failures. -/
abbrev ErrorScope.IsSound (scope : ErrorScope) : Prop :=
  ∀ fault, scope.error = some fault → fault.IsFailure

namespace ErrorScope

/-- A scope that was extended twice was extended. -/
theorem Extends.trans {first second third : ErrorScope} (earlier : first.Extends second)
    (later : second.Extends third) : first.Extends third := by
  cases later with
  | unchanged same =>
    cases earlier with
    | unchanged other => exact .unchanged (same.trans other)
    | first unrecorded recorded failure => exact .first unrecorded (same.trans recorded) failure
    | later recorded extended failures => exact .later recorded (same.trans extended) failures
  | first unrecorded recorded failure =>
    cases earlier with
    | unchanged same => exact .first (same.symm.trans unrecorded) recorded failure
    | first _ found => cases found.symm.trans unrecorded
    | later _ found => cases found.symm.trans unrecorded
  | @later primary added recorded extended failures =>
    cases earlier with
    | unchanged same => exact .later (same.symm.trans recorded) extended failures
    | first unrecorded found failure =>
      obtain rfl := Option.some.inj (found.symm.trans recorded)
      exact .first unrecorded extended (failure.following failures)
    | @later oldest old found grown oldFailures =>
      obtain rfl := Option.some.inj (grown.symm.trans recorded)
      have grownTwice : third.error =
          some { oldest with suppressed := oldest.suppressed ++ (old ++ added) } := by
        rw [extended, List.append_assoc]
      refine .later found grownTwice ?_
      intro fault member
      rcases List.mem_append.mp member with early | late
      · exact oldFailures fault early
      · exact failures fault late

/-- Whatever an empty scope grows into holds failures only. -/
theorem Extends.isSound {scope : ErrorScope} (grown : Extends { } scope) : scope.IsSound := by
  intro fault found
  cases grown with
  | unchanged same => cases same.symm.trans found
  | first _ recorded failure =>
    obtain rfl := Option.some.inj (recorded.symm.trans found)
    exact failure
  | later recorded => cases recorded

/-- A scope that records a failure is extended by it. -/
theorem extends_record (scope : ErrorScope) {fault : Fault} (failure : fault.IsFailure)
    (top : Option NodeId) : scope.Extends (scope.record fault top) := by
  have attributed := failure.attributedTo top
  simp only [record]
  split
  · next primary found =>
    refine .later found rfl ?_
    intro other member
    rw [List.mem_singleton.mp member]
    exact attributed
  · next unrecorded => exact .first unrecorded rfl attributed

/-- Nothing recorded, nothing extended. -/
theorem forall₂_extends_refl (scopes : List ErrorScope) : List.Forall₂ Extends scopes scopes :=
  List.forall₂_same.mpr fun _ _ => .unchanged rfl

/-- Open scopes are extended one by one. -/
theorem forall₂_extends_trans {first second third : List ErrorScope}
    (earlier : List.Forall₂ Extends first second) (later : List.Forall₂ Extends second third) :
    List.Forall₂ Extends first third := by
  induction earlier generalizing third with
  | nil => exact later
  | cons old _ inductionHypothesis =>
    cases later with
    | cons new rest => exact .cons (old.trans new) (inductionHypothesis rest)

end ErrorScope

namespace Machine

/-- Nothing but failures was recorded in between. The scopes that were open then have recorded
nothing else on top of what they had, and neither have those that were opened since. -/
structure RecordsFailures (before after : Machine World) (opened : List ErrorScope) : Prop where
  errors : ∃ added, after.monitor.errors = before.monitor.errors ++ added ∧
    ∀ fault ∈ added, fault.IsFailure
  scopes : ∃ outer, after.scopes = opened ++ outer ∧
    List.Forall₂ ErrorScope.Extends before.scopes outer
  opened : ∀ scope ∈ opened, scope.IsSound

namespace RecordsFailures

/-- Where nothing is recorded there are no failures to speak of. -/
theorem of_same {before after : Machine World} (same : SameRecords before after) :
    RecordsFailures before after [] where
  errors := ⟨[], by rw [same.errors, List.append_nil], List.forall_mem_nil _⟩
  scopes := ⟨before.scopes, same.scopes, ErrorScope.forall₂_extends_refl _⟩
  opened := List.forall_mem_nil _

/-- Failures that are recorded in turn are recorded after each other. -/
theorem trans {first second third : Machine World} {opened : List ErrorScope}
    (earlier : RecordsFailures first second []) (later : RecordsFailures second third opened) :
    RecordsFailures first third opened where
  errors := by
    obtain ⟨old, oldErrors, oldFailures⟩ := earlier.errors
    obtain ⟨new, newErrors, newFailures⟩ := later.errors
    refine ⟨old ++ new, by rw [newErrors, oldErrors, List.append_assoc], ?_⟩
    intro fault member
    rcases List.mem_append.mp member with early | late
    · exact oldFailures fault early
    · exact newFailures fault late
  scopes := by
    obtain ⟨middle, middleScopes, middleGrown⟩ := earlier.scopes
    obtain ⟨outer, outerScopes, outerGrown⟩ := later.scopes
    rw [List.nil_append] at middleScopes
    rw [middleScopes] at outerGrown
    exact ⟨outer, outerScopes, ErrorScope.forall₂_extends_trans middleGrown outerGrown⟩
  opened := later.opened

/-- An error scope that was opened in between is one of those opened since. -/
theorem of_openScope {before after : Machine World} {opened : List ErrorScope}
    (inside : RecordsFailures before.openScope after opened) :
    ∃ scope, scope.IsSound ∧ RecordsFailures before after (opened ++ [scope]) ∧
      ∃ outer, after.scopes = opened ++ scope :: outer := by
  obtain ⟨errors, ⟨outer, scopes, grown⟩, sound⟩ := inside
  obtain ⟨scope, rest, fresh, restGrown, rfl⟩ := List.forall₂_cons_left_iff.mp grown
  refine ⟨scope, fresh.isSound, ⟨errors, ⟨rest, ?_, restGrown⟩, ?_⟩, rest, scopes⟩
  · rw [scopes, List.append_assoc, List.singleton_append]
  · intro other member
    rcases List.mem_append.mp member with older | last
    · exact sound other older
    · rw [List.mem_singleton.mp last]
      exact fresh.isSound

end RecordsFailures

/-- Recording nothing but failures, and raising plain faults. -/
def recording : Contract (Machine World) where
  Raised fault := fault.IsPlain
  Finished before after := RecordsFailures before after []
  Reached before after := ∃ opened, RecordsFailures before after opened
  refl machine := .of_same (SameRecords.refl machine)
  trans earlier later := earlier.trans later
  reached_of_finished finished := ⟨[], finished⟩
  reached_trans := by
    rintro _ _ _ earlier ⟨opened, later⟩
    exact ⟨opened, earlier.trans later⟩

/-- What records nothing keeps the contract if it fails with plain faults only. -/
theorem recording_of_same {body : Exec (Machine World) Result}
    (same : ∀ machine, SameRecords machine (body machine).state)
    (raised : ∀ machine fault after, body machine = .failed fault after → fault.IsPlain) :
    recording.Kept body := by
  intro before
  have records := RecordsFailures.of_same (same before)
  cases ended : body before with
  | done result after =>
    rw [ended] at records
    exact records
  | failed fault after =>
    rw [ended] at records
    exact ⟨raised before fault after ended, records⟩
  | exhausted after =>
    rw [ended] at records
    exact ⟨[], records⟩

/-- The monitor records a fault only if it is a failure. -/
theorem recording_handUncaught {fault : Fault} (plain : fault.IsPlain) :
    recording.Kept (handUncaught fault : Exec (Machine World) Unit) := by
  intro before
  have attributed : (fault.attributedTo before.monitor.top?).IsPlain :=
    ⟨plain.blameless, plain.unsuppressed⟩
  have recorded (uncancelled : fault.isCancellation = false) :
      recording.Finished before
        { before with
          monitor := before.monitor.record (fault.attributedTo before.monitor.top?) } := by
    refine ⟨⟨[_], rfl, ?_⟩, ⟨_, rfl, ErrorScope.forall₂_extends_refl _⟩,
      List.forall_mem_nil _⟩
    intro other member
    rw [List.mem_singleton.mp member]
    exact .of_isPlain attributed uncancelled
  simp only [handUncaught]
  split
  · exact ⟨plain, recording.refl before⟩
  · next uncancelled =>
    rw [Bool.not_eq_true] at uncancelled
    split
    · exact ⟨attributed, recording.refl before⟩
    · split
      · exact ⟨attributed, recording.refl before⟩
      · exact recorded uncancelled
      · exact recording.trans (recorded uncancelled) (.of_same (SameRecords.raise .policy _))

/-- Whoever takes a fault records it only if it is a failure. -/
theorem recording_hand {fault : Fault} (plain : fault.IsPlain) :
    recording.Kept (hand fault : Exec (Machine World) Unit) := by
  intro before
  simp only [hand]
  split
  · exact recording_handUncaught plain before
  · next scope outer opened =>
    split
    · exact ⟨plain, recording.refl before⟩
    · next taken =>
      simp only [Bool.or_eq_true, not_or, Bool.not_eq_true] at taken
      refine ⟨⟨[], (List.append_nil _).symm, List.forall_mem_nil _⟩, ⟨_, rfl, ?_⟩,
        List.forall_mem_nil _⟩
      rw [opened]
      exact .cons (scope.extends_record (.of_isPlain plain taken.2) _)
        (ErrorScope.forall₂_extends_refl _)

/-- Noting that a fault is handed on records nothing yet. -/
theorem recording_handFrom (statement : NodeId) {fault : Fault} (plain : fault.IsPlain) :
    recording.Kept (handFrom statement fault : Exec (Machine World) Unit) := by
  apply Contract.kept_state
  intro machine
  apply Contract.kept_bind
  · exact Contract.kept_update fun before => .of_same (SameRecords.note before _)
  · intro _
    exact recording_hand plain

/-- The scope around a body goes when the body ends, with whatever it recorded. -/
theorem recording_protect {body : Exec (Machine World) Result} (kept : recording.Kept body) :
    recording.Kept (protect body) := by
  apply Contract.kept_protect kept
  · intro before after inside
    obtain ⟨scope, -, ⟨errors, ⟨outer, scopes, grown⟩, -⟩, -⟩ :=
      RecordsFailures.of_openScope inside
    refine ⟨errors, ⟨outer, ?_, grown⟩, List.forall_mem_nil _⟩
    simp only [closeScope, scopes]
    rfl
  · rintro before after ⟨opened, inside⟩
    obtain ⟨scope, -, records, -⟩ := inside.of_openScope
    exact ⟨_, records⟩

/-- Entering and leaving a statement record nothing. -/
theorem recording_tracked (node : NodeId) {body : Exec (Machine World) Result}
    (kept : recording.Kept body) :
    recording.Kept
      (do
        Exec.update (Machine.enter node)
        Exec.ensuring body (Machine.leave node)) := by
  have entered (before : Machine World) : recording.Finished before (before.enter node) :=
    .of_same (SameRecords.enter node before)
  apply Contract.kept_tracked node kept
  · intro before after inside
    exact recording.trans (recording.trans (entered before) inside)
      (.of_same (SameRecords.leave node after))
  · intro before after inside
    exact recording.reached_trans (entered before) inside

/-- A scope may be refused, which is a plain fault, and records nothing otherwise. -/
theorem recording_within (activation : Activation) {body : Exec (Machine World) Result}
    (kept : recording.Kept body) : recording.Kept (activation.within body) := by
  intro before
  have entered : recording.Finished before (activation.opened before) :=
    .of_same (SameRecords.opened activation before)
  refine Contract.fulfilled_within activation (kept _) (fun _ => ⟨rfl, rfl⟩) ?_ ?_ ?_
  · intro limit
    exact .of_same (SameRecords.refused activation limit before)
  · intro after inside
    exact recording.trans (recording.trans entered inside)
      (.of_same (SameRecords.exit activation after))
  · intro after inside
    exact recording.reached_trans entered inside

/-- A look at the stop signal records nothing. -/
theorem recording_poll : recording.Kept (poll : Exec (Machine World) Bool) := by
  intro before
  rw [poll_apply]
  exact .of_same (SameRecords.look before)

/-- Every operation of the machine records nothing but failures. -/
theorem recording_upheld (program : Program World) : recording.Upheld program where
  raises_ofCause blameless := ⟨blameless, rfl⟩
  poll := recording_poll
  write site name cell value := by
    apply recording_of_same (SameRecords.write site name cell value)
    intro machine fault after failed
    simp only [write] at failed
    split at failed
    · cases failed
    · cases failed
      exact ⟨rfl, rfl⟩
  invoke construct arguments := by
    apply recording_of_same (SameRecords.invoke construct arguments)
    intro machine fault after failed
    simp only [invoke] at failed
    split at failed
    · cases failed
    · cases failed
      exact ⟨rfl, rfl⟩
  hand raised := recording_hand raised
  handFrom statement _ raised _ := recording_handFrom statement raised
  tracked node _ _ kept := recording_tracked node kept
  protect kept := recording_protect kept
  call _ _ _ _ _ _ kept := recording_within _ kept

/-- Scripts record nothing but failures. -/
theorem recording_lifted (graph : ScriptGraph World) : recording.Lifted graph where
  raises_unknownNode _ := ⟨rfl, rfl⟩
  binds _ machine := .of_same { SameRecords.refl machine with }
  notes_script _ _ _ machine := .of_same (SameRecords.note machine _)
  within _ _ _ _ kept := recording_within _ kept
  library _ _ fuel :=
    Contract.kept_bind (Contract.kept_update fun machine => .of_same (SameRecords.note machine _))
      fun _ => (recording_upheld _).runDeclarations fuel _
  root _ _ fuel _ _ := (recording_upheld _).process fuel _

/-- Not to end in the signal of a stop request is a contract. -/
theorem raising_uncancelled_iff {before : Machine World}
    {outcome : Outcome (Machine World) Result} :
    (raising (·.isCancellation = false)).Fulfilled before outcome ↔
      outcome.isCancelled = false := by
  cases outcome with
  | done result after => exact ⟨fun _ => rfl, fun _ => trivial⟩
  | failed fault after =>
    exact ⟨fun fulfilled => fulfilled.1, fun uncancelled => ⟨uncancelled, trivial⟩⟩
  | exhausted after => exact ⟨fun _ => rfl, fun _ => trivial⟩

end Machine

namespace Program

open Contract Machine

/-- What is recorded by the end of a protected body is a failure. -/
theorem isFailure_of_processProtected {program : Program World} {fuel : Nat} {body : NodeId}
    {before after : Machine World} {flow : Flow} {fault : Fault}
    (caught :
      processProtected (program.process fuel) body before = .done (flow, some fault) after) :
    fault.IsFailure := by
  have kept : recording.Kept (runProtected (program.process fuel) body) := by
    apply kept_attempt ((recording_upheld program).process fuel body)
    · intro ended
      exact kept_pure ended
    · intro raised allowed
      exact kept_bind (recording_hand allowed) fun _ => kept_pure _
  have inside := kept before.openScope
  rw [processProtected, protect_apply] at caught
  cases ended : runProtected (program.process fuel) body before.openScope with
  | done result reached =>
    rw [ended] at caught inside
    obtain ⟨scope, sound, -, outer, scopes⟩ := RecordsFailures.of_openScope inside
    have recorded : reached.recordedError? = some fault := by
      simp only [Outcome.done.injEq, Prod.mk.injEq] at caught
      exact caught.1.2
    rw [recordedError?, scopes] at recorded
    exact sound fault recorded
  | failed other reached =>
    rw [ended] at caught
    cases caught
  | exhausted reached =>
    rw [ended] at caught
    cases caught

/-- The fault of an unknown node is no cancellation. -/
theorem uncancelled_instruction (program : Program World) (node : NodeId) :
    (raising (·.isCancellation = false)).Kept
      (Exec.ofExcept (program.tree.instruction node) : Exec (Machine World) _) := by
  cases found : program.tree.instruction node with
  | error fault =>
    rw [fault_of_instruction_error found]
    exact kept_fail rfl
  | ok instruction => exact kept_pure instruction

/-- A declaration of a library settles the cancellation signal by stopping the loop. -/
theorem uncancelled_runDeclaration (walk : Walk World) (statement : NodeId) :
    (raising (·.isCancellation = false)).Kept (runDeclaration walk statement) := by
  apply raising_tracked statement
  apply kept_bind
  · intro machine
    simp only [Exec.attempt]
    split <;> trivial
  · intro ended
    cases ended with
    | ok flow => exact kept_pure false
    | error fault =>
      dsimp only
      split
      · exact kept_pure true
      · next failure =>
        apply kept_bind (raising_handFrom statement (Bool.eq_false_iff.mpr failure))
        intro _
        exact kept_pure true

/-- The declarations of a library never end in the signal of a stop request. -/
theorem uncancelled_runDeclarations (program : Program World) (walk : Walk World)
    (statements : List NodeId) :
    (raising (·.isCancellation = false)).Kept (program.runDeclarations walk statements) := by
  induction statements with
  | nil => exact kept_pure ()
  | cons statement rest inductionHypothesis =>
    apply kept_checkpoint raising_poll (kept_pure ())
    apply kept_bind (uncancelled_instruction program statement)
    intro instruction
    split
    · apply kept_bind (uncancelled_runDeclaration walk statement)
      intro failed
      split
      · exact kept_pure ()
      · exact inductionHypothesis
    · exact inductionHypothesis

end Program

/-- No cause is both misuse and the cancellation signal. -/
theorem Cause.uncancelled_of_isMisuse {cause : Cause} (misuse : cause.isMisuse = true) :
    cause.isCancellation = false := by
  cases cause with
  | misuse mistake => rfl
  | _ => cases misuse

/-- What keeps the machine from ending in the signal of a stop request keeps scripts from it, since
a misuse is none. -/
theorem Workspace.isCancelled_of_fulfilled {before : Workspace World}
    {outcome : Outcome (Workspace World) Result}
    (fulfilled :
      (Machine.raising (·.isCancellation = false)).onWorkspace.Fulfilled before outcome) :
    outcome.isCancelled = false := by
  cases outcome with
  | done result after => rfl
  | exhausted after => rfl
  | failed fault after =>
    rcases fulfilled.1 with uncancelled | misuse
    · exact uncancelled
    · exact Cause.uncancelled_of_isMisuse misuse

/-- In a graph with built trees neither preparing nor running a script ends in the signal of a stop
request. -/
theorem ScriptGraph.uncancelled_lifted {graph : ScriptGraph World} (built : graph.IsBuilt) :
    (Machine.raising (·.isCancellation = false)).Lifted graph where
  raises_unknownNode _ := rfl
  binds _ _ := trivial
  notes_script _ _ _ _ := trivial
  within _ _ _ _ kept := fun _ =>
    Contract.fulfilled_within _ (kept _) (fun _ => rfl) (fun _ => trivial) (fun _ _ => trivial)
      (fun _ _ => trivial)
  library _ _ fuel :=
    Contract.kept_bind (Contract.kept_update fun _ => trivial) fun _ =>
      Program.uncancelled_runDeclarations _ _ _
  root _ _ fuel _ registered := by
    obtain ⟨statements, block⟩ := built.root_block registered
    intro before
    exact Machine.raising_uncancelled_iff.mpr (Program.isCancelled_process_block _ block before)

/-- A stop request never shows as a failure: no block ends in it, nor does a run or a preparation of
a script, and nothing but failures is recorded on the way, whichever way the walk of a node or a
script ends and also where it is cut off. In particular the fault that an error block catches is a
failure, and so is all that is suppressed in it. This is so for every machine to begin with, and
thus however constructs, the pause hook and somebody outside raise and lower the stop signal. -/
theorem cancellation_is_no_failure {graph : ScriptGraph World} (built : graph.IsBuilt)
    (program : Program World) (fuel : Nat) :
    (∀ statements before,
      (program.processStatements fuel statements before).isCancelled = false) ∧
    (∀ number before, (graph.process fuel number before).isCancelled = false) ∧
    (∀ number skipSelf before,
      (graph.prepare fuel number skipSelf before).isCancelled = false) ∧
    (∀ node (before : Machine World), ∃ opened,
      before.RecordsFailures (program.process fuel node before).state opened) ∧
    (∀ number (before : Workspace World), ∃ opened,
      before.machine.RecordsFailures (graph.process fuel number before).state.machine opened) ∧
    (∀ number skipSelf (before : Workspace World), ∃ opened,
      before.machine.RecordsFailures
        (graph.prepare fuel number skipSelf before).state.machine opened) ∧
    (∀ body before flow fault after,
      Program.processProtected (program.process fuel) body before =
        .done (flow, some fault) after → fault.IsFailure) := by
  have uncancelled := ScriptGraph.uncancelled_lifted built
  have records := Machine.recording_lifted graph
  refine ⟨?_, ?_, ?_, ?_, ?_, ?_, ?_⟩
  · intro statements before
    exact Machine.raising_uncancelled_iff.mp
      (program.uncancelled_processBlock (program.process fuel) statements before)
  · intro number before
    exact Workspace.isCancelled_of_fulfilled (uncancelled.process fuel number before)
  · intro number skipSelf before
    exact Workspace.isCancelled_of_fulfilled (uncancelled.prepare fuel number skipSelf before)
  · intro node before
    exact ((Machine.recording_upheld program).process fuel node before).reached
  · intro number before
    exact (records.process fuel number before).reached
  · intro number skipSelf before
    exact (records.prepare fuel number skipSelf before).reached
  · intro body before flow fault after caught
    exact Program.isFailure_of_processProtected caught

/-- A script whose first statement fails and whose second calls a construct. -/
def failingThenCalling : List (Directive Unit) :=
  [.node (.expression (.construct ⟨"broken", 0, fun _ host => (.error "out of order", host)⟩ [])),
    .node (.expression (.construct ⟨"tick", 0, fun _ host => (.ok .null, host)⟩ [])),
    .root [⟨0⟩, ⟨1⟩]]

/-- A stop is requested from outside while the construct of the second statement is at work. The
failure is recorded, the stop request is not, and the run does not end in it. -/
theorem cancellation_is_no_failure_from_outside :
    let before : Workspace Unit :=
      { machine :=
          { host := { world := () }
            monitor := { policy := .recordAndContinue }
            outside := fun look => if look = 4 then some true else none } }
    let ended := (ScriptGraph.sole failingThenCalling ⟨2⟩).process 5 0 before
    ended.state.machine.stopped = true ∧ ended.state.machine.looks = 5 ∧
    ended.state.machine.monitor.errors.length = 1 ∧ ended.isCancelled = false ∧
    ∃ opened, before.machine.RecordsFailures ended.state.machine opened := by
  intro before ended
  have built := ScriptGraph.sole_isBuilt failingThenCalling ⟨2⟩ rfl
  obtain ⟨-, run, -, -, records, -⟩ :=
    cancellation_is_no_failure built (ScriptGraph.program (.blank Unit) { }) 5
  exact ⟨by decide +kernel, by decide +kernel, by decide +kernel, run 0 before, records 0 before⟩

end Treewalk
