import Treewalk.Proofs.ErrorAggregation
import Treewalk.Proofs.PolicyAlignment
import Treewalk.Proofs.TraceGrowth

/-!
# Faults on their way out

Whenever the failure of a statement is handed on, the trace tells which statement it was, what stood
on top of the call stack, how many error scopes were open, and the fault. A fault that is handed on
for the first time belongs to nobody yet. It is either absorbed, and then it is recorded with the
top of the call stack, or it goes out attributed to it. From then on `Passing` holds of the trace:
nodes are left, and the same fault may be handed on again, until the run is over.

`Machine.Ascribes` says of two machines that everything that was handed on in between is of one of
these two kinds, and that the monitor has recorded just what came to it. If all of it was absorbed,
the first machine `Settles` into the second. A computation `IsAttributable` if that holds of where
it starts and where it ends, and if a fault it fails with was either handed on by nobody or is on
its way out.
-/

namespace Treewalk

variable {World State Result Next : Type}

/-- A fault without suppressed ones that is attributed to a statement. -/
def Fault.raisedAt (cause : Cause) (statement : NodeId) : Fault :=
  ⟨cause, some statement, []⟩

namespace Occurrence

/-- The failure of a statement was handed on. -/
def isHanding : Occurrence → Bool
  | .handed .. => true
  | _ => false

/-- The operations of the machine hand nothing on by themselves. -/
theorem isHanding_of_isRoutine (occurrence : Occurrence)
    (routine : occurrence.isRoutine = true) : occurrence.isHanding = false := by
  cases occurrence with
  | handed => cases routine
  | _ => rfl

/-- What was handed on while so many error scopes were open, with the top of the call stack. -/
def handedTo? (level : Nat) : Occurrence → Option (Fault × Option NodeId)
  | .handed _ top inside fault => if inside = level then some (fault, top) else none
  | _ => none

end Occurrence

/-- What was handed on while so many error scopes were open, oldest first. -/
def handedTo (level : Nat) (happened : List Occurrence) : List (Fault × Option NodeId) :=
  (happened.filterMap (Occurrence.handedTo? level)).reverse

/-- What was handed to a level is listed oldest first, whereas the trace has the newest first. -/
theorem handedTo_append (level : Nat) (newer older : List Occurrence) :
    handedTo level (newer ++ older) = handedTo level older ++ handedTo level newer := by
  simp only [handedTo, List.filterMap_append, List.reverse_append]

/-- The newest occurrence adds to the end of the list, if it was handed to this level. -/
theorem handedTo_cons (level : Nat) (newest : Occurrence) (older : List Occurrence) :
    handedTo level (newest :: older) = handedTo level older ++ (newest.handedTo? level).toList := by
  simp only [handedTo, List.filterMap_cons]
  cases newest.handedTo? level <;> simp

/-- A single fault is handed to the level at which it was. -/
theorem handedTo_singleton (level inside : Nat) (statement : NodeId) (top : Option NodeId)
    (fault : Fault) :
    handedTo level [.handed statement top inside fault] =
      if inside = level then [(fault, top)] else [] := by
  rw [handedTo_cons, Occurrence.handedTo?]
  split <;> rfl

/-- Where no fault was handed on, none was to any level. -/
theorem Occurrence.handedTo?_of_unhanded {occurrence : Occurrence}
    (unhanded : occurrence.isHanding = false) (level : Nat) :
    occurrence.handedTo? level = none := by
  cases occurrence with
  | handed => cases unhanded
  | _ => rfl

/-- In a stretch without faults none was handed to any level. -/
theorem handedTo_of_unhanded {happened : List Occurrence}
    (unhanded : ∀ occurrence ∈ happened, occurrence.isHanding = false) (level : Nat) :
    handedTo level happened = [] := by
  rw [handedTo, List.reverse_eq_nil_iff, List.filterMap_eq_nil_iff]
  exact fun occurrence member => Occurrence.handedTo?_of_unhanded (unhanded occurrence member) level

/-- A fault is on its way out. It was handed on from its origin, which attributed it to itself, and
since then nothing happened but that nodes were left and that it was handed on again as it is. -/
inductive Passing (cause : Cause) (origin : NodeId) : List Occurrence → Prop where
  | handed {earlier : List Occurrence} :
      Passing cause origin (.handed origin (some origin) 0 (.ofCause cause) :: earlier)
  | again {statement : NodeId} {earlier : List Occurrence}
      (passing : Passing cause origin earlier) :
      Passing cause origin
        (.handed statement (some statement) 0 (.raisedAt cause origin) :: earlier)
  | left {node : NodeId} {taken : Option NodeId} {earlier : List Occurrence}
      (passing : Passing cause origin earlier) :
      Passing cause origin (.left node taken :: earlier)

/-- What happened before does not keep a fault from passing on. -/
theorem Passing.append {cause : Cause} {origin : NodeId} {added : List Occurrence}
    (passing : Passing cause origin added) (before : List Occurrence) :
    Passing cause origin (added ++ before) := by
  induction passing with
  | handed => exact .handed
  | again _ inductionHypothesis => exact .again inductionHypothesis
  | left _ inductionHypothesis => exact .left inductionHypothesis

/-- Of what was handed on while at least so many error scopes were open, nothing was given back. -/
def Absorbed (policy : ErrorPolicy) (level : Nat) (added : List Occurrence) : Prop :=
  level = 0 → policy = .propagate → handedTo 0 added = []

/-- What happens while at least so many error scopes are open. Whenever the failure of a statement
is handed on, that statement is on top of the call stack. The fault was handed on by nobody before,
and then no other is on its way out; or it is on its way out itself, which takes that no error scope
is open and that the policy is to give faults back. -/
inductive Attributed (policy : ErrorPolicy) (level : Nat) : List Occurrence → Prop where
  | nil : Attributed policy level []
  | other {occurrence : Occurrence} {added : List Occurrence}
      (unhanded : occurrence.isHanding = false) (earlier : Attributed policy level added) :
      Attributed policy level (occurrence :: added)
  | fresh {statement : NodeId} {inside : Nat} {cause : Cause} {added : List Occurrence}
      (deep : level ≤ inside) (absorbed : Absorbed policy level added)
      (earlier : Attributed policy level added) :
      Attributed policy level (.handed statement (some statement) inside (.ofCause cause) :: added)
  | again {statement origin : NodeId} {cause : Cause} {added : List Occurrence}
      (unguarded : level = 0) (propagates : policy = .propagate)
      (passing : Passing cause origin added) (earlier : Attributed policy level added) :
      Attributed policy level
        (.handed statement (some statement) 0 (.raisedAt cause origin) :: added)

/-- If two stretches absorbed what they handed on, then so did both together. -/
theorem Absorbed.append {policy : ErrorPolicy} {level : Nat} {old new : List Occurrence}
    (earlier : Absorbed policy level old) (later : Absorbed policy level new) :
    Absorbed policy level (new ++ old) := by
  intro unguarded propagates
  rw [handedTo_append, earlier unguarded propagates, later unguarded propagates]
  rfl

/-- Where nothing is handed on there is nothing to absorb. -/
theorem Absorbed.of_unhanded {added : List Occurrence}
    (unhanded : ∀ occurrence ∈ added, occurrence.isHanding = false) (policy : ErrorPolicy)
    (level : Nat) : Absorbed policy level added :=
  fun _ _ => handedTo_of_unhanded unhanded 0

namespace Attributed

variable {policy : ErrorPolicy} {level : Nat} {old new added : List Occurrence}

/-- Attribution goes along a run as long as what came first was absorbed. -/
theorem append (earlier : Attributed policy level old) (absorbed : Absorbed policy level old)
    (later : Attributed policy level new) : Attributed policy level (new ++ old) := by
  induction later with
  | nil => exact earlier
  | other unhanded _ inductionHypothesis => exact .other unhanded inductionHypothesis
  | fresh deep others _ inductionHypothesis =>
    exact .fresh deep (absorbed.append others) inductionHypothesis
  | again unguarded propagates passing _ inductionHypothesis =>
    exact .again unguarded propagates (passing.append old) inductionHypothesis

/-- Whatever is on its way out, nothing is handed on here. -/
theorem append_unhanded (earlier : Attributed policy level old)
    (unhanded : ∀ occurrence ∈ new, occurrence.isHanding = false) :
    Attributed policy level (new ++ old) := by
  induction new with
  | nil => exact earlier
  | cons occurrence rest inductionHypothesis =>
    obtain ⟨first, others⟩ := List.forall_mem_cons.mp unhanded
    exact .other first (inductionHypothesis others)

/-- Nothing comes to an error scope while others are open inside it. -/
theorem handedTo_eq_nil (attributed : Attributed policy level added) {outer : Nat}
    (shallow : outer < level) : handedTo outer added = [] := by
  induction attributed with
  | nil => rfl
  | other unhanded _ inductionHypothesis =>
    rw [handedTo_cons, inductionHypothesis, Occurrence.handedTo?_of_unhanded unhanded]
    rfl
  | @fresh _ inside _ _ deep _ _ inductionHypothesis =>
    have different : inside ≠ outer := by omega
    rw [handedTo_cons, inductionHypothesis, Occurrence.handedTo?, if_neg different]
    rfl
  | again unguarded =>
    rw [unguarded] at shallow
    cases shallow

/-- What happened inside one more error scope was absorbed there. -/
theorem absorbed (inside : Attributed policy (level + 1) added) : Absorbed policy level added :=
  fun _ _ => inside.handedTo_eq_nil (Nat.succ_pos level)

/-- What happened inside one more error scope. -/
theorem outside (inside : Attributed policy (level + 1) added) :
    Attributed policy level added := by
  induction inside with
  | nil => exact .nil
  | other unhanded _ inductionHypothesis => exact .other unhanded inductionHypothesis
  | fresh deep _ earlier inductionHypothesis =>
    exact .fresh (Nat.le_of_succ_le deep) earlier.absorbed inductionHypothesis
  | again unguarded => cases unguarded

/-- Unless faults are given back, what comes to the monitor was handed on by nobody before; what
comes to an error scope never was. -/
theorem fresh_of_mem_handedTo (attributed : Attributed policy level added) {inside : Nat}
    (absorbed : inside ≠ 0 ∨ policy ≠ .propagate) {handed : Fault × Option NodeId}
    (member : handed ∈ handedTo inside added) : ∃ cause statement,
      handed = (.ofCause cause, some statement) ∧
        .handed statement (some statement) inside (.ofCause cause) ∈ added := by
  induction attributed with
  | nil => cases member
  | other unhanded _ inductionHypothesis =>
    rw [handedTo_cons, Occurrence.handedTo?_of_unhanded unhanded, Option.toList_none,
      List.append_nil] at member
    obtain ⟨cause, statement, same, listed⟩ := inductionHypothesis member
    exact ⟨cause, statement, same, List.mem_cons_of_mem _ listed⟩
  | @fresh statement here cause added _ _ _ inductionHypothesis =>
    rw [handedTo_cons] at member
    rcases List.mem_append.mp member with older | newest
    · obtain ⟨cause, statement, same, listed⟩ := inductionHypothesis older
      exact ⟨cause, statement, same, List.mem_cons_of_mem _ listed⟩
    · simp only [Occurrence.handedTo?] at newest
      split at newest
      · next same =>
        subst same
        exact ⟨cause, statement, by simpa using newest, List.mem_cons_self⟩
      · cases newest
  | again _ propagates _ _ inductionHypothesis =>
    have guarded : inside ≠ 0 := absorbed.resolve_right (not_not.mpr propagates)
    rw [handedTo_cons, Occurrence.handedTo?, if_neg guarded.symm, Option.toList_none,
      List.append_nil] at member
    obtain ⟨cause, statement, same, listed⟩ := inductionHypothesis member
    exact ⟨cause, statement, same, List.mem_cons_of_mem _ listed⟩

end Attributed

/-- What a policy has the monitor record of the faults that come to it. -/
def ErrorPolicy.records (policy : ErrorPolicy) (handed : List (Fault × Option NodeId)) :
    List Fault :=
  match policy with
  | .propagate => []
  | _ => handed.map fun fault => fault.1.attributedTo fault.2

@[simp] theorem ErrorPolicy.records_nil (policy : ErrorPolicy) : policy.records [] = [] := by
  cases policy <;> rfl

/-- The policy decides about each fault by itself, so records can be collected in two goes. -/
theorem ErrorPolicy.records_append (policy : ErrorPolicy)
    (earlier later : List (Fault × Option NodeId)) :
    policy.records (earlier ++ later) = policy.records earlier ++ policy.records later := by
  cases policy <;> simp [records]

/-- Have the innermost error scope record faults in order. -/
def ErrorScope.recordInnermost (scopes : List ErrorScope)
    (handed : List (Fault × Option NodeId)) : List ErrorScope :=
  match scopes with
  | [] => []
  | scope :: outer => scope.recordAll handed :: outer

namespace ErrorScope

@[simp] theorem recordInnermost_nil (scopes : List ErrorScope) :
    recordInnermost scopes [] = scopes := by
  cases scopes <;> rfl

/-- The innermost scope records faults one by one, so it can do so in two goes. -/
theorem recordInnermost_append (scopes : List ErrorScope)
    (earlier later : List (Fault × Option NodeId)) :
    recordInnermost scopes (earlier ++ later) =
      recordInnermost (recordInnermost scopes earlier) later := by
  cases scopes with
  | nil => rfl
  | cons scope outer => simp only [recordInnermost, recordAll_append]

/-- Recording opens and closes no scope. -/
@[simp] theorem length_recordInnermost (scopes : List ErrorScope)
    (handed : List (Fault × Option NodeId)) :
    (recordInnermost scopes handed).length = scopes.length := by
  cases scopes <;> rfl

end ErrorScope

namespace Machine

/-- What happened from one machine to another. Every fault that was handed on in between is
attributed, and the monitor has recorded those that came to it, if that is its policy. -/
structure Ascribes (before after : Machine World) (added : List Occurrence) : Prop where
  trace : after.trace = added ++ before.trace
  policy : after.monitor.policy = before.monitor.policy
  attributed : Attributed before.monitor.policy before.scopes.length added
  errors : after.monitor.errors =
    before.monitor.errors ++ before.monitor.policy.records (handedTo 0 added)

/-- Besides, all faults that were handed on in between have been absorbed. The error scopes are
those of the first machine; the innermost has recorded what came to it. -/
structure Settles (before after : Machine World) (added : List Occurrence) : Prop
    extends Ascribes before after added where
  scopes : after.scopes =
    ErrorScope.recordInnermost before.scopes (handedTo before.scopes.length added)
  absorbed : Absorbed before.monitor.policy before.scopes.length added

/-- All faults that were handed on in between are accounted for, and none is on its way out. -/
def Concludes (before after : Machine World) : Prop :=
  ∃ added, before.Settles after added

/-- How a fault has come out. Either it was handed on by nobody, and all those that were have been
absorbed; or no error scope is there to absorb it, the policy is to give faults back, and it is on
its way out to whoever gets it back. -/
inductive Escapes (before after : Machine World) : Fault → Prop where
  | fresh {cause : Cause} (concludes : before.Concludes after) :
      Escapes before after (.ofCause cause)
  | passing {cause : Cause} {origin : NodeId} {added : List Occurrence}
      (ascribes : before.Ascribes after added) (passing : Passing cause origin added)
      (unguarded : before.scopes = []) (closed : after.scopes = [])
      (propagates : before.monitor.policy = .propagate)
      (uncancelled : cause.isCancellation = false) : Escapes before after (.raisedAt cause origin)

/-- In between nothing was handed on, and nothing was recorded. -/
structure Uneventful (before after : Machine World) : Prop extends SameRecords before after where
  suffix : before.trace <:+ after.trace
  handings : after.sightings Occurrence.isHanding = before.sightings Occurrence.isHanding

namespace Uneventful

variable {before after : Machine World}

/-- Where nothing happens nothing is handed on. -/
theorem refl (machine : Machine World) : Uneventful machine machine :=
  ⟨.refl machine, List.suffix_refl _, rfl⟩

/-- Notes hand on nothing, unless they note just that. -/
theorem note {occurrence : Occurrence} (unhanded : occurrence.isHanding = false)
    (machine : Machine World) : Uneventful machine (machine.note occurrence) where
  toSameRecords := .note machine occurrence
  suffix := List.suffix_cons _ _
  handings := sightings_note_unwatched unhanded machine

/-- Raising the signal hands on nothing. -/
theorem raise (mover : SignalMover) (machine : Machine World) :
    Uneventful machine (machine.raise mover) where
  toSameRecords := .raise mover machine
  suffix := (Later.raise (fun _ => trivial) machine : Later (fun _ => True) _ _).suffix
  handings := sightings_raise Occurrence.isHanding_of_isRoutine mover machine

/-- Whatever was moved from outside, a look hands nothing on. -/
theorem look (machine : Machine World) : Uneventful machine machine.look where
  toSameRecords := .look machine
  suffix := (Later.look (fun _ => trivial) machine : Later (fun _ => True) _ _).suffix
  handings := sightings_look Occurrence.isHanding_of_isRoutine machine

/-- Entering a node hands on nothing, with the pause there. -/
theorem enter (node : NodeId) (machine : Machine World) :
    Uneventful machine (machine.enter node) where
  toSameRecords := .enter node machine
  suffix := (Later.enter machine Occurrence.freely trivial).suffix
  handings := sightings_enter Occurrence.isHanding_of_isRoutine node machine

/-- Leaving a node hands on nothing. -/
theorem leave (node : NodeId) (machine : Machine World) :
    Uneventful machine (machine.leave node) where
  toSameRecords := .leave node machine
  suffix := List.suffix_cons _ _
  handings := sightings_leave Occurrence.isHanding_of_isRoutine node machine

/-- Opening a scope hands on nothing, with the pause at its call site. -/
theorem opened (activation : Activation) (machine : Machine World) :
    Uneventful machine (activation.opened machine) where
  toSameRecords := .opened activation machine
  suffix := (Later.opened activation machine Occurrence.freely fun _ _ => trivial).suffix
  handings := sightings_opened Occurrence.isHanding_of_isRoutine activation machine

/-- Leaving a scope hands on nothing. -/
theorem exit (activation : Activation) (machine : Machine World) :
    Uneventful machine (activation.exit machine) where
  toSameRecords := .exit activation machine
  suffix := (Later.exit machine (Occurrence.freely) activation).suffix
  handings := sightings_exit Occurrence.isHanding_of_isRoutine activation machine

/-- The fault of a refused scope has been handed to nobody. -/
theorem refused (activation : Activation) (limit : Nat) (machine : Machine World) :
    Uneventful machine (activation.refused limit machine) where
  toSameRecords := .refused activation limit machine
  suffix := (Later.refused machine (Occurrence.freely) activation limit).suffix
  handings := sightings_refused Occurrence.isHanding_of_isRoutine activation limit machine

/-- The fault of a failed write has been handed to nobody. -/
theorem write (site : WriteSite) (name : String) (cell : Cell) (value : Value)
    (machine : Machine World) :
    Uneventful machine (Machine.write site name cell value machine).state where
  toSameRecords := .write site name cell value machine
  suffix := (Later.write (fun _ => trivial) name value : Later (fun _ => True) _ _).suffix
  handings := sightings_write Occurrence.isHanding_of_isRoutine site name cell value machine

/-- Constructs fail, if they do, without handing anything on. -/
theorem invoke (construct : Construct World) (arguments : List Value) (machine : Machine World) :
    Uneventful machine (Machine.invoke construct arguments machine).state where
  toSameRecords := .invoke construct arguments machine
  suffix := (Later.invoke machine (Occurrence.freely) construct arguments).suffix
  handings := sightings_invoke Occurrence.isHanding_of_isRoutine construct arguments machine

/-- Whatever was noted on the way was noted without handing on a fault. -/
theorem added (uneventful : Uneventful before after) :
    ∃ added, after.trace = added ++ before.trace ∧
      ∀ occurrence ∈ added, occurrence.isHanding = false := by
  obtain ⟨added, trace⟩ := uneventful.suffix
  refine ⟨added, trace.symm, ?_⟩
  have same := uneventful.handings
  rw [sightings, sightings, ← trace, List.filter_append] at same
  simpa using List.append_left_eq_self.mp same

end Uneventful

variable {first second third : Machine World} {old new : List Occurrence}

namespace Ascribes

/-- Nothing is ascribed where nothing was handed on. -/
theorem refl (machine : Machine World) : machine.Ascribes machine [] :=
  ⟨rfl, rfl, .nil, by rw [handedTo_of_unhanded (by simp), ErrorPolicy.records_nil, List.append_nil]⟩

/-- Whatever is on its way out, nothing else happens after it. -/
theorem uneventful (earlier : first.Ascribes second old) (later : Uneventful second third)
    (trace : third.trace = new ++ second.trace)
    (unhanded : ∀ occurrence ∈ new, occurrence.isHanding = false) :
    first.Ascribes third (new ++ old) where
  trace := by rw [trace, earlier.trace, List.append_assoc]
  policy := later.policy.trans earlier.policy
  attributed := earlier.attributed.append_unhanded unhanded
  errors := by
    rw [later.errors, earlier.errors, handedTo_append, handedTo_of_unhanded unhanded,
      List.append_nil]

/-- What the monitor has recorded since comes from statements that handed it on first of all. -/
theorem error_cases (ascribes : first.Ascribes second new) {error : Fault}
    (recorded : error ∈ second.monitor.errors) :
    error ∈ first.monitor.errors ∨ ∃ cause statement, error = .raisedAt cause statement ∧
      .handed statement (some statement) 0 (.ofCause cause) ∈ new := by
  rw [ascribes.errors] at recorded
  refine (List.mem_append.mp recorded).imp_right fun added => ?_
  have absorbs : first.monitor.policy ≠ .propagate := by
    intro propagates
    rw [propagates] at added
    cases added
  have mapped : first.monitor.policy.records (handedTo 0 new) =
      (handedTo 0 new).map fun fault => fault.1.attributedTo fault.2 := by
    cases policy : first.monitor.policy with
    | propagate => exact absurd policy absorbs
    | _ => rfl
  rw [mapped] at added
  obtain ⟨handed, listed, rfl⟩ := List.mem_map.mp added
  obtain ⟨cause, statement, rfl, happened⟩ :=
    ascribes.attributed.fresh_of_mem_handedTo (.inr absorbs) listed
  exact ⟨cause, statement, rfl, happened⟩

/-- What the error scopes have recorded is accounted for apart. -/
theorem withScopes (ascribes : first.Ascribes second new) (scopes : List ErrorScope) :
    first.Ascribes (second.withScopes scopes) new :=
  ⟨ascribes.trace, ascribes.policy, ascribes.attributed, ascribes.errors⟩

end Ascribes

namespace Settles

/-- Settling faults opens and closes no error scope. -/
theorem length_scopes (settles : first.Settles second old) :
    second.scopes.length = first.scopes.length := by
  rw [settles.scopes, ErrorScope.length_recordInnermost]

/-- What happens next is added to what happened before. -/
theorem ascribes (earlier : first.Settles second old) (later : second.Ascribes third new) :
    first.Ascribes third (new ++ old) where
  trace := by rw [later.trace, earlier.trace, List.append_assoc]
  policy := later.policy.trans earlier.policy
  attributed := by
    have continued := later.attributed
    rw [earlier.policy, earlier.length_scopes] at continued
    exact earlier.attributed.append earlier.absorbed continued
  errors := by
    rw [later.errors, earlier.errors, earlier.policy, handedTo_append, ErrorPolicy.records_append,
      List.append_assoc]

/-- What two stretches handed on is settled together, in the order in which it was. -/
theorem trans (earlier : first.Settles second old) (later : second.Settles third new) :
    first.Settles third (new ++ old) where
  toAscribes := earlier.ascribes later.toAscribes
  scopes := by
    rw [handedTo_append, ErrorScope.recordInnermost_append, ← earlier.scopes, later.scopes,
      earlier.length_scopes]
  absorbed := by
    have continued := later.absorbed
    rw [earlier.policy, earlier.length_scopes] at continued
    exact earlier.absorbed.append continued

end Settles

/-- Conclusions of two stretches are one. -/
theorem Concludes.trans (earlier : first.Concludes second) (later : second.Concludes third) :
    first.Concludes third := by
  obtain ⟨old, settled⟩ := earlier
  obtain ⟨new, settles⟩ := later
  exact ⟨new ++ old, settled.trans settles⟩

/-- Where nothing was handed on there is nothing to account for. -/
theorem Uneventful.concludes (uneventful : Uneventful first second) : first.Concludes second := by
  obtain ⟨added, trace, unhanded⟩ := uneventful.added
  have ascribes := (Ascribes.refl first).uneventful uneventful trace unhanded
  rw [List.append_nil] at ascribes
  refine ⟨added, ascribes, ?_, .of_unhanded unhanded _ _⟩
  rw [handedTo_of_unhanded unhanded, ErrorScope.recordInnermost_nil, uneventful.scopes]

namespace Escapes

variable {fault : Fault}

/-- A fault that escapes later escapes from the start. -/
theorem after (earlier : first.Concludes second) (escapes : Escapes second third fault) :
    Escapes first third fault := by
  cases escapes with
  | fresh concludes => exact .fresh (earlier.trans concludes)
  | passing ascribes passing unguarded closed propagates uncancelled =>
    obtain ⟨old, settled⟩ := earlier
    have empty : first.scopes = [] := by
      rw [← List.length_eq_zero_iff, ← settled.length_scopes, unguarded]
      rfl
    exact .passing (settled.ascribes ascribes) (passing.append old) empty closed
      (settled.policy.symm.trans propagates) uncancelled

/-- While a fault is on its way out, nothing happens but that nodes are left. -/
theorem following (escapes : Escapes first second fault) (uneventful : Uneventful second third)
    (leaves : third.trace = second.trace ∨
      ∃ node taken, third.trace = .left node taken :: second.trace) :
    Escapes first third fault := by
  cases escapes with
  | fresh concludes => exact .fresh (concludes.trans uneventful.concludes)
  | passing ascribes passing unguarded closed propagates uncancelled =>
    have stillClosed := uneventful.scopes.trans closed
    rcases leaves with same | ⟨node, taken, left⟩
    · have unchanged : third.trace = [] ++ second.trace := same
      have later := ascribes.uneventful uneventful unchanged (List.forall_mem_nil _)
      exact .passing later passing unguarded stillClosed propagates uncancelled
    · have later := ascribes.uneventful uneventful left (List.forall_mem_singleton.mpr rfl)
      exact .passing later passing.left unguarded stillClosed propagates uncancelled

/-- A stop request is never on its way out of the statement that it stops. -/
theorem concludes (escapes : Escapes first second fault) (cancelled : fault.isCancellation = true) :
    first.Concludes second := by
  cases escapes with
  | fresh concludes => exact concludes
  | passing _ _ _ _ _ uncancelled => cases cancelled.symm.trans uncancelled

/-- Leaving the node under which a fault came up does not change what it is. -/
theorem leave (escapes : Escapes first second fault) (node : NodeId) :
    Escapes first (second.leave node) fault :=
  escapes.following (.leave node second) (.inr ⟨_, _, rfl⟩)

/-- Leaving the scope in which a fault came up does not change what it is. -/
theorem exit (escapes : Escapes first second fault) (activation : Activation) :
    Escapes first (activation.exit second) fault := by
  refine escapes.following (.exit activation second) ?_
  -- An activation may leave a node, and what else it gives up leaves no trace.
  have dropped (stepped : Machine World) :
      (activation.unbind stepped.exitFrame).trace = stepped.trace := by
    simp only [Activation.unbind, exitFrame, Monitor.dropFrame]
    cases stepped.monitor.frames <;> cases activation.ownsBindings <;> rfl
  rw [Activation.exit, dropped]
  split
  · exact .inr ⟨_, _, rfl⟩
  · exact .inl rfl

end Escapes

end Machine

open Machine

/-- What a computation comes to is attributed: everything that was handed on is accounted for, and
so is the fault it fails with. -/
def Attributable (part : State → Machine World) (before : State) : Outcome State Result → Prop
  | .done _ after => (part before).Concludes (part after)
  | .failed fault after => Escapes (part before) (part after) fault
  | .exhausted after => ∃ added, (part before).Ascribes (part after) added

/-- Wherever the computation starts, what it comes to is attributed. -/
def Exec.IsAttributable (part : State → Machine World) (body : Exec State Result) : Prop :=
  ∀ before, Attributable part before (body before)

namespace Attributable

variable {part : State → Machine World} {before opened : State}

/-- What was concluded before counts in, whatever comes of the rest. -/
theorem after {outcome : Outcome State Result} (earlier : (part before).Concludes (part opened))
    (later : Attributable part opened outcome) : Attributable part before outcome := by
  cases outcome with
  | done result after => exact earlier.trans later
  | failed fault after => exact Escapes.after earlier later
  | exhausted after =>
    obtain ⟨old, settled⟩ := earlier
    obtain ⟨new, ascribes⟩ := later
    exact ⟨new ++ old, settled.ascribes ascribes⟩

/-- What a computation gives makes no difference. -/
theorem returning {body : Exec State Result} (attributable : Attributable part before (body opened))
    (answer : Next) :
    Attributable part before ((body >>= fun _ => Pure.pure answer : Exec State Next) opened) := by
  rw [Exec.bind_apply]
  cases ended : body opened with
  | done result after =>
    rw [ended] at attributable
    exact attributable
  | failed fault after =>
    rw [ended] at attributable
    exact attributable
  | exhausted after =>
    rw [ended] at attributable
    exact attributable

/-- However the computation ends, all that was handed on is accounted for. -/
theorem ascribes {outcome : Outcome State Result}
    (attributable : Attributable part before outcome) :
    ∃ added, (part before).Ascribes (part outcome.state) added := by
  cases outcome with
  | done result after =>
    obtain ⟨added, settles⟩ := attributable
    exact ⟨added, settles.toAscribes⟩
  | failed fault after =>
    cases attributable with
    | fresh concludes =>
      obtain ⟨added, settles⟩ := concludes
      exact ⟨added, settles.toAscribes⟩
    | passing ascribes => exact ⟨_, ascribes⟩
  | exhausted after => exact attributable

/-- What cleans up has to conclude, and must not catch a fault that escapes. -/
theorem ensuring {body : Exec State Result} {cleanup : State → State}
    (inside : Attributable part before (body opened))
    (concludes : ∀ state, (part state).Concludes (part (cleanup state)))
    (escapes : ∀ fault state, Escapes (part before) (part state) fault →
      Escapes (part before) (part (cleanup state)) fault) :
    Attributable part before (Exec.ensuring body cleanup opened) := by
  simp only [Exec.ensuring]
  cases ended : body opened with
  | done result after =>
    rw [ended] at inside
    exact Machine.Concludes.trans inside (concludes after)
  | failed fault after =>
    rw [ended] at inside
    exact escapes fault after inside
  | exhausted after =>
    rw [ended] at inside
    exact inside

end Attributable

namespace Exec.IsAttributable

variable {part : State → Machine World} {first : Exec State Result}

/-- A computation that hands on nothing is attributable if it fails only for causes of its own. -/
theorem of_uneventful {body : Exec State Result}
    (uneventful : ∀ before, (part before).Uneventful (part (body before).state))
    (fresh : ∀ before fault after, body before = .failed fault after →
      ∃ cause, fault = .ofCause cause) : body.IsAttributable part := by
  intro before
  have concludes := (uneventful before).concludes
  cases ended : body before with
  | done result after =>
    rw [ended] at concludes
    exact concludes
  | failed fault after =>
    rw [ended] at concludes
    obtain ⟨cause, rfl⟩ := fresh before fault after ended
    exact .fresh concludes
  | exhausted after =>
    rw [ended] at concludes
    obtain ⟨added, settles⟩ := concludes
    exact ⟨added, settles.toAscribes⟩

/-- Being done with a value hands on nothing. -/
theorem pure (result : Result) : (Pure.pure result : Exec State Result).IsAttributable part :=
  fun _ => (Uneventful.refl _).concludes

/-- A fresh fault has been handed to nobody. -/
theorem failFor (cause : Cause) : (Exec.failFor cause : Exec State Result).IsAttributable part :=
  fun _ => .fresh (Uneventful.refl _).concludes

/-- What is cut off hands on nothing. -/
theorem exhausted : (Exec.exhausted : Exec State Result).IsAttributable part :=
  of_uneventful (fun _ => .refl _) fun _ _ _ failed => nomatch failed

/-- A change of the state has to conclude by itself. -/
theorem update {change : State → State}
    (concludes : ∀ state, (part state).Concludes (part (change state))) :
    (Exec.update change).IsAttributable part :=
  concludes

theorem state {next : State → Exec State Result}
    (attributable : ∀ current, (next current).IsAttributable part) :
    (Exec.state >>= next).IsAttributable part :=
  fun before => attributable before before

/-- The rest of a sequence goes on from what the first part concluded. -/
theorem bind {next : Result → Exec State Next} (attributable : first.IsAttributable part)
    (nextAttributable : ∀ result, (next result).IsAttributable part) :
    (first >>= next).IsAttributable part := by
  intro before
  have earlier := attributable before
  rw [Exec.bind_apply]
  cases ended : first before with
  | done result after =>
    rw [ended] at earlier
    exact Attributable.after earlier (nextAttributable result after)
  | failed fault after =>
    rw [ended] at earlier
    exact earlier
  | exhausted after =>
    rw [ended] at earlier
    exact earlier

variable {body : Exec (Machine World) Result}

/-- A scope that is refused fails for a cause, and one that is opened adds nothing of its own. -/
theorem within (activation : Activation) (attributable : body.IsAttributable id) :
    (activation.within body).IsAttributable id := by
  intro before
  rw [Activation.within_apply]
  split
  · next limit _ => exact .fresh (Uneventful.refused activation limit before).concludes
  · apply Attributable.ensuring
    · exact Attributable.after (Uneventful.opened activation before).concludes (attributable _)
    · exact fun machine => (Uneventful.exit activation machine).concludes
    · exact fun fault machine escapes => escapes.exit activation

/-- Frames that are logged around a body add nothing of their own. -/
theorem withinFrames (layouts : List Layout) (attributable : body.IsAttributable id) :
    (Activation.withinFrames layouts body).IsAttributable id := by
  induction layouts with
  | nil => exact attributable
  | cons layout rest inductionHypothesis => exact within _ inductionHypothesis

end Exec.IsAttributable

namespace Machine

section

variable {machine : Machine World} {statement origin : NodeId} {cause : Cause}
  (blameless : cause.isMisuse = false) (uncancelled : cause.isCancellation = false)

include blameless uncancelled

/-- Inside an error scope a fault is recorded by the innermost one. -/
theorem hand_guarded {scope : ErrorScope} {outer : List ErrorScope}
    (guarded : machine.scopes = scope :: outer) :
    Machine.hand (.ofCause cause) machine =
      .done ()
        (machine.withScopes (scope.record (.ofCause cause) machine.monitor.top? :: outer)) := by
  simp [Machine.hand, guarded, Fault.isMisuse, Fault.isCancellation, Fault.ofCause, blameless,
    uncancelled, withScopes]

/-- Outside of all error scopes it comes to the monitor, with the statement on top of the call
stack. -/
theorem hand_unguarded (unguarded : machine.scopes = [])
    (top : machine.monitor.top? = some statement) :
    Machine.hand (.ofCause cause) machine =
      let recorded := { machine with monitor := machine.monitor.record (.raisedAt cause statement) }
      match machine.monitor.policy with
      | .propagate => .failed (.raisedAt cause statement) machine
      | .recordAndContinue => .done () recorded
      | .recordAndStop => .done () (recorded.raise .policy) := by
  cases policy : machine.monitor.policy <;>
    simp [Machine.hand, Machine.handUncaught, unguarded, top, policy, Fault.isCancellation,
      Fault.isMisuse, Fault.attributedTo, Fault.ofCause, Fault.raisedAt, blameless, uncancelled]

/-- A fault that has passed the monitor once comes through it unchanged. -/
theorem hand_passing (unguarded : machine.scopes = [])
    (propagates : machine.monitor.policy = .propagate) :
    Machine.hand (.raisedAt cause origin) machine = .failed (.raisedAt cause origin) machine := by
  simp [Machine.hand, Machine.handUncaught, unguarded, propagates, Fault.isCancellation,
    Fault.isMisuse, Fault.attributedTo, Fault.raisedAt, blameless, uncancelled]

omit blameless uncancelled in
/-- The trace is told of the failure first. -/
theorem handFrom_unguarded (fault : Fault) (top : machine.monitor.top? = some statement)
    (unguarded : machine.scopes = []) :
    Machine.handFrom statement fault machine =
      Machine.hand fault (machine.note (.handed statement (some statement) 0 fault)) := by
  have level : machine.scopes.length = 0 := congrArg List.length unguarded
  simp only [← top, ← level]
  rfl

/-- An error scope records the fault with the statement it comes from. -/
theorem attributable_handFrom_guarded (top : machine.monitor.top? = some statement)
    (guarded : machine.scopes ≠ []) :
    Attributable id machine (Machine.handFrom statement (.ofCause cause) machine) := by
  obtain ⟨scope, outer, opened⟩ := List.exists_cons_of_ne_nil guarded
  let occurrence : Occurrence :=
    .handed statement machine.monitor.top? machine.scopes.length (.ofCause cause)
  have noted : (machine.note occurrence).scopes = scope :: outer := opened
  have handed : Machine.handFrom statement (.ofCause cause) machine = _ :=
    hand_guarded blameless uncancelled noted
  have deeper : machine.scopes.length ≠ 0 := by simp [opened]
  rw [handed]
  refine ⟨[occurrence], ⟨rfl, rfl, ?_, ?_⟩, ?_, fun unguarded => absurd unguarded deeper⟩
  · simp only [occurrence, top]
    exact .fresh (Nat.le_refl _) (fun _ _ => rfl) .nil
  · rw [handedTo_singleton, if_neg deeper, ErrorPolicy.records_nil, List.append_nil]
    rfl
  · change _ = ErrorScope.recordInnermost machine.scopes (handedTo machine.scopes.length _)
    rw [handedTo_singleton, if_pos rfl, opened]
    rfl

/-- Without an error scope the monitor records the fault with the statement it comes from, or the
fault goes out from there. -/
theorem attributable_handFrom_unguarded (top : machine.monitor.top? = some statement)
    (unguarded : machine.scopes = []) :
    Attributable id machine (Machine.handFrom statement (.ofCause cause) machine) := by
  let occurrence : Occurrence := .handed statement (some statement) 0 (.ofCause cause)
  let recorded : Machine World :=
    { machine.note occurrence with
      monitor := machine.monitor.record (.raisedAt cause statement) }
  have level : machine.scopes.length = 0 := congrArg List.length unguarded
  have attributed : Attributed machine.monitor.policy machine.scopes.length [occurrence] :=
    .fresh (Nat.le_of_eq level) (fun _ _ => rfl) .nil
  have noted : (machine.note occurrence).scopes = [] := unguarded
  have routed := hand_unguarded blameless uncancelled noted top
  have absorbed (absorbs : machine.monitor.policy ≠ .propagate) : machine.Concludes recorded := by
    refine ⟨[occurrence], ⟨rfl, rfl, attributed, ?_⟩, ?_,
      fun _ propagates => absurd propagates absorbs⟩
    · cases policy : machine.monitor.policy with
      | propagate => exact absurd policy absorbs
      | recordAndContinue => rfl
      | recordAndStop => rfl
    · rw [unguarded]
      exact unguarded
  have samePolicy : (machine.note occurrence).monitor.policy = machine.monitor.policy := rfl
  rw [handFrom_unguarded _ top unguarded, routed, samePolicy]
  cases policy : machine.monitor.policy with
  | propagate =>
    have ascribes : machine.Ascribes (machine.note occurrence) [occurrence] := by
      refine ⟨rfl, rfl, attributed, ?_⟩
      rw [policy]
      exact (List.append_nil _).symm
    exact .passing ascribes .handed unguarded unguarded policy uncancelled
  | recordAndContinue => exact absorbed (by simp [policy])
  | recordAndStop =>
    exact (absorbed (by simp [policy])).trans (Uneventful.raise .policy recorded).concludes

/-- A fault that is on its way out is given back as it is. -/
theorem attributable_handFrom_passing {before : Machine World} {added : List Occurrence}
    (top : machine.monitor.top? = some statement) (ascribes : before.Ascribes machine added)
    (passing : Passing cause origin added) (unguarded : before.scopes = [])
    (closed : machine.scopes = []) (propagates : before.monitor.policy = .propagate) :
    Attributable id before (Machine.handFrom statement (.raisedAt cause origin) machine) := by
  let occurrence : Occurrence := .handed statement (some statement) 0 (.raisedAt cause origin)
  have level : before.scopes.length = 0 := congrArg List.length unguarded
  have again : before.Ascribes (machine.note occurrence) (occurrence :: added) := by
    refine ⟨?_, ascribes.policy, .again level propagates passing ascribes.attributed, ?_⟩
    · exact congrArg (occurrence :: ·) ascribes.trace
    · have recorded := ascribes.errors
      rw [propagates] at recorded ⊢
      exact recorded
  have noted : (machine.note occurrence).scopes = [] := closed
  rw [handFrom_unguarded _ top closed, hand_passing blameless uncancelled noted
    (ascribes.policy.trans propagates)]
  exact .passing again passing.again unguarded closed propagates uncancelled

end

/-- Whatever a statement fails with, handing it on while the statement is on top of the call stack
attributes it. -/
theorem attributable_handFrom {fault : Fault} {before machine : Machine World}
    {statement : NodeId} (escapes : Escapes before machine fault)
    (blameless : fault.isMisuse = false) (uncancelled : fault.isCancellation = false)
    (top : machine.monitor.top? = some statement) :
    Attributable id before (Machine.handFrom statement fault machine) := by
  cases escapes with
  | fresh concludes =>
    refine Attributable.after concludes ?_
    by_cases unguarded : machine.scopes = []
    · exact attributable_handFrom_unguarded blameless uncancelled top unguarded
    · exact attributable_handFrom_guarded blameless uncancelled top unguarded
  | passing ascribes passing unguarded closed propagates =>
    exact attributable_handFrom_passing blameless uncancelled top ascribes passing unguarded closed
      propagates

end Machine

end Treewalk
