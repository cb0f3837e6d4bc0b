import Treewalk.Proofs.PolicyChanges
import Treewalk.Proofs.RecordedFailures
import Treewalk.Proofs.ScriptCongruence
import Treewalk.Proofs.Sightings

/-!
# Runs under different policies

The same program is run under the policy that propagates and under the others. The runs do the same
until a failure comes to the monitor. From there on they have nothing to do with each other, except
for this: the first gives up, and everything around it hands on the failure that it gave up with,
unchanged; the others have recorded this failure before any other.

`Tied` relates the ends of such runs. It is a congruence for programs and for scripts, so it holds
of the runs of every script. -/

namespace Treewalk

variable {World State Result Next : Type}

/-- A failure was handed to the monitor, since no error scope was open. -/
def Occurrence.isUncaught : Occurrence → Bool
  | .handed _ _ 0 _ => true
  | _ => false

/-- The operations of the machine hand nothing to the monitor by themselves. -/
theorem Occurrence.isUncaught_of_isRoutine (occurrence : Occurrence)
    (routine : occurrence.isRoutine = true) : occurrence.isUncaught = false := by
  cases occurrence with
  | handed => cases routine
  | _ => rfl

namespace Machine

/-- The failures that were handed to the monitor, newest first. -/
def uncaught (machine : Machine World) : List Occurrence :=
  machine.sightings Occurrence.isUncaught

/-- A pause hook sees no failure handed to the monitor. -/
@[simp] theorem uncaught_withPolicy (policy : ErrorPolicy) (machine : Machine World) :
    (machine.withPolicy policy).uncaught = machine.uncaught :=
  trace_withPolicy_filter policy (fun _ _ => rfl) machine.trace

/-- In between no failure was handed to the monitor. -/
structure Unhanded (before after : Machine World) : Prop extends SameSettings before after where
  errors : after.monitor.errors = before.monitor.errors
  uncaught : after.uncaught = before.uncaught

/-- Uncaught failures are given back, so far none had to be recorded, and no pause hook makes use of
the policy. -/
structure Propagating (machine : Machine World) : Prop where
  policy : machine.monitor.policy = .propagate
  errors : machine.monitor.errors = []
  ignores : machine.HookIgnoresPolicy

/-- The failure is on its way out, and handing it on again makes no difference to it: if it is
attributed to no node, then because none is left. -/
structure GivesUp (fault : Fault) (machine : Machine World) : Prop where
  propagating : machine.Propagating
  unguarded : machine.scopes = []
  uncancelled : fault.isCancellation = false
  attributed : fault.node = none → machine.monitor.stack.nodes = []

namespace Unhanded

variable {first second third before after : Machine World}

/-- Where nothing was recorded it is enough to know what was noted. -/
theorem of_sameRecords (same : SameRecords before after)
    (uncaught : after.uncaught = before.uncaught) : Unhanded before after :=
  ⟨same.toSameSettings, same.errors, uncaught⟩

/-- Nothing is handed on where nothing happens. -/
theorem refl (machine : Machine World) : Unhanded machine machine :=
  of_sameRecords (.refl machine) rfl

/-- Two stretches that hand nothing to the monitor hand it nothing together. -/
theorem trans (earlier : Unhanded first second) (later : Unhanded second third) :
    Unhanded first third where
  toSameSettings := earlier.toSameSettings.trans later.toSameSettings
  errors := later.errors.trans earlier.errors
  uncaught := later.uncaught.trans earlier.uncaught

/-- The hook stays the one there was. -/
theorem ignores (unhanded : Unhanded before after) (ignores : before.HookIgnoresPolicy) :
    after.HookIgnoresPolicy := by
  rw [HookIgnoresPolicy, unhanded.pauseHook]
  exact ignores

/-- The policy stays the one there was, with nothing recorded. -/
theorem propagating (unhanded : Unhanded before after) (propagating : before.Propagating) :
    after.Propagating where
  policy := unhanded.policy.trans propagating.policy
  errors := unhanded.errors.trans propagating.errors
  ignores := unhanded.ignores propagating.ignores

/-- A note hands nothing to the monitor, unless it notes just that. -/
theorem note {occurrence : Occurrence} (caught : occurrence.isUncaught = false)
    (machine : Machine World) : Unhanded machine (machine.note occurrence) :=
  of_sameRecords (.note machine occurrence) (sightings_note_unwatched caught machine)

/-- Raising the signal hands nothing to the monitor. -/
theorem raise (mover : SignalMover) (machine : Machine World) :
    Unhanded machine (machine.raise mover) :=
  of_sameRecords (.raise mover machine)
    (sightings_raise Occurrence.isUncaught_of_isRoutine mover machine)

/-- A look at the stop signal hands nothing to the monitor, whatever comes from outside. -/
theorem look (machine : Machine World) : Unhanded machine machine.look :=
  of_sameRecords (.look machine) (sightings_look Occurrence.isUncaught_of_isRoutine machine)

/-- Entering a node hands nothing to the monitor, with the pause there. -/
theorem enter (node : NodeId) (machine : Machine World) :
    Unhanded machine (machine.enter node) :=
  of_sameRecords (.enter node machine)
    (sightings_enter Occurrence.isUncaught_of_isRoutine node machine)

/-- Leaving a node hands nothing to the monitor. -/
theorem leave (node : NodeId) (machine : Machine World) :
    Unhanded machine (machine.leave node) :=
  of_sameRecords (.leave node machine)
    (sightings_leave Occurrence.isUncaught_of_isRoutine node machine)

/-- Opening a scope hands nothing to the monitor. -/
theorem opened (activation : Activation) (machine : Machine World) :
    Unhanded machine (activation.opened machine) :=
  of_sameRecords (.opened activation machine)
    (sightings_opened Occurrence.isUncaught_of_isRoutine activation machine)

/-- Leaving a scope hands nothing to the monitor. -/
theorem exit (activation : Activation) (machine : Machine World) :
    Unhanded machine (activation.exit machine) :=
  of_sameRecords (.exit activation machine)
    (sightings_exit Occurrence.isUncaught_of_isRoutine activation machine)

/-- A refused scope fails without handing its fault on. -/
theorem refused (activation : Activation) (limit : Nat) (machine : Machine World) :
    Unhanded machine (activation.refused limit machine) :=
  of_sameRecords (.refused activation limit machine)
    (sightings_refused Occurrence.isUncaught_of_isRoutine activation limit machine)

/-- A failed write fails without handing its fault on. -/
theorem write (site : WriteSite) (name : String) (cell : Cell) (value : Value)
    (machine : Machine World) :
    Unhanded machine (Machine.write site name cell value machine).state :=
  of_sameRecords (.write site name cell value machine)
    (sightings_write Occurrence.isUncaught_of_isRoutine site name cell value machine)

/-- A construct that fails does so without handing its fault on. -/
theorem invoke (construct : Construct World) (arguments : List Value) (machine : Machine World) :
    Unhanded machine (Machine.invoke construct arguments machine).state :=
  of_sameRecords (.invoke construct arguments machine)
    (sightings_invoke Occurrence.isUncaught_of_isRoutine construct arguments machine)

/-- Inside an error scope no fault gets to the monitor. -/
theorem hand (fault : Fault) {machine : Machine World} (guarded : machine.scopes ≠ []) :
    Unhanded machine (Machine.hand fault machine).state := by
  obtain ⟨scope, outer, opened⟩ := List.exists_cons_of_ne_nil guarded
  simp only [Machine.hand, opened]
  split
  · exact refl machine
  · exact { refl machine with }

end Unhanded

namespace GivesUp

variable {fault : Fault} {machine : Machine World}

/-- The policy that propagates gives up on a failure as soon as it comes to the monitor. -/
theorem of_unguarded (propagating : machine.Propagating) (unguarded : machine.scopes = [])
    (uncancelled : fault.isCancellation = false) :
    Machine.hand fault machine = .failed (fault.attributedTo machine.monitor.top?) machine ∧
      GivesUp (fault.attributedTo machine.monitor.top?) machine := by
  constructor
  · simp only [Machine.hand, handUncaught, unguarded, uncancelled, propagating.policy]
    simp
  · refine ⟨propagating, unguarded, uncancelled, ?_⟩
    intro unattributed
    exact List.head?_eq_none_iff.mp (Option.or_eq_none_iff.mp unattributed).2

/-- Handing on a failure that was given up on gives it back as it is. -/
theorem hand (givesUp : GivesUp fault machine) :
    Machine.hand fault machine = .failed fault machine := by
  have same : fault.attributedTo machine.monitor.top? = fault := by
    obtain ⟨cause, node, suppressed⟩ := fault
    cases node with
    | some node => rfl
    | none =>
      have empty : machine.monitor.top? = none :=
        List.head?_eq_none_iff.mpr (givesUp.attributed rfl)
      rw [empty]
      rfl
  have handed := (of_unguarded givesUp.propagating givesUp.unguarded givesUp.uncancelled).1
  rw [same] at handed
  exact handed

/-- The same for whoever hands on the failure first of all. -/
theorem hands (givesUp : GivesUp fault machine) {body : Exec (Machine World) Result}
    (hands : Program.Hands fault body) :
    ∃ after, body machine = .failed fault after ∧ GivesUp fault after := by
  cases hands with
  | hand next => exact ⟨machine, by rw [Exec.bind_apply, givesUp.hand], givesUp⟩
  | handFrom statement next =>
    let noted := machine.note
      (.handed statement machine.monitor.top? machine.scopes.length fault)
    have stillGivesUp : GivesUp fault noted :=
      { givesUp with propagating := { givesUp.propagating with } }
    have handed : handFrom statement fault machine = .failed fault noted := stillGivesUp.hand
    exact ⟨noted, by rw [Exec.bind_apply, handed], stillGivesUp⟩

/-- A run that gives up stays that way while it hands on nothing more. -/
theorem of_unhanded {after : Machine World} (givesUp : GivesUp fault machine)
    (unhanded : Unhanded machine after) (scopes : after.scopes = machine.scopes)
    (stack : machine.monitor.stack.nodes = [] → after.monitor.stack.nodes = []) :
    GivesUp fault after where
  propagating := unhanded.propagating givesUp.propagating
  unguarded := scopes.trans givesUp.unguarded
  uncancelled := givesUp.uncancelled
  attributed unattributed := stack (givesUp.attributed unattributed)

/-- Leaving a node does not undo that a run gives up. -/
theorem leave (givesUp : GivesUp fault machine) (node : NodeId) :
    GivesUp fault (machine.leave node) :=
  givesUp.of_unhanded (.leave node machine) rfl (congrArg List.tail)

/-- Leaving a scope does not undo that a run gives up. -/
theorem exit (givesUp : GivesUp fault machine) (activation : Activation) :
    GivesUp fault (activation.exit machine) := by
  apply givesUp.of_unhanded (.exit activation machine) (SameRecords.exit activation machine).scopes
  intro empty
  have dropped (stepped : Machine World) :
      (activation.unbind stepped.exitFrame).monitor.stack = stepped.monitor.stack := by
    simp only [Activation.unbind, exitFrame, Monitor.dropFrame]
    cases stepped.monitor.frames <;> cases activation.ownsBindings <;> rfl
  rw [Activation.exit, dropped]
  split
  · exact congrArg List.tail empty
  · exact empty

end GivesUp

/-- Every other policy records the failure. -/
theorem errors_hand_of_unguarded {fault : Fault} {machine : Machine World}
    (records : machine.monitor.policy ≠ .propagate) (unguarded : machine.scopes = [])
    (blameless : fault.isMisuse = false) (uncancelled : fault.isCancellation = false) :
    (Machine.hand fault machine).state.monitor.errors =
      machine.monitor.errors ++ [fault.attributedTo machine.monitor.top?] := by
  have attributed : (fault.attributedTo machine.monitor.top?).isMisuse = false := blameless
  simp only [Machine.hand, handUncaught, unguarded, uncancelled, attributed, Bool.false_eq_true,
    if_false]
  split
  · next propagates => exact absurd propagates records
  · rfl
  · exact (Unhanded.raise .policy _).errors

end Machine

/-- The ends of runs that started alike, one under the policy that propagates and one for each
policy. Either they still are alike, and no failure was handed to the monitor, or the first run has
given up with the failure that all others recorded first. -/
inductive Tied (part : State → Machine World) (align : ErrorPolicy → State → State)
    (before : State) : Outcome State Result → (ErrorPolicy → Outcome State Result) → Prop where
  | alike {left : Outcome State Result} {right : ErrorPolicy → Outcome State Result}
      (same : ∀ policy, right policy = left.mapState (align policy))
      (unhanded : (part before).Unhanded (part left.state)) : Tied part align before left right
  | parted {fault : Fault} {after : State} {right : ErrorPolicy → Outcome State Result}
      (givesUp : (part after).GivesUp fault)
      (recorded : ∀ policy, policy ≠ .propagate →
        [fault] <+: (part (right policy).state).monitor.errors) :
      Tied part align before (.failed fault after) right

namespace Tied

variable {part : State → Machine World} {align : ErrorPolicy → State → State} {before : State}
  {left right : Exec State Result} {leftNext rightNext : Result → Exec State Next}

/-- What comes after a start that handed no failure to the monitor counts from before it. -/
theorem after {opened : State} {leftEnd : Outcome State Result}
    {rightEnd : ErrorPolicy → Outcome State Result}
    (unhanded : (part before).Unhanded (part opened))
    (tied : Tied part align opened leftEnd rightEnd) : Tied part align before leftEnd rightEnd := by
  cases tied with
  | alike same later => exact .alike same (unhanded.trans later)
  | parted givesUp recorded => exact .parted givesUp recorded

/-- The rest of a sequence is tied again, unless the first part parted the runs; then what is
recorded later comes after. -/
theorem bind
    (first : Tied part align before (left before) fun policy => right (align policy before))
    (next : ∀ result middle, (part before).Unhanded (part middle) →
      Tied part align middle (leftNext result middle) fun policy =>
        rightNext result (align policy middle))
    (grows : ∀ result middle, (part middle).monitor.errors <+:
      (part (rightNext result middle).state).monitor.errors) :
    Tied part align before ((left >>= leftNext) before) fun policy =>
      (right >>= rightNext) (align policy before) := by
  simp only [Exec.bind_apply]
  generalize left before = leftEnd at first
  cases first with
  | alike same unhanded =>
    simp only [same]
    cases leftEnd with
    | done result middle => exact (next result middle unhanded).after unhanded
    | failed fault middle => exact .alike (fun _ => rfl) unhanded
    | exhausted middle => exact .alike (fun _ => rfl) unhanded
  | @parted fault gaveUp _ givesUp recorded =>
    -- The others may run on, but what they recorded first stays first.
    apply Tied.parted givesUp
    intro policy other
    have first : [fault] <+: (part (right (align policy before)).state).monitor.errors :=
      recorded policy other
    cases ended : right (align policy before) with
    | done result middle =>
      rw [ended] at first
      exact first.trans (grows result middle)
    | failed fault middle =>
      rw [ended] at first
      exact first
    | exhausted middle =>
      rw [ended] at first
      exact first

/-- What cleans up does so in the same way under every policy. -/
theorem ensuring {opened : State} {cleanup : State → State}
    (body : Tied part align before (left opened) fun policy => right (align policy opened))
    (commutes : ∀ policy state, cleanup (align policy state) = align policy (cleanup state))
    (unhanded : ∀ state, (part state).Unhanded (part (cleanup state)))
    (givesUp : ∀ fault state, (part state).GivesUp fault → (part (cleanup state)).GivesUp fault) :
    Tied part align before (Exec.ensuring left cleanup opened) fun policy =>
      Exec.ensuring right cleanup (align policy opened) := by
  simp only [Exec.ensuring]
  generalize left opened = leftEnd at body
  cases body with
  | alike same kept =>
    simp only [same]
    cases leftEnd with
    | done result middle =>
      exact .alike (fun policy => congrArg (Outcome.done result) (commutes policy middle))
        (kept.trans (unhanded middle))
    | failed fault middle =>
      exact .alike (fun policy => congrArg (Outcome.failed fault) (commutes policy middle))
        (kept.trans (unhanded middle))
    | exhausted middle => exact .alike (fun _ => rfl) kept
  | @parted fault _ _ gaveUp recorded =>
    apply Tied.parted (givesUp _ _ gaveUp)
    intro policy other
    have first : [fault] <+: (part (right (align policy opened)).state).monitor.errors :=
      recorded policy other
    cases ended : right (align policy opened) with
    | exhausted middle =>
      rw [ended] at first
      exact first
    | done result middle =>
      rw [ended] at first
      exact (unhanded middle).errors ▸ first
    | failed fault middle =>
      rw [ended] at first
      exact (unhanded middle).errors ▸ first

end Tied

namespace Machine

/-- Records only grow. -/
theorem RecordsFailures.errors_prefix {before after : Machine World} {opened : List ErrorScope}
    (records : RecordsFailures before after opened) :
    before.monitor.errors <+: after.monitor.errors := by
  obtain ⟨added, grown, -⟩ := records.errors
  exact ⟨added, grown.symm⟩

/-- Records are only ever added to. -/
theorem errors_prefix_of_recording {body : Exec (Machine World) Result} (kept : recording.Kept body)
    (before : Machine World) : before.monitor.errors <+: (body before).state.monitor.errors := by
  obtain ⟨opened, records⟩ := (kept before).reached
  exact records.errors_prefix

/-- The computations record nothing but failures and have tied ends, the first under the policy that
propagates and the second under every policy. -/
structure Aligned (left right : Exec (Machine World) Result) : Prop where
  leftKept : recording.Kept left
  rightKept : recording.Kept right
  tied (before : Machine World) (propagating : before.Propagating) :
    Tied id withPolicy before (left before) fun policy => right (before.withPolicy policy)

namespace Aligned

variable {left right : Exec (Machine World) Result}
  {leftNext rightNext : Result → Exec (Machine World) Next}

/-- What does the same under every policy and hands no failure to the monitor. -/
theorem of_commutes {body : Exec (Machine World) Result} (kept : recording.Kept body)
    (commutes : ∀ policy before, body (before.withPolicy policy) =
      (body before).mapState (withPolicy policy))
    (unhanded : ∀ before, Unhanded before (body before).state) : Aligned body body where
  leftKept := kept
  rightKept := kept
  tied before _ := .alike (fun policy => commutes policy before) (unhanded before)

/-- What comes from outside comes under every policy. -/
theorem poll : Aligned (Machine.poll : Exec (Machine World) Bool) Machine.poll := by
  have unhanded (before : Machine World) : Unhanded before (Machine.poll before).state := by
    rw [poll_apply]
    exact .look before
  exact of_commutes recording_poll poll_withPolicy unhanded

/-- A value is the same under every policy. -/
theorem pure (result : Result) :
    Aligned (Pure.pure result : Exec (Machine World) Result) (Pure.pure result) :=
  of_commutes (Contract.kept_pure result) (fun _ _ => rfl) Unhanded.refl

/-- Sequences of aligned computations are aligned. -/
theorem bind (first : Aligned left right)
    (next : ∀ result, Aligned (leftNext result) (rightNext result)) :
    Aligned (left >>= leftNext) (right >>= rightNext) where
  leftKept := Contract.kept_bind first.leftKept fun result => (next result).leftKept
  rightKept := Contract.kept_bind first.rightKept fun result => (next result).rightKept
  tied before propagating := (first.tied before propagating).bind
    (fun result middle unhanded => (next result).tied middle (unhanded.propagating propagating))
    (fun result => errors_prefix_of_recording (next result).rightKept)

/-- All look at a state that differs in the policy only. -/
theorem state {leftNext rightNext : Machine World → Exec (Machine World) Result}
    (next : ∀ current, Aligned (leftNext current) (rightNext current))
    (apart : ∀ policy current, rightNext (current.withPolicy policy) = rightNext current) :
    Aligned (Exec.state >>= leftNext) (Exec.state >>= rightNext) where
  leftKept := Contract.kept_state fun current => (next current).leftKept
  rightKept := Contract.kept_state fun current => (next current).rightKept
  tied before propagating := by
    change Tied id _ before (leftNext before before) fun policy =>
      rightNext (before.withPolicy policy) (before.withPolicy policy)
    simp only [apart]
    exact (next before).tied before propagating

/-- Whoever catches a failure that was given up on hands it on, and gives it back as it is. -/
theorem attempt {leftNext rightNext : Except Fault Result → Exec (Machine World) Next}
    (body : Aligned left right)
    (done : ∀ result, Aligned (leftNext (.ok result)) (rightNext (.ok result)))
    (failed : ∀ fault, fault.IsPlain → Aligned (leftNext (.error fault)) (rightNext (.error fault)))
    (hands : ∀ fault, fault.isCancellation = false →
      Program.Hands fault (leftNext (.error fault))) :
    Aligned (Exec.attempt left >>= leftNext) (Exec.attempt right >>= rightNext) where
  leftKept := Contract.kept_attempt body.leftKept (fun result => (done result).leftKept)
    fun fault plain => (failed fault plain).leftKept
  rightKept := Contract.kept_attempt body.rightKept (fun result => (done result).rightKept)
    fun fault plain => (failed fault plain).rightKept
  tied before propagating := by
    have tied := body.tied before propagating
    have plainly := body.leftKept before
    simp only [Exec.bind_apply, Exec.attempt]
    generalize left before = leftEnd at tied plainly
    cases tied with
    | alike same unhanded =>
      simp only [same]
      have still := unhanded.propagating propagating
      cases leftEnd with
      | done result middle => exact ((done result).tied middle still).after unhanded
      | failed fault middle => exact ((failed fault plainly.1).tied middle still).after unhanded
      | exhausted middle => exact .alike (fun _ => rfl) unhanded
    | @parted fault middle _ givesUp recorded =>
      -- Every block on the way out catches the failure, so here its handing on has to be traced.
      obtain ⟨after, gaveUp, stillGivesUp⟩ :
          ∃ after, leftNext (.error fault) middle = .failed fault after ∧ GivesUp fault after :=
        givesUp.hands (hands fault givesUp.uncancelled)
      dsimp only
      rw [gaveUp]
      apply Tied.parted stillGivesUp
      intro policy other
      have first : [fault] <+: (right (before.withPolicy policy)).state.monitor.errors :=
        recorded policy other
      have rightly := body.rightKept (before.withPolicy policy)
      cases ended : right (before.withPolicy policy) with
      | done result reached =>
        rw [ended] at first
        exact first.trans (errors_prefix_of_recording (done result).rightKept reached)
      | failed fault reached =>
        rw [ended] at first rightly
        exact first.trans (errors_prefix_of_recording (failed fault rightly.1).rightKept reached)
      | exhausted reached =>
        rw [ended] at first
        exact first

/-- A statement stands on the call stack of all runs or of none. -/
theorem tracked (node : NodeId) (body : Aligned left right) :
    Aligned
      (do
        Exec.update (Machine.enter node)
        Exec.ensuring left (Machine.leave node))
      (do
        Exec.update (Machine.enter node)
        Exec.ensuring right (Machine.leave node)) where
  leftKept := recording_tracked node body.leftKept
  rightKept := recording_tracked node body.rightKept
  tied before propagating := by
    have entered := Unhanded.enter node before
    change Tied id _ before (Exec.ensuring left (Machine.leave node) (before.enter node))
      fun policy => Exec.ensuring right (Machine.leave node) ((before.withPolicy policy).enter node)
    simp only [enter_withPolicy _ node propagating.ignores]
    exact ((body.tied _ (entered.propagating propagating)).after entered).ensuring
      (fun policy => leave_withPolicy policy node) (Unhanded.leave node)
      fun _ _ givesUp => givesUp.leave node

/-- A scope is refused in all runs or in none. -/
theorem within (activation : Activation) (body : Aligned left right) :
    Aligned (activation.within left) (activation.within right) where
  leftKept := recording_within activation body.leftKept
  rightKept := recording_within activation body.rightKept
  tied before propagating := by
    have opened := Unhanded.opened activation before
    have refuses (policy : ErrorPolicy) :
        (before.withPolicy policy).monitor.refuses activation.layout.owner =
          before.monitor.refuses activation.layout.owner := rfl
    simp only [Activation.within_apply, refuses]
    cases before.monitor.refuses activation.layout.owner with
    | some limit =>
      refine .alike (fun policy => ?_) (.refused activation limit before)
      exact congrArg (Outcome.failed _) (refused_withPolicy policy activation limit before)
    | none =>
      simp only [opened_withPolicy _ activation propagating.ignores]
      exact ((body.tied _ (opened.propagating propagating)).after opened).ensuring
        (fun policy => exit_withPolicy policy activation) (Unhanded.exit activation)
        fun _ _ givesUp => givesUp.exit activation

/-- No failure leaves an error scope for the monitor. -/
theorem protect (body : Aligned left right) :
    Aligned (Machine.protect left) (Machine.protect right) where
  leftKept := recording_protect body.leftKept
  rightKept := recording_protect body.rightKept
  tied before propagating := by
    have tied := body.tied before.openScope { propagating with }
    have inside := body.leftKept before.openScope
    have opens (policy : ErrorPolicy) :
        (before.withPolicy policy).openScope = before.openScope.withPolicy policy := rfl
    simp only [protect_apply, opens]
    generalize left before.openScope = leftEnd at tied inside
    cases tied with
    | alike same unhanded =>
      simp only [same]
      cases leftEnd with
      | _ => exact .alike (fun _ => rfl) { unhanded with }
    | @parted fault after _ givesUp recorded =>
      -- Giving up needs that no scope is open, yet the one around the body still is.
      obtain ⟨outer, scopes, grown⟩ := inside.2.scopes
      have closed : outer = [] := scopes.symm.trans givesUp.unguarded
      rw [closed] at grown
      cases grown

/-- Where a failure comes to the monitor, the runs part. -/
theorem parted {fault : Fault} (plain : fault.IsPlain) (uncancelled : fault.isCancellation = false)
    {start before : Machine World} (propagating : before.Propagating)
    (unguarded : before.scopes = []) :
    Tied id withPolicy start (Machine.hand fault before) fun policy =>
      Machine.hand fault (before.withPolicy policy) := by
  obtain ⟨gaveUp, givesUp⟩ := GivesUp.of_unguarded propagating unguarded uncancelled
  rw [gaveUp]
  apply Tied.parted givesUp
  intro policy other
  have recorded : (Machine.hand fault (before.withPolicy policy)).state.monitor.errors =
      before.monitor.errors ++ [fault.attributedTo before.monitor.top?] :=
    errors_hand_of_unguarded other unguarded plain.blameless uncancelled
  rw [propagating.errors] at recorded
  exact recorded ▸ List.prefix_rfl

/-- A plain fault is handed on alike, until it gets to the monitor. -/
theorem hand {fault : Fault} (plain : fault.IsPlain) :
    Aligned (Machine.hand fault : Exec (Machine World) Unit) (Machine.hand fault) where
  leftKept := recording_hand plain
  rightKept := recording_hand plain
  tied before propagating := by
    by_cases unguarded : before.scopes = []
    · cases cancelled : fault.isCancellation with
      | false => exact parted plain cancelled propagating unguarded
      | true =>
        simp only [hand_cancellation cancelled]
        exact .alike (fun _ => rfl) (.refl before)
    · exact .alike (fun policy => hand_withPolicy policy fault unguarded) (.hand fault unguarded)

/-- That it is handed on is noted first. -/
theorem handFrom (statement : NodeId) {fault : Fault} (plain : fault.IsPlain)
    (uncancelled : fault.isCancellation = false) :
    Aligned (Machine.handFrom statement fault : Exec (Machine World) Unit)
      (Machine.handFrom statement fault) where
  leftKept := recording_handFrom statement plain
  rightKept := recording_handFrom statement plain
  tied before propagating := by
    let handed : Occurrence :=
      .handed statement before.monitor.top? before.scopes.length fault
    have noted : (before.note handed).Propagating := { propagating with }
    change Tied id _ before (Machine.hand fault (before.note handed)) fun policy =>
      Machine.hand fault ((before.note handed).withPolicy policy)
    by_cases unguarded : before.scopes = []
    · exact parted plain uncancelled noted unguarded
    · have caught : handed.isUncaught = false := by
        obtain ⟨scope, outer, opened⟩ := List.exists_cons_of_ne_nil unguarded
        simp only [handed, opened]
        rfl
      exact ((hand plain).tied _ noted).after (Unhanded.note caught before)

/-- Noting something about the machine as it is. -/
theorem noteHere {seen : Machine World → Occurrence}
    (apart : ∀ policy machine,
      seen (machine.withPolicy policy) = (seen machine).withPolicy policy)
    (caught : ∀ machine, (seen machine).isUncaught = false) :
    Aligned (Exec.update fun machine => machine.note (seen machine))
      (Exec.update fun machine => machine.note (seen machine)) := by
  apply of_commutes
  · exact Contract.kept_update fun before => .of_same (SameRecords.note before _)
  · intro policy before
    simp only [Exec.update, apart]
    rfl
  · exact fun before => Unhanded.note (caught before) before

/-- Frames around a body are logged in all runs. -/
theorem withinFrames (layouts : List Layout) (body : Aligned left right) :
    Aligned (Activation.withinFrames layouts left) (Activation.withinFrames layouts right) := by
  induction layouts with
  | nil => exact body
  | cons layout rest inductionHypothesis => exact inductionHypothesis.within _

end Aligned

end Machine

open Machine

/-- A program under all policies. -/
def Program.aligning (program : Program World) : program.Congruence where
  Related left right := Aligned left right
  Raises := Fault.IsPlain
  raises_ofCause := (recording_upheld program).raises_ofCause
  pure := .pure
  fail plain := .of_commutes (Contract.kept_fail plain) (fun _ _ => rfl) Unhanded.refl
  exhausted := .of_commutes Contract.kept_exhausted (fun _ _ => rfl) Unhanded.refl
  bind := .bind
  attempt := .attempt
  checkpoint stop go := by
    apply Aligned.poll.bind
    rintro (_ | _)
    · exact go
    · exact stop
  read cell := .state (fun _ => .pure _) fun _ _ => rfl
  write site name cell value :=
    .of_commutes ((recording_upheld program).write site name cell value)
      (fun policy => write_withPolicy policy site name cell value)
      (Unhanded.write site name cell value)
  invoke construct arguments :=
    .of_commutes ((recording_upheld program).invoke construct arguments)
      (fun policy => invoke_withPolicy policy construct arguments)
      (Unhanded.invoke construct arguments)
  hand plain := .hand plain
  handFrom statement _ plain uncancelled := .handFrom statement plain uncancelled
  tracked node _ _ _ _ := .tracked node
  protect := .protect
  call _ _ _ _ _ _ _ _ := .within _

namespace Workspace

/-- Computations on the workspace with tied ends. -/
structure Aligned (left right : Exec (Workspace World) Result) : Prop where
  kept : recording.onWorkspace.Kept right
  tied (before : Workspace World) (propagating : before.machine.Propagating) :
    Tied Workspace.machine withPolicy before (left before) fun policy =>
      right (before.withPolicy policy)

/-- What does not touch the machine commutes with a change of policy. -/
theorem withPolicy_of_apart {change : Workspace World → Workspace World}
    (apart : ∀ workspace machine,
      change { workspace with machine } = { change workspace with machine })
    (policy : ErrorPolicy) (workspace : Workspace World) :
    change (workspace.withPolicy policy) = (change workspace).withPolicy policy := by
  rw [withPolicy, withPolicy, apart, machine_of_apart apart]

namespace Aligned

variable {left right : Exec (Workspace World) Result}

/-- What commutes with the policy and hands nothing on is aligned with itself. -/
theorem of_commutes {body : Exec (Workspace World) Result} (kept : recording.onWorkspace.Kept body)
    (commutes : ∀ policy before, body (before.withPolicy policy) =
      (body before).mapState (withPolicy policy))
    (unhanded : ∀ before : Workspace World,
      before.machine.Unhanded (body before).state.machine) : Aligned body body where
  kept := kept
  tied before _ := .alike (fun policy => commutes policy before) (unhanded before)

/-- Sequences of aligned computations are aligned here as well. -/
theorem bind {leftNext rightNext : Result → Exec (Workspace World) Next}
    (first : Aligned left right)
    (next : ∀ result, Aligned (leftNext result) (rightNext result)) :
    Aligned (left >>= leftNext) (right >>= rightNext) where
  kept := Contract.kept_bind first.kept fun result => (next result).kept
  tied before propagating := by
    apply (first.tied before propagating).bind
    · intro result middle unhanded
      exact (next result).tied middle (unhanded.propagating propagating)
    · intro result middle
      obtain ⟨opened, records⟩ := ((next result).kept middle).reached
      exact records.errors_prefix

/-- Changes apart from the machine are the same under every policy. -/
theorem update {change : Workspace World → Workspace World}
    (apart : ∀ workspace machine,
      change { workspace with machine } = { change workspace with machine }) :
    Aligned (Exec.update change) (Exec.update change) := by
  apply of_commutes
  · exact Contract.Lifted.kept_aside (machine_of_apart apart)
  · intro policy before
    exact congrArg (Outcome.done ()) (withPolicy_of_apart apart policy before)
  · intro before
    exact machine_of_apart apart before ▸ .refl before.machine

/-- Changes apart from the machine are the same under every policy also after a computation. -/
theorem ensuring {cleanup : Workspace World → Workspace World} (body : Aligned left right)
    (apart : ∀ workspace machine,
      cleanup { workspace with machine } = { cleanup workspace with machine }) :
    Aligned (Exec.ensuring left cleanup) (Exec.ensuring right cleanup) where
  kept before := by
    apply Contract.fulfilled_ensuring (body.kept before)
    · intro after finished
      change recording.Finished before.machine (cleanup after).machine
      rw [machine_of_apart apart]
      exact finished
    · exact fun _ reached => reached
  tied before propagating := by
    apply (body.tied before propagating).ensuring (withPolicy_of_apart apart)
    · intro workspace
      exact machine_of_apart apart workspace ▸ .refl workspace.machine
    · intro fault workspace givesUp
      exact machine_of_apart apart workspace ▸ givesUp

/-- What is aligned on the machine is so on the workspace. -/
theorem onMachine {left right : Exec (Machine World) Result} (body : Machine.Aligned left right) :
    Aligned (Workspace.onMachine left) (Workspace.onMachine right) where
  kept := Contract.Lifted.kept_onMachine body.rightKept
  tied before propagating := by
    have tied := body.tied before.machine propagating
    have machines (policy : ErrorPolicy) :
        (before.withPolicy policy).machine = before.machine.withPolicy policy := rfl
    simp only [Workspace.onMachine, Exec.zoom, machines]
    generalize left before.machine = leftEnd at tied
    cases tied with
    | alike same unhanded =>
      simp only [same]
      cases leftEnd with
      | _ => exact .alike (fun _ => rfl) unhanded
    | @parted fault after _ givesUp recorded =>
      have leftGivesUp : GivesUp fault { before with machine := after }.machine := givesUp
      apply Tied.parted leftGivesUp
      intro policy other
      have first : [fault] <+: (right (before.machine.withPolicy policy)).state.monitor.errors :=
        recorded policy other
      cases ended : right (before.machine.withPolicy policy) with
      | _ =>
        rw [ended] at first
        exact first

/-- All look at what is not part of the machine. -/
theorem inspect {leftNext rightNext : Workspace World → Exec (Workspace World) Result}
    (next : ∀ workspace, Aligned (leftNext workspace) (rightNext workspace))
    (apart : ∀ workspace machine, rightNext { workspace with machine } = rightNext workspace) :
    Aligned (Exec.state >>= leftNext) (Exec.state >>= rightNext) where
  kept := Contract.kept_state fun workspace => (next workspace).kept
  tied before propagating := by
    have same (policy : ErrorPolicy) : rightNext (before.withPolicy policy) = rightNext before :=
      apart before _
    change Tied _ _ before (leftNext before before) fun policy =>
      rightNext (before.withPolicy policy) (before.withPolicy policy)
    simp only [same]
    exact (next before).tied before propagating

end Aligned

end Workspace

open Workspace in
/-- Scripts under all policies. -/
def ScriptGraph.aligning (graph : ScriptGraph World) (fuel : Nat) : graph.Congruence fuel fuel where
  Related left right := Workspace.Aligned left right
  pure result :=
    .of_commutes (Contract.kept_pure result) (fun _ _ => rfl) fun before => .refl before.machine
  failFor cause := by
    refine .of_commutes (Contract.kept_fail ?_) (fun _ _ => rfl) fun before => .refl before.machine
    cases blame : cause.isMisuse with
    | false => exact Or.inl ⟨blame, rfl⟩
    | true => exact Or.inr blame
  bind := .bind
  inspect := .inspect
  update := .update
  ensuring := .ensuring
  bindLibrary number layout := by
    refine .of_commutes (Contract.kept_update fun before => ?_) (fun _ _ => rfl) fun before => ?_
    · exact .of_same { SameRecords.refl before.machine with }
    · exact { Unhanded.refl before.machine with }
  declaring number status libraries layout := by
    apply Workspace.Aligned.onMachine
    apply Machine.Aligned.withinFrames
    apply Machine.Aligned.within
    apply (Machine.Aligned.noteHere (fun _ _ => rfl) fun _ => rfl).bind
    intro _
    have walks := (program (graph.script number) status).aligning.process fuel
    exact (program (graph.script number) status).aligning.runDeclarations (fun _ => trivial) walks _
  rooting number status libraries layout := by
    apply Workspace.Aligned.onMachine
    apply Machine.Aligned.withinFrames
    apply Machine.Aligned.within
    apply (Machine.Aligned.noteHere (fun _ _ => rfl) fun _ => rfl).bind
    intro _
    exact (program (graph.script number) status).aligning.process fuel _

end Treewalk
