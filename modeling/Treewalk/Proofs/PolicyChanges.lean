import Treewalk.Script.Lifecycle

/-!
# What does not depend on the error policy

A run asks for the policy of its monitor in one place only: where a fault comes to the monitor that
nobody caught. Apart from that a pause hook gets to see the policy. With a hook that makes no use of
it (`PauseHook.IgnoresPolicy`), every other operation of the machine does the same under every
policy: it commutes with `Machine.withPolicy`, one lemma for each operation.
-/

namespace Treewalk

variable {World State Other Result : Type}

/-- The same end, in another state. -/
def Outcome.mapState (change : State → Other) : Outcome State Result → Outcome Other Result
  | .done result state => .done result (change state)
  | .failed fault state => .failed fault (change state)
  | .exhausted state => .exhausted (change state)

/-- Mapping the state maps the one that was reached. -/
@[simp] theorem Outcome.state_mapState (change : State → Other) (outcome : Outcome State Result) :
    (outcome.mapState change).state = change outcome.state := by
  cases outcome <;> rfl

/-- Mapping the state leaves the value or the fault as it is. -/
@[simp] theorem Outcome.result?_mapState (change : State → Other)
    (outcome : Outcome State Result) : (outcome.mapState change).result? = outcome.result? := by
  cases outcome <;> rfl

/-- What is seen at a pause if the monitor has another policy. -/
def Snapshot.withPolicy (policy : ErrorPolicy) (seen : Snapshot) : Snapshot :=
  { seen with policy }

/-- The answers of the hook do not depend on the policy that it gets to see. -/
def PauseHook.IgnoresPolicy (hook : PauseHook) : Prop :=
  ∀ policy (seen : List Snapshot), hook (seen.map (Snapshot.withPolicy policy)) = hook seen

/-- The occurrence in a run under another policy. -/
def Occurrence.withPolicy (policy : ErrorPolicy) : Occurrence → Occurrence
  | .paused seen action => .paused (seen.withPolicy policy) action
  | occurrence => occurrence

/-- The policy that is set last counts. -/
theorem Occurrence.withPolicy_withPolicy (earlier later : ErrorPolicy) (occurrence : Occurrence) :
    (occurrence.withPolicy earlier).withPolicy later = occurrence.withPolicy later := by
  cases occurrence <;> rfl

namespace Machine

/-- The machine under another policy. If it has paused before, then that was under this policy as
well. -/
def withPolicy (policy : ErrorPolicy) (machine : Machine World) : Machine World :=
  { machine with
    monitor :=
      { machine.monitor with
        policy
        pauses := machine.monitor.pauses.map (Snapshot.withPolicy policy) }
    trace := machine.trace.map (Occurrence.withPolicy policy) }

/-- The pause hook of the machine, if it has one, makes no use of the policy. -/
def HookIgnoresPolicy (machine : Machine World) : Prop :=
  ∀ hook ∈ machine.monitor.pauseHook, hook.IgnoresPolicy

variable (policy : ErrorPolicy)

/-- A machine that has not paused yet only gets the policy. -/
theorem withPolicy_of_trace_eq_nil {machine : Machine World} (started : machine.trace = [])
    (unpaused : machine.monitor.pauses = []) :
    machine.withPolicy policy = { machine with monitor := { machine.monitor with policy } } := by
  simp only [withPolicy, unpaused, started, List.map_nil]

/-- Only the last policy counts. -/
@[simp] theorem withPolicy_withPolicy (earlier later : ErrorPolicy) (machine : Machine World) :
    (machine.withPolicy earlier).withPolicy later = machine.withPolicy later := by
  have snapshots : Snapshot.withPolicy later ∘ Snapshot.withPolicy earlier =
      Snapshot.withPolicy later := rfl
  have occurrences : Occurrence.withPolicy later ∘ Occurrence.withPolicy earlier =
      Occurrence.withPolicy later := funext (Occurrence.withPolicy_withPolicy earlier later)
  simp only [withPolicy, List.map_map, snapshots, occurrences]

/-- What is watched for in a trace is found under every policy, unless it is a pause. -/
theorem trace_withPolicy_filter {watched : Occurrence → Bool}
    (unpaused : ∀ seen action, watched (.paused seen action) = false) (trace : List Occurrence) :
    (trace.map (Occurrence.withPolicy policy)).filter watched = trace.filter watched := by
  induction trace with
  | nil => rfl
  | cons newest older inductionHypothesis =>
    rw [List.map_cons, List.filter_cons, List.filter_cons, inductionHypothesis]
    cases newest with
    | paused seen action =>
      rw [Occurrence.withPolicy, unpaused, unpaused]
      rfl
    | _ => rfl

/-- The stop signal moves under every policy. -/
theorem signal_withPolicy (raised : Bool) (machine : Machine World) :
    (machine.withPolicy policy).signal raised = (machine.signal raised).withPolicy policy := by
  simp only [signal, withPolicy]
  split <;> rfl

/-- Its moves are noted under every policy. -/
theorem noteMove_withPolicy (mover : SignalMover) (earlier : Bool) (machine : Machine World) :
    (machine.withPolicy policy).noteMove mover earlier =
      (machine.noteMove mover earlier).withPolicy policy := by
  rw [noteMove, noteMove, apply_ite (withPolicy policy)]
  rfl

/-- The signal is raised in the same way under every policy. -/
theorem raise_withPolicy (mover : SignalMover) (machine : Machine World) :
    (machine.withPolicy policy).raise mover = (machine.raise mover).withPolicy policy := by
  rw [raise, signal_withPolicy, noteMove_withPolicy]
  rfl

/-- What comes from outside does not ask for the policy. -/
theorem moveOutside_withPolicy (raised : Bool) (machine : Machine World) :
    (machine.withPolicy policy).moveOutside raised =
      (machine.moveOutside raised).withPolicy policy := by
  rw [moveOutside, signal_withPolicy, noteMove_withPolicy]
  rfl

/-- What comes from outside comes under every policy. -/
theorem poll_withPolicy (machine : Machine World) :
    poll (machine.withPolicy policy) = (poll machine).mapState (withPolicy policy) := by
  have moves : (machine.withPolicy policy).outside (machine.withPolicy policy).looks =
      machine.outside machine.looks := rfl
  have moved (raised : Bool) := moveOutside_withPolicy policy raised machine.countLook
  simp only [poll, moves]
  cases machine.outside machine.looks with
  | none => rfl
  | some raised =>
    exact congrArg (fun looked => Outcome.done looked.shouldStop looked) (moved raised)

/-- The hook is shown the policy, but it answers as it would without. -/
theorem pause_withPolicy (node : NodeId) {machine : Machine World}
    (ignores : machine.HookIgnoresPolicy) :
    (machine.withPolicy policy).pause node = (machine.pause node).withPolicy policy := by
  have hooks : (machine.withPolicy policy).monitor.pauseHook = machine.monitor.pauseHook := rfl
  have obeyed (action : PauseAction) :
      ((machine.withPolicy policy).notePause node action).obey action =
        ((machine.notePause node action).obey action).withPolicy policy := by
    cases action with
    | stop => exact raise_withPolicy policy .pauseHook (machine.notePause node .stop)
    | resume => rfl
  simp only [pause, hooks]
  cases installed : machine.monitor.pauseHook with
  | none => rfl
  | some hook =>
    have answer : hook ((machine.withPolicy policy).snapshot node ::
        (machine.withPolicy policy).monitor.pauses) =
        hook (machine.snapshot node :: machine.monitor.pauses) :=
      ignores hook installed policy (machine.snapshot node :: machine.monitor.pauses)
    dsimp only
    rw [answer]
    exact obeyed _

/-- The hook pauses under every policy and answers the same. -/
theorem enter_withPolicy (node : NodeId) {machine : Machine World}
    (ignores : machine.HookIgnoresPolicy) :
    (machine.withPolicy policy).enter node = (machine.enter node).withPolicy policy := by
  have pushed : (machine.withPolicy policy).push node = (machine.push node).withPolicy policy := rfl
  have points : ((machine.push node).withPolicy policy).monitor.breakpoints =
      (machine.push node).monitor.breakpoints := rfl
  have still : (machine.push node).HookIgnoresPolicy := ignores
  simp only [enter, pushed, points, pause_withPolicy policy node still]
  split <;> rfl

/-- What is taken off the call stack is noted without the policy. -/
theorem leave_withPolicy (node : NodeId) (machine : Machine World) :
    (machine.withPolicy policy).leave node = (machine.leave node).withPolicy policy :=
  rfl

/-- Bindings are no business of the policy. -/
theorem bind_withPolicy (activation : Activation) (machine : Machine World) :
    activation.bind (machine.withPolicy policy) = (activation.bind machine).withPolicy policy := by
  simp only [Activation.bind]
  split <;> rfl

theorem unbind_withPolicy (activation : Activation) (machine : Machine World) :
    activation.unbind (machine.withPolicy policy) =
      (activation.unbind machine).withPolicy policy := by
  simp only [Activation.unbind]
  split <;> rfl

theorem exitFrame_withPolicy (machine : Machine World) :
    (machine.withPolicy policy).exitFrame = machine.exitFrame.withPolicy policy := by
  simp only [exitFrame, Monitor.dropFrame, withPolicy]
  split <;> rfl

/-- A scope is opened alike, with the pause at its call site. -/
theorem opened_withPolicy (activation : Activation) {machine : Machine World}
    (ignores : machine.HookIgnoresPolicy) :
    activation.opened (machine.withPolicy policy) =
      (activation.opened machine).withPolicy policy := by
  have framed : activation.framed (machine.withPolicy policy) =
      (activation.framed machine).withPolicy policy := by
    simp only [Activation.framed, bind_withPolicy]
    rfl
  have still : (activation.framed machine).HookIgnoresPolicy := ignores
  simp only [Activation.opened, framed]
  split
  · exact enter_withPolicy policy _ still
  · rfl

theorem exit_withPolicy (activation : Activation) (machine : Machine World) :
    activation.exit (machine.withPolicy policy) = (activation.exit machine).withPolicy policy := by
  simp only [Activation.exit]
  split
  · rw [leave_withPolicy, exitFrame_withPolicy, unbind_withPolicy]
  · rw [exitFrame_withPolicy, unbind_withPolicy]

/-- Refusals go by the limit on nested calls. -/
theorem refused_withPolicy (activation : Activation) (limit : Nat) (machine : Machine World) :
    activation.refused limit (machine.withPolicy policy) =
      (activation.refused limit machine).withPolicy policy := by
  have noted (opened : Machine World) (limit : Nat) :
      (opened.withPolicy policy).note (.refused activation.layout.owner limit) =
        (opened.note (.refused activation.layout.owner limit)).withPolicy policy := rfl
  rw [Activation.refused, bind_withPolicy, noted, unbind_withPolicy]
  rfl

/-- A failed write is noted with the store and not with the policy. -/
theorem write_withPolicy (site : WriteSite) (name : String) (cell : Cell) (value : Value)
    (machine : Machine World) :
    write site name cell value (machine.withPolicy policy) =
      (write site name cell value machine).mapState (withPolicy policy) := by
  simp only [write, withPolicy]
  split <;> rfl

/-- A construct gets to see its host and nothing of the monitor. -/
theorem invoke_withPolicy (construct : Construct World) (arguments : List Value)
    (machine : Machine World) :
    invoke construct arguments (machine.withPolicy policy) =
      (invoke construct arguments machine).mapState (withPolicy policy) := by
  have left (host : Host World) :=
    noteMove_withPolicy policy (.construct construct.name) machine.stopped
      { machine.note (.invoked construct.name arguments machine.stopped) with host }
  have hosts : (machine.withPolicy policy).host = machine.host := rfl
  simp only [invoke, hosts]
  rcases construct.invoke arguments machine.host with ⟨_ | value, host⟩
  · exact congrArg (Outcome.failed _) (left host)
  · exact congrArg (Outcome.done value) (left host)

/-- An error scope takes a fault under every policy. -/
theorem hand_withPolicy (fault : Fault) {machine : Machine World} (guarded : machine.scopes ≠ []) :
    hand fault (machine.withPolicy policy) =
      (hand fault machine).mapState (withPolicy policy) := by
  obtain ⟨scope, outer, opened⟩ := List.exists_cons_of_ne_nil guarded
  have sameScopes : (machine.withPolicy policy).scopes = scope :: outer := opened
  simp only [hand, opened, sameScopes]
  split <;> rfl

end Machine

/-- The workspace with its machine under another policy. -/
def Workspace.withPolicy (policy : ErrorPolicy) (workspace : Workspace World) : Workspace World :=
  { workspace with machine := workspace.machine.withPolicy policy }

/-- The policy that is set last counts for workspaces as well. -/
@[simp] theorem Workspace.withPolicy_withPolicy (earlier later : ErrorPolicy)
    (workspace : Workspace World) :
    (workspace.withPolicy earlier).withPolicy later = workspace.withPolicy later :=
  congrArg (fun machine => { workspace with machine })
    (Machine.withPolicy_withPolicy earlier later workspace.machine)

end Treewalk
