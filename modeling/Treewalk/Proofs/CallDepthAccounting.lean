import Mathlib.Logic.Relation
import Treewalk.Proofs.ErrorAggregation
import Treewalk.Proofs.ScriptContracts

/-!
# Call depth accounting

The monitor counts the nested calls apart from the frame log that the count sums up. Both change in
two places only, when a frame is logged and when one is dropped, and there they change together:
`Monitor.Accounted` is an invariant of everything that can happen to a machine.

What can happen is an `Machine.Operation`. Some of them are requests that the innermost error scope
would pass on, some are for the monitor alone, and whatever leaves the monitor as it is counts as
one that happens elsewhere. `Machine.LeadsTo` is any sequence of operations, and evaluations and
scripts are such sequences (`Machine.leading`), wherever their fuel runs out. So the invariant holds
at all moments of a monitor's life.
-/

namespace Treewalk

variable {World Result : Type}

namespace Monitor

/-- The count of nested calls is that of the frames that belong to functions and keeps to the
limit, now and whenever the pause hook was asked. -/
structure Accounted (limit : Nat) (monitor : Monitor) : Prop where
  limited : monitor.maxCallDepth = some limit
  counted : monitor.callDepth = monitor.frames.countP (·.scope.isFunction)
  bounded : monitor.callDepth ≤ limit
  seen : ∀ snapshot ∈ monitor.pauses,
    snapshot.callDepth = snapshot.frames.countP (·.scope.isFunction) ∧ snapshot.callDepth ≤ limit

namespace Accounted

variable {limit : Nat} {monitor before after : Monitor}

/-- Nothing but frames, count and limit matters, and a new pause shows these. -/
theorem congr (accounted : before.Accounted limit) (frames : after.frames = before.frames)
    (callDepth : after.callDepth = before.callDepth)
    (maxCallDepth : after.maxCallDepth = before.maxCallDepth)
    (pauses : ∀ snapshot ∈ after.pauses, snapshot ∈ before.pauses ∨
      snapshot.frames = before.frames ∧ snapshot.callDepth = before.callDepth) :
    after.Accounted limit where
  limited := maxCallDepth.trans accounted.limited
  counted := by rw [callDepth, frames, accounted.counted]
  bounded := by rw [callDepth]; exact accounted.bounded
  seen := by
    intro snapshot member
    rcases pauses snapshot member with earlier | ⟨sameFrames, sameDepth⟩
    · exact accounted.seen snapshot earlier
    · rw [sameFrames, sameDepth]
      exact ⟨accounted.counted, accounted.bounded⟩

/-- A frame is refused just for a function for which there is no room left. -/
theorem refuses_eq_some_iff (accounted : monitor.Accounted limit) {scope : Scope} {bound : Nat} :
    monitor.refuses scope = some bound ↔
      bound = limit ∧ scope.isFunction = true ∧
        monitor.frames.countP (·.scope.isFunction) = limit := by
  have bounded := accounted.bounded
  simp only [refuses, accounted.limited, ← accounted.counted, Bool.and_eq_true, decide_eq_true_eq]
  split
  · next full =>
    rw [Option.some_inj]
    exact ⟨fun same => ⟨same.symm, full.1, by omega⟩, fun same => same.1.symm⟩
  · next room =>
    constructor
    · intro refused
      cases refused
    · rintro ⟨-, isFunction, full⟩
      exact absurd ⟨isFunction, Nat.le_of_eq full.symm⟩ room

/-- A frame that fits is accounted for when it is logged. -/
theorem logFrame (accounted : monitor.Accounted limit) {scope : Scope}
    (fits : monitor.refuses scope = none) (entries : List Variable) :
    (monitor.logFrame scope entries).Accounted limit where
  limited := accounted.limited
  counted := by
    simp only [Monitor.logFrame, List.countP_cons, accounted.counted]
    split <;> rfl
  bounded := by
    have bounded := accounted.bounded
    have room : ¬ (scope.isFunction = true ∧ limit ≤ monitor.callDepth) := by
      simpa [refuses, accounted.limited] using fits
    simp only [Monitor.logFrame]
    split
    · next isFunction =>
      have below : ¬ limit ≤ monitor.callDepth := fun full => room ⟨isFunction, full⟩
      omega
    · exact bounded
  seen := accounted.seen

/-- The frame of a function that is dropped was counted. -/
theorem callDepth_pos (accounted : monitor.Accounted limit) {frame : Frame} {older : List Frame}
    (frames : monitor.frames = frame :: older) (isFunction : frame.scope.isFunction = true) :
    0 < monitor.callDepth := by
  have member : frame ∈ monitor.frames := frames ▸ List.mem_cons_self
  rw [accounted.counted]
  exact List.countP_pos_iff.mpr ⟨frame, member, isFunction⟩

/-- When a frame is dropped, the counts of what is left still hold. -/
theorem dropFrame (accounted : monitor.Accounted limit) : monitor.dropFrame.Accounted limit := by
  cases frames : monitor.frames with
  | nil =>
    have kept : monitor.dropFrame = monitor := by simp only [Monitor.dropFrame, frames]
    rw [kept]
    exact accounted
  | cons frame older =>
    have counted := accounted.counted
    have bounded := accounted.bounded
    rw [frames, List.countP_cons] at counted
    constructor
    · simpa only [Monitor.dropFrame, frames] using accounted.limited
    · simp only [Monitor.dropFrame, frames]
      split <;> simp_all
    · simp only [Monitor.dropFrame, frames]
      split <;> omega
    · simpa only [Monitor.dropFrame, frames] using accounted.seen

end Accounted

end Monitor

namespace Machine

/-- One thing that can happen to a machine. -/
inductive Operation (World : Type) where
  | ask (request : Request)
  /-- Anybody may raise or lower the stop signal. -/
  | signal (raised : Bool)
  | takeErrors
  | addBreakpoint (node : NodeId)
  | removeBreakpoint (node : NodeId)
  | setPauseHook (hook : PauseHook)
  /-- Everything becomes as it is in another machine, but the monitor is left alone. -/
  | elsewhere (other : Machine World)

def Operation.perform (machine : Machine World) : Operation World → Machine World
  | .ask request => (request.perform machine).state
  | .signal raised => machine.signal raised
  | .takeErrors => { machine with monitor := { machine.monitor with errors := [] } }
  | .addBreakpoint node => { machine with monitor := machine.monitor.addBreakpoint node }
  | .removeBreakpoint node => { machine with monitor := machine.monitor.removeBreakpoint node }
  | .setPauseHook hook => { machine with monitor := machine.monitor.setPauseHook hook }
  | .elsewhere other => { other with monitor := machine.monitor }

/-- A machine comes to another by some operations. -/
def LeadsTo : Machine World → Machine World → Prop :=
  Relation.ReflTransGen fun before after => ∃ operation : Operation World,
    after = operation.perform before

end Machine

namespace Monitor.Accounted

open Machine

variable {limit : Nat} {machine : Machine World}

/-- Quiet steps touch neither frames nor counts. -/
theorem of_quiet {after : Machine World} (accounted : machine.monitor.Accounted limit)
    (quiet : Quiet machine after) : after.monitor.Accounted limit := by
  obtain ⟨errors, signal, monitor⟩ := quiet.monitor
  rw [monitor]
  exact accounted.congr rfl rfl rfl fun _ => .inl

/-- A pause keeps a record of the machine and changes no count. -/
theorem pause (accounted : machine.monitor.Accounted limit) (node : NodeId) :
    (machine.pause node).monitor.Accounted limit := by
  simp only [Machine.pause]
  split
  · exact accounted
  · next hook _ =>
    have noted (action : PauseAction) : (machine.notePause node action).monitor.Accounted limit :=
      accounted.congr rfl rfl rfl fun snapshot member => by
        rcases List.mem_cons.mp member with rfl | earlier
        · exact .inr ⟨rfl, rfl⟩
        · exact .inl earlier
    exact (noted _).of_quiet (Quiet.obey _ _)

/-- A node that is entered is no frame. -/
theorem enter (accounted : machine.monitor.Accounted limit) (node : NodeId) :
    (machine.enter node).monitor.Accounted limit := by
  have pushed : (machine.push node).monitor.Accounted limit :=
    accounted.congr rfl rfl rfl fun _ => .inl
  dsimp only [Machine.enter]
  split
  · exact pushed.pause node
  · exact pushed

/-- Requests either log a frame that fits or are refused. -/
theorem request (accounted : machine.monitor.Accounted limit) (request : Request) :
    (request.perform machine).state.monitor.Accounted limit := by
  cases request with
  | hand fault => exact accounted.of_quiet (quietly_hand fault machine).reached
  | enter node => exact accounted.enter node
  | leave node => exact accounted.congr rfl rfl rfl fun _ => .inl
  | enterFrame scope entries =>
    simp only [Request.perform, Machine.enterFrame]
    split
    · exact accounted
    · next fits => exact accounted.logFrame fits entries
  | exitFrame => exact accounted.dropFrame

/-- Every operation keeps the accounts. -/
theorem perform (accounted : machine.monitor.Accounted limit) (operation : Operation World) :
    (operation.perform machine).monitor.Accounted limit := by
  cases operation with
  | ask request => exact accounted.request request
  | signal raised => exact accounted.of_quiet (Quiet.signal raised machine)
  | takeErrors => exact accounted.congr rfl rfl rfl fun _ => .inl
  | addBreakpoint node =>
    simp only [Operation.perform, Monitor.addBreakpoint]
    split
    · exact accounted
    · exact accounted.congr rfl rfl rfl fun _ => .inl
  | removeBreakpoint node => exact accounted.congr rfl rfl rfl fun _ => .inl
  | setPauseHook hook => exact accounted.congr rfl rfl rfl fun _ member => nomatch member
  | elsewhere other => exact accounted

/-- Logging a frame fails just for a function for which there is no room left. -/
theorem enterFrame_fails_iff (accounted : machine.monitor.Accounted limit) {scope : Scope}
    {entries : List Variable} :
    (∃ fault after, enterFrame scope entries machine = .failed fault after) ↔
      scope.isFunction = true ∧ machine.monitor.frames.countP (·.scope.isFunction) = limit := by
  simp only [enterFrame]
  constructor
  · rintro ⟨fault, after, failed⟩
    split at failed
    · next bound refused => exact (accounted.refuses_eq_some_iff.mp refused).2
    · cases failed
  · intro full
    rw [accounted.refuses_eq_some_iff.mpr ⟨rfl, full⟩]
    exact ⟨_, _, rfl⟩

/-- It says that the limit is used up, and logs nothing. -/
theorem enterFrame_failed (accounted : machine.monitor.Accounted limit) {scope : Scope}
    {entries : List Variable} {fault : Fault} {after : Machine World}
    (failed : enterFrame scope entries machine = .failed fault after) :
    fault = .ofCause (.callDepthExceeded limit) ∧ after.monitor = machine.monitor := by
  simp only [enterFrame] at failed
  split at failed
  · next bound refused =>
    cases failed
    rw [(accounted.refuses_eq_some_iff.mp refused).1]
    exact ⟨rfl, rfl⟩
  · cases failed

/-- The invariant holds wherever operations lead. -/
theorem of_leadsTo {after : Machine World} (accounted : machine.monitor.Accounted limit)
    (leads : machine.LeadsTo after) : after.monitor.Accounted limit := by
  induction leads with
  | refl => exact accounted
  | tail _ step inductionHypothesis =>
    obtain ⟨operation, rfl⟩ := step
    exact inductionHypothesis.perform operation

end Monitor.Accounted

namespace Machine

namespace LeadsTo

variable {before after : Machine World}

/-- No operation leads back to where one is. -/
theorem refl (machine : Machine World) : LeadsTo machine machine :=
  Relation.ReflTransGen.refl

theorem trans {first second third : Machine World} (earlier : LeadsTo first second)
    (later : LeadsTo second third) : LeadsTo first third :=
  Relation.ReflTransGen.trans earlier later

/-- Each operation leads to what it performs. -/
theorem perform (operation : Operation World) (machine : Machine World) :
    LeadsTo machine (operation.perform machine) :=
  Relation.ReflTransGen.single ⟨operation, rfl⟩

/-- Each request leads to its answer, a refusal included. -/
theorem ask (request : Request) (machine : Machine World) :
    LeadsTo machine (request.perform machine).state :=
  perform (.ask request) machine

/-- What leaves the monitor alone is no operation at all. -/
theorem elsewhere (same : after.monitor = before.monitor) : LeadsTo before after := by
  have performed : (Operation.elsewhere after).perform before = after := by
    simp only [Operation.perform, ← same]
  exact performed ▸ perform _ before

end LeadsTo

@[simp] theorem monitor_unbind (activation : Activation) (machine : Machine World) :
    (activation.unbind machine).monitor = machine.monitor := by
  unfold Activation.unbind
  split <;> rfl

/-- A refused frame does not show in the monitor. -/
@[simp] theorem monitor_refused (activation : Activation) (limit : Nat)
    (machine : Machine World) : (activation.refused limit machine).monitor = machine.monitor := by
  simp [Activation.refused, note]

/-- Nor does it show in the bindings of any declaration. -/
theorem bindings_refused (activation : Activation) (limit : Nat) (machine : Machine World)
    (cell : Cell) :
    (activation.refused limit machine).store.bindings cell = machine.store.bindings cell := by
  by_cases owns : activation.ownsBindings = true
  · simp only [Activation.refused, Activation.bind, Activation.unbind, owns, note, if_true]
    exact Store.bindings_unbind_bind machine.store activation.layout cell
  · simp only [Activation.refused, Activation.bind, Activation.unbind, owns, note]
    rfl

/-- An activation that is refused undoes what it had done. -/
theorem unchanged_of_refused {activation : Activation} {now after : Machine World} {fault : Fault}
    (failed : activation.enter now = .failed fault after) :
    (∀ cell, after.store.bindings cell = now.store.bindings cell) ∧
      after.monitor = now.monitor := by
  rw [Activation.enter_apply] at failed
  split at failed
  · cases failed
    exact ⟨bindings_refused activation _ now, monitor_refused activation _ now⟩
  · cases failed

/-- Opening a scope that fits binds its variables, logs its frame and enters its call site. -/
theorem LeadsTo.opened {activation : Activation} {machine : Machine World}
    (fits : machine.monitor.refuses activation.layout.owner = none) :
    machine.LeadsTo (activation.opened machine) := by
  have bound : machine.LeadsTo (activation.bind machine) := .elsewhere (by simp)
  have framed : (activation.bind machine).LeadsTo (activation.framed machine) := by
    have logged := LeadsTo.ask (.enterFrame activation.layout.owner activation.layout.debugInfo)
      (activation.bind machine)
    simp only [Request.perform, enterFrame, Activation.monitor_bind, fits] at logged
    exact logged
  simp only [Activation.opened]
  split
  · next site _ => exact (bound.trans framed).trans (.ask (.enter site) _)
  · exact bound.trans framed

/-- Leaving a scope leaves its call site, drops its frame and takes its bindings back. -/
theorem LeadsTo.exit (activation : Activation) (machine : Machine World) :
    machine.LeadsTo (activation.exit machine) := by
  have dropped (machine : Machine World) :
      machine.LeadsTo (activation.unbind machine.exitFrame) :=
    (LeadsTo.ask .exitFrame machine).trans (.elsewhere (monitor_unbind activation _))
  simp only [Activation.exit]
  split
  · next site _ => exact (LeadsTo.ask (.leave site) machine).trans (dropped _)
  · exact dropped machine

/-- Being a sequence of operations. -/
def leading : Contract (Machine World) where
  Raised _ := True
  Finished := LeadsTo
  Reached := LeadsTo
  refl := LeadsTo.refl
  trans := LeadsTo.trans
  reached_of_finished leads := leads
  reached_trans := LeadsTo.trans

/-- Looking at the stop signal may raise or lower it. -/
theorem leading_poll : leading.Kept (poll : Exec (Machine World) Bool) :=
  Contract.kept_poll (fun _ => .elsewhere rfl) fun before raised =>
    (LeadsTo.perform (.signal raised) before).trans <| .elsewhere <| by
      simp only [moveOutside, noteMove]
      split <;> rfl

/-- Handing on is one request to the monitor, if the fault gets there. -/
theorem leading_handFrom (statement : NodeId) (fault : Fault) :
    leading.Kept (handFrom statement fault : Exec (Machine World) Unit) :=
  Contract.kept_state fun _ =>
    Contract.kept_bind (Contract.kept_update fun _ => .elsewhere rfl) fun _ =>
      Contract.kept_of_finished (fun _ => trivial) (LeadsTo.ask (.hand fault))

/-- A scope asks for its frame, and if that is refused nothing else happens. -/
theorem leading_within (activation : Activation) {body : Exec (Machine World) Result}
    (kept : leading.Kept body) : leading.Kept (activation.within body) := by
  intro before
  rw [Activation.within_apply]
  split
  · exact ⟨trivial, .elsewhere (by simp)⟩
  · next fits =>
    have opens : before.LeadsTo (activation.opened before) := .opened fits
    exact Contract.fulfilled_ensuring (kept _)
      (fun after inside => (LeadsTo.trans opens inside).trans (.exit activation after))
      fun _ inside => LeadsTo.trans opens inside

/-- Whatever the evaluator does to the monitor is a sequence of operations. -/
theorem leading_upheld (program : Program World) : leading.Upheld program where
  raises_ofCause _ := trivial
  poll := leading_poll
  write site name cell value := Contract.kept_of_finished (fun _ => trivial) fun before => by
    refine .elsewhere ?_
    simp only [write]
    split <;> rfl
  invoke construct arguments := Contract.kept_of_finished (fun _ => trivial) fun before => by
    refine .elsewhere ?_
    simp only [invoke]
    split <;> simp only [Outcome.state, noteMove] <;> split <;> rfl
  hand _ := Contract.kept_of_finished (fun _ => trivial) (LeadsTo.ask (.hand _))
  handFrom statement _ _ _ := leading_handFrom statement _
  tracked node _ _ kept := Contract.kept_tracked node kept
    (fun before after inside => ((LeadsTo.ask (.enter node) before).trans inside).trans
      (.ask (.leave node) after))
    fun before _ inside => (LeadsTo.ask (.enter node) before).trans inside
  protect kept := by
    have opens (before : Machine World) : before.LeadsTo before.openScope := .elsewhere rfl
    have closes (after : Machine World) : after.LeadsTo after.closeScope := .elsewhere rfl
    exact Contract.kept_protect kept
      (fun before after inside => ((opens before).trans inside).trans (closes after))
      fun before _ inside => (opens before).trans inside
  call _ _ _ _ _ _ kept := leading_within _ kept

/-- Scripts lead the machine by operations only. -/
theorem leading_lifted (graph : ScriptGraph World) : leading.Lifted graph where
  raises_unknownNode _ := trivial
  binds _ _ := .elsewhere rfl
  notes_script _ _ _ _ := .elsewhere rfl
  within _ _ _ _ kept := leading_within _ kept
  library _ _ fuel :=
    Contract.kept_bind (Contract.kept_update fun _ => .elsewhere rfl) fun _ =>
      (leading_upheld _).runDeclarations fuel _
  root _ _ fuel _ _ := (leading_upheld _).process fuel _

/-- The account of nested calls, for a monitor that was made with a limit. Wherever operations
lead, the count is that of the logged frames that belong to functions, keeps to the limit and is
never taken below zero, and so it was at every pause. A frame is refused just if it belongs to a
function and the limit is used up, and then for this reason. An activation that is refused leaves
the bindings of every declaration and the monitor as they were. Evaluations, scripts and
activations are operations one after the other, however much fuel they are given. -/
theorem call_depth_accounting {limit : Nat} {start : Machine World}
    (made : ∃ signal policy breakpoints pauseHook, start.monitor =
      { signal, policy, maxCallDepth := some limit, breakpoints, pauseHook }) :
    (∀ now, start.LeadsTo now →
      (now.monitor.callDepth = now.monitor.frames.countP (·.scope.isFunction) ∧
        now.monitor.callDepth ≤ limit ∧
        ∀ snapshot ∈ now.monitor.pauses,
          snapshot.callDepth = snapshot.frames.countP (·.scope.isFunction) ∧
            snapshot.callDepth ≤ limit) ∧
      (∀ frame older, now.monitor.frames = frame :: older → frame.scope.isFunction = true →
        0 < now.monitor.callDepth) ∧
      (∀ scope entries, (∃ fault after, enterFrame scope entries now = .failed fault after) ↔
        scope.isFunction = true ∧ now.monitor.frames.countP (·.scope.isFunction) = limit) ∧
      (∀ scope entries fault after, enterFrame scope entries now = .failed fault after →
        fault = .ofCause (.callDepthExceeded limit) ∧ after.monitor = now.monitor) ∧
      ∀ (activation : Activation) fault after, activation.enter now = .failed fault after →
        (∀ cell, after.store.bindings cell = now.store.bindings cell) ∧
          after.monitor = now.monitor) ∧
    ∀ now : Machine World,
      (∀ (program : Program World) fuel,
        (∀ node, now.LeadsTo (program.process fuel node now).state ∧
          now.LeadsTo (program.eval fuel node now).state) ∧
        ∀ statements, now.LeadsTo (program.processStatements fuel statements now).state ∧
          now.LeadsTo (program.runDeclarations (program.process fuel) statements now).state) ∧
      (∀ (graph : ScriptGraph World) fuel number workspace, workspace.machine = now →
        now.LeadsTo (graph.process fuel number workspace).state.machine ∧
          ∀ skipSelf, now.LeadsTo (graph.prepare fuel number skipSelf workspace).state.machine) ∧
      ∀ activation : Activation,
        now.LeadsTo (activation.enter now).state ∧ now.LeadsTo (activation.exit now) := by
  have accounted : start.monitor.Accounted limit := by
    obtain ⟨signal, policy, breakpoints, pauseHook, monitor⟩ := made
    rw [monitor]
    exact ⟨rfl, rfl, Nat.zero_le limit, fun _ member => nomatch member⟩
  refine ⟨fun now leads => ?_, fun now => ⟨fun program fuel => ⟨fun node => ⟨?_, ?_⟩,
    fun statements => ⟨?_, ?_⟩⟩, ?_, fun activation => ⟨?_, .exit activation now⟩⟩⟩
  · have here : now.monitor.Accounted limit := accounted.of_leadsTo leads
    exact ⟨⟨here.counted, here.bounded, here.seen⟩, fun frame older => here.callDepth_pos,
      fun scope entries => here.enterFrame_fails_iff, fun scope entries fault after =>
      here.enterFrame_failed, fun activation fault after => unchanged_of_refused⟩
  · exact ((leading_upheld program).process fuel node now).reached
  · exact ((leading_upheld program).eval fuel node now).reached
  · exact ((leading_upheld program).processStatements fuel statements now).reached
  · exact ((leading_upheld program).runDeclarations fuel statements now).reached
  · rintro graph fuel number workspace rfl
    exact ⟨((leading_lifted graph).process fuel number workspace).reached,
      fun skipSelf => ((leading_lifted graph).prepare fuel number skipSelf workspace).reached⟩
  · rw [Activation.enter_apply]
    split
    · exact .elsewhere (monitor_refused activation _ now)
    · next fits => exact .opened fits

/-- Under a limit of one, a function that was entered is refused when it is to be entered again,
and its binding stays the only one. -/
theorem call_depth_accounting_full :
    let start : Machine Unit :=
      { host := { world := () }, monitor := { maxCallDepth := some 1 } }
    let activation : Activation :=
      { layout := .ofVariables (.function ⟨0⟩) [⟨⟨0, ⟨1⟩⟩, "x", .function ⟨0⟩⟩]
        callSite := some ⟨2⟩ }
    let now := (activation.enter start).state
    start.LeadsTo now ∧ now.monitor.callDepth = 1 ∧
      now.monitor.frames.countP (·.scope.isFunction) = 1 ∧
      ∃ after, activation.enter now = .failed (.ofCause (.callDepthExceeded 1)) after ∧
        (after.store.bindings ⟨0, ⟨1⟩⟩).length = 1 ∧ after.monitor = now.monitor := by
  intro start activation now
  have made : ∃ signal policy breakpoints pauseHook, start.monitor =
      { signal, policy, maxCallDepth := some 1, breakpoints, pauseHook } := ⟨_, _, _, _, rfl⟩
  obtain ⟨moments, runs⟩ := call_depth_accounting made
  obtain ⟨-, -, activations⟩ := runs start
  have leads : start.LeadsTo now := (activations activation).1
  obtain ⟨⟨counted, -, -⟩, -, -, -, refusals⟩ := moments now leads
  have depth : now.monitor.callDepth = 1 := rfl
  obtain ⟨after, refused⟩ :
      ∃ after, activation.enter now = .failed (.ofCause (.callDepthExceeded 1)) after := ⟨_, rfl⟩
  obtain ⟨bindings, monitor⟩ := refusals activation _ after refused
  refine ⟨leads, depth, counted.symm.trans depth, after, refused, ?_, monitor⟩
  rw [bindings]
  rfl

end Machine

end Treewalk
