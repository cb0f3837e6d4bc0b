import Treewalk.Proofs.SingleFailure

/-!
# The error policies agree up to the first failure

A script is run from the same state under each policy. If no failure comes to the monitor, the
policy is never asked, and all runs end alike. Otherwise the run that propagates fails with the
first failure that came to the monitor, however deep it was when that happened: every block on the
way out hands it on again and gets it back unchanged. The other runs have this failure as their
first record. In stratified trees the run that is to be stopped has no other, and it returns.

A pause hook gets to see the policy, and one that lets its answers depend on it makes the runs
differ before anything has failed; and if somebody outside takes the stop request back, the run that
was to be stopped goes on and may fail again (`policies_disagree`).
-/

namespace Treewalk

variable {World : Type}

/-- Invocations look the same under every policy. -/
@[simp] theorem Occurrence.invocation?_withPolicy (policy : ErrorPolicy) (occurrence : Occurrence) :
    (occurrence.withPolicy policy).invocation? = occurrence.invocation? := by
  cases occurrence <;> rfl

/-- Which constructs were invoked is seen under every policy. -/
@[simp] theorem Machine.invocations_withPolicy (policy : ErrorPolicy) (machine : Machine World) :
    (machine.withPolicy policy).invocations = machine.invocations := by
  simp [Machine.invocations, Machine.withPolicy, List.filterMap_map]

namespace ScriptGraph

variable {graph : ScriptGraph World} {number fuel : Nat}

/-- The runs of a script under all policies are tied. -/
theorem tied_process (graph : ScriptGraph World) (fuel number : Nat) {before : Workspace World}
    (unrecorded : before.machine.monitor.errors = [])
    (ignores : before.machine.HookIgnoresPolicy) :
    Tied Workspace.machine Workspace.withPolicy (before.withPolicy .propagate)
      (graph.process fuel number (before.withPolicy .propagate)) fun policy =>
        graph.process fuel number (before.withPolicy policy) := by
  have tied := ((graph.aligning fuel).process number).tied (before.withPolicy .propagate)
    ⟨rfl, unrecorded, ignores⟩
  simp only [Workspace.withPolicy_withPolicy] at tied
  exact tied

/-- A run that was to be stopped at a failure returns, with this failure as its only record. -/
theorem done_of_recorded (built : graph.IsBuilt) (stratified : graph.Stratified)
    (registered : graph.Registered) (known : number < graph.scripts.size)
    {before : Workspace World} (unfailed : before.machine.Unfailed) {fault : Fault}
    (returned : (graph.process fuel number before).final?.isSome = true)
    (recorded : [fault] <+: (graph.process fuel number before).state.machine.monitor.errors) :
    ∃ flow after, graph.process fuel number before = .done flow after ∧
      after.machine.monitor.errors = [fault] := by
  have spared := sparing_process stratified registered built fuel known before unfailed
  have uncancelled :=
    Workspace.isCancelled_of_fulfilled ((uncancelled_lifted built).process fuel number before)
  have only {machine : Machine World} (first : [fault] <+: machine.monitor.errors)
      (spared : machine.Unfailed ∨ machine.FailedOnce) : machine.monitor.errors = [fault] := by
    rcases spared with unfailed | failed
    · rw [unfailed.errors] at first
      cases List.prefix_nil.mp first
    · exact (first.eq_of_length failed.errors.symm).symm
  cases ended : graph.process fuel number before with
  | done flow after =>
    rw [ended] at spared recorded
    exact ⟨flow, after, rfl, only recorded spared⟩
  | failed other after =>
    -- Only the cancellation signal comes out after a failure, and no run ends in it.
    rw [ended] at spared recorded uncancelled
    have errors := only recorded (spared.imp_right And.left)
    rcases spared with unfailed | ⟨-, cancelled⟩
    · cases errors.symm.trans unfailed.errors
    · cases cancelled.symm.trans uncancelled
  | exhausted after =>
    rw [ended] at returned
    cases returned

end ScriptGraph

/-- How the ends of runs under the three policies agree. Either no failure was handed to the monitor
in any of the runs, and all have the same result, the same bindings and the same invocations, with
nothing recorded. Or there is a failure with which the run that propagates fails, with nothing
recorded, and which is the first that the other runs recorded. -/
def PoliciesAgree (before : Workspace World)
    (ended : ErrorPolicy → Outcome (Workspace World) Flow) : Prop :=
  (∀ policy,
    (ended policy).state.machine.uncaught = before.machine.uncaught ∧
    (ended policy).state.machine.monitor.errors = [] ∧
    (ended policy).result? = (ended .propagate).result? ∧
    (ended policy).state.machine.store = (ended .propagate).state.machine.store ∧
    (ended policy).state.machine.invocations = (ended .propagate).state.machine.invocations) ∨
  ∃ fault,
    (∃ after, ended .propagate = .failed fault after ∧ after.machine.monitor.errors = []) ∧
    ∀ policy, policy ≠ .propagate →
      (ended policy).state.machine.monitor.errors.head? = some fault

/-- Tied runs agree: the policy is asked at the first failure that comes to the monitor, and not
before. -/
theorem PoliciesAgree.of_tied {before : Workspace World}
    {ended : ErrorPolicy → Outcome (Workspace World) Flow}
    (unrecorded : before.machine.monitor.errors = [])
    (tied : Tied Workspace.machine Workspace.withPolicy (before.withPolicy .propagate)
      (ended .propagate) ended) : PoliciesAgree before ended := by
  generalize propagated : ended .propagate = left at tied
  cases tied with
  | alike same unhanded =>
    left
    intro policy
    rw [same policy, propagated, Outcome.state_mapState, Outcome.result?_mapState]
    refine ⟨?_, unhanded.errors.trans unrecorded, rfl, rfl, ?_⟩
    · have started := Machine.uncaught_withPolicy .propagate before.machine
      exact (Machine.uncaught_withPolicy policy _).trans (unhanded.uncaught.trans started)
    · exact Machine.invocations_withPolicy policy left.state.machine
  | @parted fault after _ givesUp recorded =>
    refine .inr ⟨fault, ⟨after, propagated, givesUp.propagating.errors⟩, ?_⟩
    intro policy other
    obtain ⟨later, errors⟩ := recorded policy other
    rw [← errors]
    rfl

/-- The error policies agree up to the first failure that nobody caught. A script is run under each
policy from the same state, in which nothing is recorded and whose pause hook, if there is one,
makes no use of the policy, and every run returns, whatever fuel it takes. If moreover all trees
were built by directives and are stratified, all roots are registered, and nobody outside lowers the
stop signal, then the run that is to be stopped recorded one failure at most, and is done if it
recorded one. -/
theorem error_policies_agree (graph : ScriptGraph World) (number : Nat)
    {before : Workspace World} (unrecorded : before.machine.monitor.errors = [])
    (ignores : before.machine.HookIgnoresPolicy) {fuel : ErrorPolicy → Nat}
    (returned : ∀ policy,
      (graph.process (fuel policy) number (before.withPolicy policy)).final?.isSome = true) :
    let ended (policy : ErrorPolicy) :=
      graph.process (fuel policy) number (before.withPolicy policy)
    PoliciesAgree before ended ∧
      (graph.IsBuilt → graph.Stratified → graph.Registered → number < graph.scripts.size →
        before.machine.Unrevoked →
        ∀ fault, (ended .recordAndStop).state.machine.monitor.errors.head? = some fault →
          ∃ flow after, ended .recordAndStop = .done flow after ∧
            after.machine.monitor.errors = [fault]) := by
  intro ended
  -- All runs come to the same end with the fuel of the one that takes most.
  let most := max (fuel .propagate) (max (fuel .recordAndContinue) (fuel .recordAndStop))
  have enough (policy : ErrorPolicy) : fuel policy ≤ most := by
    cases policy <;> simp only [most] <;> omega
  have common : (fun policy => graph.process most number (before.withPolicy policy)) = ended := by
    funext policy
    exact graph.process_eq_of_le (enough policy) (returned policy)
  have tied := graph.tied_process most number unrecorded ignores
  rw [common, show graph.process most number (before.withPolicy .propagate) = ended .propagate from
    congrFun common .propagate] at tied
  refine ⟨.of_tied unrecorded tied, ?_⟩
  intro built stratified registered known unrevoked fault first
  have unfailed : (before.withPolicy .recordAndStop).machine.Unfailed :=
    ⟨rfl, unrevoked, unrecorded⟩
  obtain ⟨later, errors⟩ := List.head?_eq_some_iff.mp first
  exact ScriptGraph.done_of_recorded built stratified registered known unfailed
    (returned .recordAndStop) ⟨later, errors.symm⟩

/-- A function whose only statement fails. It is called in the body of an error block, and then
twice without one. -/
def caughtThenUncaught : List (Directive Unit) :=
  [.node (.statement (.declareFunction ⟨"f", [], ⟨1⟩⟩)),
    .node (.statement (.block [⟨2⟩])),
    .node (.expression (.construct ⟨"broken", 0, fun _ host => (.error "out of order", host)⟩ [])),
    .node (.expression (.call ⟨0⟩ [])),
    .node (.statement (.block [⟨3⟩])),
    .node (.statement (.errorBlock ⟨⟨4⟩, none, none, none, none⟩)),
    .node (.expression (.call ⟨0⟩ [])),
    .node (.expression (.call ⟨0⟩ [])),
    .root [⟨0⟩, ⟨5⟩, ⟨6⟩, ⟨7⟩]]

/-- The tree of the one script is stratified. -/
theorem caughtThenUncaught_stratified :
    (ScriptGraph.sole caughtThenUncaught ⟨8⟩).Stratified :=
  ScriptGraph.sole_stratified caughtThenUncaught ⟨8⟩ (by decide)

/-- The root of the one script is registered. -/
theorem caughtThenUncaught_registered :
    (ScriptGraph.sole caughtThenUncaught ⟨8⟩).Registered := by
  intro number below
  rw [Nat.lt_one_iff.mp below]
  decide +kernel

/-- The failure of the first call is caught. The run that goes on records those of the other two
calls, and the run that is to be stopped records the first of these. Each of them pauses at the
second call, with a hook that only counts. -/
theorem error_policies_agree_after_caught :
    let graph := ScriptGraph.sole caughtThenUncaught ⟨8⟩
    let before : Workspace Unit :=
      { machine :=
          { host := { world := () }
            monitor :=
              { breakpoints := [⟨6⟩]
                pauseHook := some fun seen => if 3 ≤ seen.length then .stop else .resume } } }
    let ended (policy : ErrorPolicy) := graph.process 9 0 (before.withPolicy policy)
    (ended .recordAndContinue).state.machine.monitor.errors.length = 2 ∧
    ∃ fault,
      (∃ after, ended .propagate = .failed fault after) ∧
      (ended .recordAndContinue).state.machine.monitor.errors.head? = some fault ∧
      ∃ flow after, ended .recordAndStop = .done flow after ∧
        after.machine.monitor.errors = [fault] := by
  intro graph before ended
  have twice : (ended .recordAndContinue).state.machine.monitor.errors.length = 2 := by
    decide +kernel
  have returned : ∀ policy, (ended policy).final?.isSome = true := by
    intro policy
    cases policy <;> decide +kernel
  have built : graph.IsBuilt := ScriptGraph.sole_isBuilt caughtThenUncaught ⟨8⟩ rfl
  have unrecorded : before.machine.monitor.errors = [] := rfl
  have ignores : before.machine.HookIgnoresPolicy := by
    rintro hook ⟨⟩ policy seen
    simp only [List.length_map]
  obtain ⟨agree, stopped⟩ := error_policies_agree graph 0 unrecorded ignores returned
  rcases agree with alike | ⟨fault, ⟨after, failed, -⟩, first⟩
  · rw [(alike .recordAndContinue).2.1] at twice
    cases twice
  · have alone := stopped built caughtThenUncaught_stratified caughtThenUncaught_registered
      (by decide) nofun fault (first .recordAndStop (by simp))
    exact ⟨twice, fault, ⟨after, failed⟩, first .recordAndContinue (by simp), alone⟩

/-- A script that calls a construct. -/
def logs : List (Directive Unit) :=
  [.node (.expression (.literal (.str "x"))),
    .node (.expression (.construct ⟨"log", 1, fun _ host => (.ok .null, host)⟩ [⟨0⟩])),
    .root [⟨1⟩]]

/-- A pause hook that stops a run if it sees the policy that propagates. -/
def stopsUnderPropagate : PauseHook
  | [] => .resume
  | seen :: _ => if seen.policy = .propagate then .stop else .resume

/-- With a hook that reads the policy, the run that propagates is stopped at the construct and the
others invoke it, although nothing fails in any of them. With somebody outside who lowers the stop
signal before every look, the run that was to be stopped records the failures of both calls. -/
theorem policies_disagree :
    (let graph := ScriptGraph.sole logs ⟨2⟩
    let before : Workspace Unit :=
      { machine :=
          { host := { world := () }
            monitor := { breakpoints := [⟨1⟩], pauseHook := some stopsUnderPropagate } } }
    let ended (policy : ErrorPolicy) := graph.process 3 0 (before.withPolicy policy)
    before.machine.monitor.errors = [] ∧ (∀ policy, (ended policy).final?.isSome = true) ∧
      ¬ PoliciesAgree before ended) ∧
    (let graph := ScriptGraph.sole caughtThenUncaught ⟨8⟩
    let before : Workspace Unit :=
      { machine := { host := { world := () }, outside := fun _ => some false } }
    let ended := graph.process 9 0 (before.withPolicy .recordAndStop)
    graph.IsBuilt ∧ graph.Stratified ∧ graph.Registered ∧ ended.final?.isSome = true ∧
      ended.state.machine.monitor.errors.length = 2) := by
  constructor
  · intro graph before ended
    have returned : ∀ policy, (ended policy).final?.isSome = true := by
      intro policy
      cases policy <;> decide +kernel
    refine ⟨rfl, returned, ?_⟩
    rintro (alike | ⟨fault, -, first⟩)
    · have invocations : (ended .recordAndContinue).state.machine.invocations.length ≠
          (ended .propagate).state.machine.invocations.length := by
        decide +kernel
      exact invocations (congrArg List.length (alike .recordAndContinue).2.2.2.2)
    · have unrecorded : (ended .recordAndContinue).state.machine.monitor.errors.length = 0 := by
        decide +kernel
      rw [List.length_eq_zero_iff] at unrecorded
      have recorded := first .recordAndContinue (by simp)
      rw [unrecorded] at recorded
      cases recorded
  · exact ⟨ScriptGraph.sole_isBuilt caughtThenUncaught ⟨8⟩ rfl, caughtThenUncaught_stratified,
      caughtThenUncaught_registered, by decide +kernel, by decide +kernel⟩

end Treewalk
