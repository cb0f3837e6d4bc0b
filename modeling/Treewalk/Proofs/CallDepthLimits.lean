import Treewalk.Proofs.MirroredRuns
import Treewalk.Proofs.ScriptContracts
import Treewalk.Proofs.StopSignal
import Treewalk.Proofs.Sightings

/-!
# Limits on nested calls

The limit on nested calls is compared with the number of frames that belong to functions, and only
where a frame is to be logged. A run in which no frame is refused under some limit therefore goes
the same way under every higher one. A refusal is noted in the trace, whatever becomes of the fault.
-/

namespace Treewalk

variable {World : Type}

/-- A frame was refused. -/
def Occurrence.isRefusal : Occurrence → Bool
  | .refused .. => true
  | _ => false

/-- The refusals of frames, newest first. -/
def Machine.refusals (machine : Machine World) : List Occurrence :=
  machine.sightings Occurrence.isRefusal

/-- The machine with another limit on nested calls, or with none. -/
def Machine.withLimit (limit : Option Nat) (machine : Machine World) : Machine World :=
  { machine with monitor := { machine.monitor with maxCallDepth := limit } }

def Workspace.withLimit (limit : Option Nat) (workspace : Workspace World) : Workspace World :=
  { workspace with machine := workspace.machine.withLimit limit }

/-- Another limit, and everything else as it is. -/
def Recasting.limited (limit : Option Nat) : Recasting where
  maxCallDepth _ := limit
  shows_of_unpaused _ _ := rfl

theorem Recasting.machine_limited (limit : Option Nat) (machine : Machine World) :
    (Recasting.limited limit).machine machine = machine.withLimit limit := by
  simp [Recasting.machine, Recasting.monitor, Recasting.limited, Machine.withLimit]

theorem Recasting.workspace_limited (limit : Option Nat) :
    ((Recasting.limited limit).workspace : Workspace World → Workspace World) =
      Workspace.withLimit limit := by
  funext workspace
  simp only [Recasting.workspace, Workspace.withLimit, machine_limited]

/-- A frame that fits under a limit fits under a higher one. -/
theorem Monitor.refuses_withLimit {monitor : Monitor} {limit : Nat} {higher : Option Nat}
    (limited : monitor.maxCallDepth = some limit) (le : ∀ bound ∈ higher, limit ≤ bound)
    {scope : Scope} (fits : monitor.refuses scope = none) :
    { monitor with maxCallDepth := higher }.refuses scope = none := by
  simp only [refuses, limited] at fits ⊢
  cases higher with
  | none => rfl
  | some bound =>
    have bounded : limit ≤ bound := le bound rfl
    simp only [Bool.and_eq_true, decide_eq_true_eq, ite_eq_right_iff, reduceCtorEq, imp_false,
      not_and] at fits ⊢
    intro isFunction
    have within := fits isFunction
    omega

/-- Limits are no business of breakpoints. -/
theorem Recasting.enter_limited (limit : Option Nat) (node : NodeId) (machine : Machine World) :
    ((limited limit).machine machine).enter node =
      (limited limit).machine (machine.enter node) := by
  have noted (action : PauseAction) (entered : Machine World) :
      ((limited limit).machine entered).notePause node action =
        (limited limit).machine (entered.notePause node action) := by
    simp only [machine_limited]
    rfl
  have paused (entered : Machine World) : ((limited limit).machine entered).pause node =
      (limited limit).machine (entered.pause node) := by
    have hooks : ((limited limit).machine entered).monitor.pauseHook =
        entered.monitor.pauseHook := rfl
    have seen : ((limited limit).machine entered).snapshot node ::
        ((limited limit).machine entered).monitor.pauses =
        entered.snapshot node :: entered.monitor.pauses := rfl
    simp only [Machine.pause, hooks, seen, noted]
    cases entered.monitor.pauseHook with
    | none => rfl
    | some hook =>
      dsimp only
      cases hook (entered.snapshot node :: entered.monitor.pauses) with
      | stop => exact (limited limit).raise .pauseHook _
      | resume => rfl
  have points : ((limited limit).machine (machine.push node)).monitor.breakpoints =
      (machine.push node).monitor.breakpoints := rfl
  simp only [Machine.enter, push, points, paused]
  split <;> rfl

/-- The run under a higher limit beside one under a lower limit. -/
def Comparison.raising (limit : Nat) (higher : Option Nat)
    (le : ∀ bound ∈ higher, limit ≤ bound) : Comparison World where
  toRecasting := .limited higher
  Clear machine := machine.monitor.maxCallDepth = some limit
  parts := Occurrence.isRefusal
  clear_of_later later clear := later.maxCallDepth.trans clear
  enter node machine _ := Recasting.enter_limited higher node machine
  refuses scope machine clear := by
    cases refused : machine.monitor.refuses scope with
    | some limit => exact .inr ⟨limit, rfl, rfl⟩
    | none => exact .inl (Monitor.refuses_withLimit clear le refused)

/-- Raising the limit on nested calls makes no difference to a run that fits under it. If in the run
of a script no frame was refused, then under every higher limit, or without any, the script comes to
the same end with the same fuel, and leaves the same bindings, statuses, recorded errors, events,
pauses and trace: the two workspaces differ in nothing but the limit. -/
theorem higher_limit_same_run (graph : ScriptGraph World) (fuel number : Nat)
    (before : Workspace World) {limit : Nat} {higher : Option Nat}
    (le : ∀ bound ∈ higher, limit ≤ bound)
    (fits : (graph.process fuel number (before.withLimit (some limit))).state.machine.refusals =
      before.machine.refusals) :
    let lower := graph.process fuel number (before.withLimit (some limit))
    let raised := graph.process fuel number (before.withLimit higher)
    raised.result? = lower.result? ∧ raised.state = lower.state.withLimit higher := by
  intro lower raised
  have unparted : lower.state.machine.trace.countP Occurrence.isRefusal =
      before.machine.trace.countP Occurrence.isRefusal := by
    rw [List.countP_eq_length_filter, List.countP_eq_length_filter]
    exact congrArg List.length fits
  have recast : graph.process fuel number
        ((Recasting.limited higher).workspace (before.withLimit (some limit))) =
      lower.mapState (Recasting.limited higher).workspace :=
    (((Comparison.raising limit higher le).ofScripts graph fuel).process number).same rfl unparted
  have image : raised = lower.mapState (Workspace.withLimit higher) := by
    rw [Recasting.workspace_limited] at recast
    exact recast
  rw [image]
  exact ⟨Outcome.result?_mapState _ _, Outcome.state_mapState _ _⟩

/-- A function that calls another one, which calls a construct. -/
def callWithinCall : List (Directive Unit) :=
  [.node (.statement (.declareFunction ⟨"inner", [], ⟨1⟩⟩)),
    .node (.statement (.block [⟨2⟩])),
    .node (.expression (.construct ⟨"ping", 0, fun _ host => (.ok .null, host)⟩ [])),
    .node (.statement (.declareFunction ⟨"outer", [], ⟨4⟩⟩)),
    .node (.statement (.block [⟨5⟩])),
    .node (.expression (.call ⟨0⟩ [])),
    .node (.expression (.call ⟨3⟩ [])),
    .root [⟨6⟩]]

/-- Two calls that are nested fit under a limit of two, and under no lower one. -/
theorem higher_limit_same_nested_calls :
    let graph := ScriptGraph.sole callWithinCall ⟨7⟩
    let before : Workspace Unit := { machine := { host := { world := () } } }
    let run (limit : Option Nat) := graph.process 8 0 (before.withLimit limit)
    (run (some 1)).state.machine.refusals.length = 1 ∧
    (run (some 2)).state.machine.invocations.length = 1 ∧
    (run (some 2)).result?.isSome = true ∧
    (run none).result? = (run (some 2)).result? ∧
    (run none).state = (run (some 2)).state.withLimit none := by
  intro graph before run
  have counted : (run (some 1)).state.machine.refusals.length = 1 ∧
      (run (some 2)).state.machine.invocations.length = 1 ∧
      (run (some 2)).result?.isSome = true ∧
      (run (some 2)).state.machine.refusals.length = 0 := by
    decide +kernel
  obtain ⟨refused, invoked, returned, fits⟩ := counted
  have unlimited : ∀ bound ∈ (none : Option Nat), 2 ≤ bound := by
    rintro bound ⟨⟩
  exact ⟨refused, invoked, returned,
    higher_limit_same_run graph 8 0 before unlimited (List.length_eq_zero_iff.mp fits)⟩

end Treewalk
