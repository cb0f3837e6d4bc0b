import Treewalk.CallStack
import Treewalk.Fault
import Treewalk.Frame

/-!
# Monitors

A monitor watches one run: it keeps the call stack and the frame log, knows the breakpoints and has
the last word on faults that nobody caught. Stop requests reach it through a signal that is either
its own or shared with the constructs.

Lists are newest first, except for the recorded faults, which are oldest first.
-/

namespace Treewalk

/-- What a monitor does with a fault that nobody caught. -/
inductive ErrorPolicy where
  /-- Give it back to the caller. -/
  | propagate
  /-- Record it and keep running. -/
  | recordAndContinue
  /-- Record it and stop the run. -/
  | recordAndStop
deriving DecidableEq, Repr

/-- How diagnostics name a policy. -/
def ErrorPolicy.describe : ErrorPolicy → String
  | .propagate => "Propagate"
  | .recordAndContinue => "LogAndContinue"
  | .recordAndStop => "LogAndStop"

/-- The signal through which stop requests reach a monitor. -/
inductive StopSignal where
  /-- The signal of the host, which constructs can move. -/
  | shared
  /-- A signal of the monitor's own. -/
  | own (raised : Bool)
deriving DecidableEq, Repr

/-- The answer of a pause hook. -/
inductive PauseAction where
  | resume
  | stop
deriving DecidableEq, Repr

/-- What a pause hook gets to see. -/
structure Snapshot where
  /-- The node with the breakpoint; it is on top of the stack. -/
  node : NodeId
  stack : CallStack
  frames : List Frame
  callDepth : Nat
  stopped : Bool
  policy : ErrorPolicy
  /-- The faults that the monitor has recorded so far. -/
  errors : List Fault
  store : Store

/-- A pause hook answers to all it has seen so far, newest first; the current pause leads. -/
abbrev PauseHook := List Snapshot → PauseAction

/-- The monitor of a run. -/
structure Monitor where
  stack : CallStack := .empty
  frames : List Frame := []
  /-- How many frames belong to functions. -/
  callDepth : Nat := 0
  signal : StopSignal := .own false
  policy : ErrorPolicy := .propagate
  /-- Faults recorded under a policy that does not propagate. -/
  errors : List Fault := []
  maxCallDepth : Option Nat := none
  breakpoints : List NodeId := []
  pauseHook : Option PauseHook := none
  /-- What the pause hook has seen. -/
  pauses : List Snapshot := []

namespace Monitor

/-- The node being processed. -/
def top? (monitor : Monitor) : Option NodeId :=
  monitor.stack.top?

/-- Whether a frame of the scope would exceed the limit on nested calls. -/
def refuses (monitor : Monitor) (scope : Scope) : Option Nat :=
  match monitor.maxCallDepth with
  | some limit => if scope.isFunction && limit ≤ monitor.callDepth then some limit else none
  | none => none

/-- Log a frame for the scope. -/
def logFrame (monitor : Monitor) (scope : Scope) (entries : List Variable) : Monitor :=
  { monitor with
    frames := ⟨scope, monitor.stack.depth, entries⟩ :: monitor.frames
    callDepth := if scope.isFunction then monitor.callDepth + 1 else monitor.callDepth }

/-- Drop the newest frame, if there is one. -/
def dropFrame (monitor : Monitor) : Monitor :=
  match monitor.frames with
  | [] => monitor
  | frame :: older =>
    { monitor with
      frames := older
      callDepth := if frame.scope.isFunction then monitor.callDepth - 1 else monitor.callDepth }

/-- Record a fault. -/
def record (monitor : Monitor) (fault : Fault) : Monitor :=
  { monitor with errors := monitor.errors ++ [fault] }

/-- Set a breakpoint. -/
def addBreakpoint (monitor : Monitor) (node : NodeId) : Monitor :=
  if monitor.breakpoints.contains node then monitor
  else { monitor with breakpoints := node :: monitor.breakpoints }

/-- Clear a breakpoint. -/
def removeBreakpoint (monitor : Monitor) (node : NodeId) : Monitor :=
  { monitor with breakpoints := monitor.breakpoints.filter (· != node) }

/-- Install a pause hook, which has seen nothing yet. -/
def setPauseHook (monitor : Monitor) (hook : PauseHook) : Monitor :=
  { monitor with pauseHook := some hook, pauses := [] }

/-- How diagnostics show a monitor, given whether its stop signal is up. -/
def describe (monitor : Monitor) (stopped : Bool) : String :=
  "RobotDebugger \x7b stack: [" ++
    ", ".intercalate (monitor.stack.oldestFirst.map NodeId.describe) ++
    "], frames: " ++ toString monitor.frames.length ++
    ", stopped: " ++ toString stopped ++
    ", policy: " ++ monitor.policy.describe ++
    ", errors: " ++ toString monitor.errors.length ++ ", .. \x7d"

end Monitor

end Treewalk
