import Treewalk.Construct
import Treewalk.Exec
import Treewalk.Monitor

/-!
# The machine

A machine is the whole state of an evaluation: the bindings, the monitor, the error scopes that are
open around the current node, innermost first, and the host of the constructs. It also keeps a
trace of what happened. Nothing here reads the trace: it is there for whoever observes a run.

The stop signal can also be moved by somebody who is no part of the evaluation, at any time. What
runs notices that when it looks whether a stop is due, so these moves are given by a schedule that
says for each look what has become of the signal since the one before. A construct or a pause hook
that wants to know in between may answer to anything, and in particular as if it had looked itself.

An open error scope takes every fault that reaches it, so only without one does a fault come to
the monitor. A scope that has recorded a fault asks everything inside it to stop.
-/

namespace Treewalk

/-- What an error scope has recorded. -/
structure ErrorScope where
  /-- The first fault, with all later ones suppressed in it. -/
  error : Option Fault := none
  /-- The node on top of the call stack when the first fault was recorded. -/
  node : Option NodeId := none

namespace ErrorScope

/-- Record a fault that occurred while `top` was on top of the call stack. -/
def record (scope : ErrorScope) (fault : Fault) (top : Option NodeId) : ErrorScope :=
  match scope.error with
  | some primary => { scope with error := some (primary.suppressing (fault.attributedTo top)) }
  | none => ⟨some (fault.attributedTo top), top⟩

/-- The primary fault; asking before one was recorded is a misuse. -/
def primary (scope : ErrorScope) : Except Misuse Fault :=
  match scope.error with
  | some fault => .ok fault
  | none => .error .noErrorRecorded

end ErrorScope

/-- The occasions on which a binding is overwritten. -/
inductive WriteSite where
  | declaration
  | parameter
  | iteration
  | caughtError
  | assignment
deriving DecidableEq, Repr

/-- Who can move the stop signal of a monitor during a run. -/
inductive SignalMover where
  | construct (name : String)
  | pauseHook
  /-- The policy for faults that nobody caught. -/
  | policy
  /-- Somebody who is no part of the evaluation. -/
  | outside
deriving DecidableEq, Repr

/-- Something that happened during a run. -/
inductive Occurrence where
  /-- A node was put on the call stack while these frames were logged. -/
  | entered (node : NodeId) (frames : List Frame)
  /-- A node was left, and what was taken off the call stack for it. -/
  | left (node : NodeId) (taken : Option NodeId)
  /-- A breakpoint was hit. -/
  | paused (snapshot : Snapshot) (action : PauseAction)
  /-- A construct was invoked, perhaps with the stop signal already up. -/
  | invoked (construct : String) (arguments : List Value) (stopped : Bool)
  /-- The stop signal of the monitor went up or down. -/
  | signalled (mover : SignalMover) (raised : Bool)
  /-- A frame was refused because the limit on nested calls was reached. -/
  | refused (scope : Scope) (limit : Nat)
  /-- The failure of a statement was handed on while `top` was on top of the call stack and `level`
  error scopes were open. -/
  | handed (statement : NodeId) (top : Option NodeId) (level : Nat) (fault : Fault)
  /-- A variable that has no binding in the store was to be overwritten. -/
  | unbound (site : WriteSite) (cell : Cell) (store : Store)
  /-- The root block of a script is about to run. -/
  | scriptOpened (root : NodeId) (frames : List Frame) (store : Store)
  /-- The declarations of a library are about to run. -/
  | libraryOpened (root : NodeId) (frames : List Frame) (store : Store)

/-- The state of an evaluation. -/
structure Machine (World : Type) where
  store : Store := { }
  monitor : Monitor := { }
  /-- Open error scopes, innermost first. -/
  scopes : List ErrorScope := []
  host : Host World
  /-- How the stop signal is moved from outside before each look at it, if it is. -/
  outside : Nat → Option Bool := fun _ => none
  /-- How often it was looked at. -/
  looks : Nat := 0
  /-- What happened, newest first. -/
  trace : List Occurrence := []

namespace Machine

variable {World : Type}

/-- The stop signal of the monitor is up. -/
def stopped (machine : Machine World) : Bool :=
  match machine.monitor.signal with
  | .shared => machine.host.halted
  | .own raised => raised

/-- Raise or lower the stop signal of the monitor. -/
def signal (raised : Bool) (machine : Machine World) : Machine World :=
  match machine.monitor.signal with
  | .shared => { machine with host := { machine.host with halted := raised } }
  | .own _ => { machine with monitor := { machine.monitor with signal := .own raised } }

/-- The checkpoint of everything that runs: the stop signal is up or an open error scope has
recorded a fault. -/
def shouldStop (machine : Machine World) : Bool :=
  machine.scopes.any (·.error.isSome) || machine.stopped

/-- Add to the trace. -/
def note (occurrence : Occurrence) (machine : Machine World) : Machine World :=
  { machine with trace := occurrence :: machine.trace }

/-- Note who moved the stop signal, if it is not what it was earlier. -/
def noteMove (mover : SignalMover) (earlier : Bool) (machine : Machine World) : Machine World :=
  if machine.stopped = earlier then machine
  else machine.note (.signalled mover machine.stopped)

/-- Raise the stop signal of the monitor. -/
def raise (mover : SignalMover) (machine : Machine World) : Machine World :=
  (machine.signal true).noteMove mover machine.stopped

/-- Count a look at the stop signal. -/
def countLook (machine : Machine World) : Machine World :=
  { machine with looks := machine.looks + 1 }

/-- Somebody outside moves the stop signal. -/
def moveOutside (raised : Bool) (machine : Machine World) : Machine World :=
  (machine.signal raised).noteMove .outside machine.stopped

/-- Look whether a stop is due. The stop signal is as it was moved from outside until then. -/
def poll : Exec (Machine World) Bool :=
  fun machine =>
    match machine.outside machine.looks with
    | none => .done machine.countLook.shouldStop machine.countLook
    | some raised =>
      let moved := machine.countLook.moveOutside raised
      .done moved.shouldStop moved

/-- The machine as a look at the stop signal finds and leaves it. -/
def look (machine : Machine World) : Machine World :=
  (poll machine).state

/-- A look counts, and what has come from outside takes effect. -/
theorem look_eq (machine : Machine World) :
    machine.look =
      match machine.outside machine.looks with
      | none => machine.countLook
      | some raised => machine.countLook.moveOutside raised := by
  simp only [look, poll]
  cases machine.outside machine.looks <;> rfl

/-- A look says whether a stop is due on the machine that it leaves behind. -/
theorem poll_apply (machine : Machine World) :
    poll machine = .done machine.look.shouldStop machine.look := by
  simp only [look, poll]
  cases machine.outside machine.looks <;> rfl

/-- What a pause hook gets to see at a node. -/
def snapshot (machine : Machine World) (node : NodeId) : Snapshot :=
  { node
    stack := machine.monitor.stack
    frames := machine.monitor.frames
    callDepth := machine.monitor.callDepth
    stopped := machine.stopped
    policy := machine.monitor.policy
    errors := machine.monitor.errors
    store := machine.store }

/-- Keep what the pause hook saw at a node and how it answered. -/
def notePause (node : NodeId) (action : PauseAction) (machine : Machine World) : Machine World :=
  let seen := machine.snapshot node
  { machine with
    monitor := { machine.monitor with pauses := seen :: machine.monitor.pauses } }.note
      (.paused seen action)

/-- Obey the answer of a pause hook. -/
def obey (action : PauseAction) (machine : Machine World) : Machine World :=
  match action with
  | .stop => machine.raise .pauseHook
  | .resume => machine

/-- Let the pause hook, if there is one, see the machine and obey its answer. -/
def pause (node : NodeId) (machine : Machine World) : Machine World :=
  match machine.monitor.pauseHook with
  | none => machine
  | some hook =>
    let action := hook (machine.snapshot node :: machine.monitor.pauses)
    (machine.notePause node action).obey action

/-- Put a node on the call stack. -/
def push (node : NodeId) (machine : Machine World) : Machine World :=
  { machine with
    monitor := { machine.monitor with stack := machine.monitor.stack.push node } }.note
      (.entered node machine.monitor.frames)

/-- Put a node on the call stack and pause there if it has a breakpoint. -/
def enter (node : NodeId) (machine : Machine World) : Machine World :=
  let entered := machine.push node
  if entered.monitor.breakpoints.contains node then entered.pause node else entered

/-- Take a node off the call stack. -/
def leave (node : NodeId) (machine : Machine World) : Machine World :=
  { machine with
    monitor := { machine.monitor with stack := machine.monitor.stack.pop } }.note
      (.left node machine.monitor.top?)

/-- Log a frame, unless it would exceed the limit on nested calls. -/
def enterFrame (scope : Scope) (entries : List Variable) : Exec (Machine World) Unit :=
  fun machine =>
    match machine.monitor.refuses scope with
    | some limit =>
      .failed (.ofCause (.callDepthExceeded limit)) (machine.note (.refused scope limit))
    | none => .done () { machine with monitor := machine.monitor.logFrame scope entries }

/-- Drop the newest frame. -/
def exitFrame (machine : Machine World) : Machine World :=
  { machine with monitor := machine.monitor.dropFrame }

/-- Route a fault that no error scope is open for. -/
def handUncaught (fault : Fault) : Exec (Machine World) Unit :=
  fun machine =>
    if fault.isCancellation then .failed fault machine
    else
      let attributed := fault.attributedTo machine.monitor.top?
      if attributed.isMisuse then .failed attributed machine
      else
        let recorded := { machine with monitor := machine.monitor.record attributed }
        match machine.monitor.policy with
        | .propagate => .failed attributed machine
        | .recordAndContinue => .done () recorded
        | .recordAndStop => .done () (recorded.raise .policy)

/-- Route a fault: the innermost error scope records it, and without one it comes to the monitor.
Being done means that the fault was absorbed. -/
def hand (fault : Fault) : Exec (Machine World) Unit :=
  fun machine =>
    match machine.scopes with
    | [] => handUncaught fault machine
    | scope :: outer =>
      if fault.isMisuse || fault.isCancellation then .failed fault machine
      else
        let recorded := scope.record fault machine.monitor.top?
        .done () { machine with scopes := recorded :: outer }

/-- Hand on the failure of a statement. -/
def handFrom (statement : NodeId) (fault : Fault) : Exec (Machine World) Unit := do
  let machine ← Exec.state
  Exec.update (note (.handed statement machine.monitor.top? machine.scopes.length fault))
  hand fault

/-- What the innermost error scope has recorded. -/
def recordedError? (machine : Machine World) : Option Fault :=
  machine.scopes.head?.bind (·.error)

/-- Open an error scope. -/
def openScope (machine : Machine World) : Machine World :=
  { machine with scopes := { } :: machine.scopes }

/-- Close the innermost error scope. -/
def closeScope (machine : Machine World) : Machine World :=
  { machine with scopes := machine.scopes.tail }

/-- Run a body in an error scope of its own and say what the scope recorded. -/
def protect {Result : Type} (body : Exec (Machine World) Result) :
    Exec (Machine World) (Result × Option Fault) :=
  Exec.ensuring
    (do
      Exec.update openScope
      let result ← body
      let machine ← Exec.state
      return (result, machine.recordedError?))
    closeScope

/-- A body is run in its error scope, and whichever way it ends the scope is closed. -/
theorem protect_apply {Result : Type} (body : Exec (Machine World) Result)
    (machine : Machine World) :
    protect body machine =
      match body machine.openScope with
      | .done result after => .done (result, after.recordedError?) after.closeScope
      | .failed fault after => .failed fault after.closeScope
      | .exhausted after => .exhausted after := by
  simp only [protect, Exec.ensuring, Exec.bind_apply, Exec.update, Exec.state]
  cases body machine.openScope <;> rfl

/-- Overwrite the newest binding of a declaration. -/
def write (site : WriteSite) (name : String) (cell : Cell) (value : Value) :
    Exec (Machine World) Unit :=
  fun machine =>
    match machine.store.replace? cell value with
    | some store => .done () { machine with store }
    | none =>
      .failed (.ofCause (.unboundVariable name)) (machine.note (.unbound site cell machine.store))

/-- Invoke a construct on evaluated arguments, whatever their number. -/
def invoke (construct : Construct World) (arguments : List Value) :
    Exec (Machine World) Value :=
  fun machine =>
    let noted := machine.note (.invoked construct.name arguments machine.stopped)
    let left (host : Host World) : Machine World :=
      { noted with host }.noteMove (.construct construct.name) machine.stopped
    match construct.invoke arguments machine.host with
    | (.ok value, host) => .done value (left host)
    | (.error message, host) =>
      .failed (.ofCause (.constructFailed construct.name message)) (left host)

end Machine

end Treewalk
