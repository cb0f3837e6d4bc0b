import Treewalk.Script
import Treewalk.Session.Kit
import Treewalk.Tree.Builder

/-!
# Session commands

A session is set up from a plan of trees, scripts and a monitor, and then takes commands. Most
commands act under whatever is open around them: a command that opens an activation or an error
scope carries the commands to perform inside.
-/

namespace Treewalk.Session

/-- What a pause hook reports, and when it asks to stop. -/
structure PausePlan where
  /-- Declarations whose values are reported. -/
  watch : List NodeId := []
  /-- The positions of the call stack to look from; by default all of them. -/
  depths : Option (List Nat) := none
  /-- Whether the variables in scope are reported. -/
  showVisible : Bool := false
  /-- The pause, counted from one, at which the hook asks to stop. -/
  stopAt : Option Nat := none

/-- The pause hook of a plan. -/
def PausePlan.hook (plan : PausePlan) : PauseHook := fun seen =>
  if plan.stopAt = some seen.length then .stop else .resume

/-- How to set up a monitor. -/
structure MonitorPlan where
  policy : ErrorPolicy := .propagate
  maxCallDepth : Option Nat := none
  breakpoints : List NodeId := []
  pause : Option PausePlan := none
  /-- The monitor gets a stop signal of its own instead of the shared one. -/
  ownStop : Bool := false

/-- The monitor of a plan. -/
def MonitorPlan.monitor (plan : MonitorPlan) : Monitor :=
  { signal := if plan.ownStop then .own false else .shared
    policy := plan.policy
    maxCallDepth := plan.maxCallDepth
    breakpoints := plan.breakpoints.eraseDups
    pauseHook := plan.pause.map PausePlan.hook }

/-- How to set up a script. -/
structure ScriptPlan where
  name : ScriptName
  root : NodeId
  tree : Nat := 0
  libraries : List Nat := []
  host : Option Nat := none

/-- How to set up a listener. -/
structure ListenerPlan where
  name : String
  /-- It enlists a plain listener on its host each time it hears an event. -/
  nested : Bool := false

/-- The listener of a plan for a host. -/
def ListenerPlan.listener (plan : ListenerPlan) (host : Nat) : Listener :=
  { name := plan.name
    enlists := fun _ => if plan.nested then [(host, { name := plan.name ++ "+" })] else [] }

/-- How to set up a session. -/
structure Plan where
  trees : List (List (Directive Bench))
  scripts : List ScriptPlan := []
  monitor : MonitorPlan := { }

/-- Something done to the bindings of one declaration. -/
inductive BindingAct where
  | push (value : Value)
  | pop
  | current
  | peek (offset : Nat)
  | oldest
  | replace (value : Value)
  | depth

/-- A command that carries no others. -/
inductive Action where
  | process (script : Nat)
  | prepare (script : Nat) (skipSelf : Bool)
  | close (script : Nat)
  | setArgument (script : Nat) (value : Value)
  | showScript (script : Nat)
  | findPath (script : Nat) (node : NodeId)
  | subscribe (host : Nat) (plan : ListenerPlan)
  | emit (host : Nat) (script : ScriptName) (kind : EventKind)
  | showHost (host : Nat)
  | processNode (tree : Nat) (argument : Option Value) (node : NodeId)
  | evaluateNode (tree : Nat) (argument : Option Value) (node : NodeId)
  | processBlock (tree : Nat) (argument : Option Value) (statements : List NodeId)
  | showTree (tree : Nat)
  | showNode (tree : Nat) (node : NodeId)
  | showLayout (tree : Nat) (scope : Scope)
  | actOnBinding (tree : Nat) (node : NodeId) (act : BindingAct)
  | enterNode (node : NodeId)
  | leaveNode (node : NodeId)
  | enterFrame (tree : Nat) (layout : Scope) (scope : Option Scope)
  | exitFrame
  | showStack
  | askStop
  | lookUp (node : NodeId) (depths : Option (List Nat))
  | handFault (fault : Fault)
  | notify
  | showState
  | moveSharedSignal (raised : Bool)
  | moveSignal (raised : Bool)
  | showErrorScope
  | replaceMonitor (plan : MonitorPlan)
  | showMonitor
  | takeErrors
  | addBreakpoint (node : NodeId)
  | removeBreakpoint (node : NodeId)
  | setPause (plan : PausePlan)
  | nameVariable (node : NodeId)
  | showVisible (depths : Option (List Nat))

/-- Whether the state is reported after an action. -/
def Action.surveysAfter : Action → Bool
  | .process _ => true
  | .prepare _ _ => true
  | .close _ => true
  | .processNode _ _ _ => true
  | .evaluateNode _ _ _ => true
  | .processBlock _ _ _ => true
  | _ => false

/-- What a session can be asked to do. -/
inductive Command where
  | act (action : Action)
  /-- Enter a scope, perform the commands inside and leave it. -/
  | activate (tree : Nat) (scope : Scope) (callSite : Option NodeId) (reenter : Bool)
      (inside : List Command)
  /-- Perform the commands inside an error scope. -/
  | protect (inside : List Command)

/-- Whether the state is reported after a command. -/
def Command.surveysAfter : Command → Bool
  | .act action => action.surveysAfter
  | _ => true

end Treewalk.Session
