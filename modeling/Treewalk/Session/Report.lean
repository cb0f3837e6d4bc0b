import Treewalk.Script.Path
import Treewalk.Session.Kit

/-!
# Session reports

The answer to a command, and what piled up while it was performed: pauses, events and log entries,
all oldest first. Stacks and frame logs are reported oldest first as well.
-/

namespace Treewalk.Session

/-- What is reported of one watched declaration. -/
structure Watched where
  node : NodeId
  name : Option String
  /-- Its value at each position looked from. -/
  values : List (Option Value)

/-- What is reported of a pause. -/
structure PauseReport where
  node : NodeId
  stack : List NodeId
  callDepth : Nat
  frames : List Frame
  stopped : Bool
  watched : List Watched
  /-- The variables in scope at each position looked from, if they were asked for. -/
  visible : Option (List (List Frame.VisibleVariable))

/-- What is reported of an event: the run is numbered by its first appearance in the session. -/
structure EventReport where
  listener : String
  kind : EventKind
  script : ScriptName
  run : Nat

/-- What piled up since the last report. -/
structure Pile where
  pauses : List PauseReport := []
  events : List EventReport := []
  log : List (List Value) := []

/-- The bindings of one declaration, newest first. -/
structure LiveCell where
  cell : Cell
  values : List Value

/-- The part of a state that only the monitor itself shows. -/
structure MonitorState where
  frames : List Frame
  callDepth : Nat
  errors : List Fault

/-- The state of a session. -/
structure Survey where
  /-- Bound declarations in the order of their trees and identities. -/
  live : List LiveCell
  stack : List NodeId
  shouldStop : Bool
  monitor : Option MonitorState

/-- What is reported of a script. -/
structure ScriptView where
  script : Script Bench
  libraries : List ScriptName
  status : ScriptStatus
  listeners : Nat
  description : String

/-- What is reported of a declared variable. -/
structure VariableView where
  declaration : VariableDeclaration
  owner : Scope
  hasValue : Bool

/-- What is reported of a declared function. -/
structure FunctionView where
  declaration : FunctionDeclaration
  layout : Layout

/-- What is reported of a node that exists. -/
structure InstructionView where
  isDeclaration : Bool
  isTracked : Bool
  construct : Option String
  variableView : Option VariableView
  functionView : Option FunctionView

/-- What is reported of a node. -/
structure NodeView where
  children : List NodeId
  position : Option Position
  isRoot : Bool
  statements : List NodeId
  instruction : Except Fault InstructionView

/-- What is reported of an error scope. -/
structure ErrorScopeView where
  error : Except Misuse Fault
  node : Option NodeId
  shouldStop : Bool
  parentShouldStop : Bool

mutual

/-- The answer to a command. -/
inductive Reply where
  | done
  | failed (fault : Fault)
  /-- The command ran out of fuel. -/
  | exhausted
  | flow (flow : Flow)
  | value (value : Value)
  | binding (value : Option Value)
  | bindings (values : List (Option Value))
  | count (number : Nat)
  | truth (flag : Bool)
  | label (text : Option String)
  | script (view : ScriptView)
  | path (places : List PathElement)
  | host (listeners : Nat) (description : String)
  | tree (size : Nat)
  | node (view : NodeView)
  | layout (layout : Option Layout)
  | position (stack : List NodeId) (shouldStop : Bool)
  | stack (stack : List NodeId)
  | state (survey : Survey)
  | activated (owner : Scope) (pile : Pile) (inside : List Report)
  | guarded (inside : List Report) (caught : Option Fault)
  | errorScope (view : ErrorScopeView)
  | monitor (description policy : String)
  | faults (faults : List Fault)
  | visible (entries : List (List Frame.VisibleVariable))

/-- An answer, what piled up, and the state after commands that may change it. -/
inductive Report where
  | of (reply : Reply) (pile : Pile) (after : Option Survey)

end

end Treewalk.Session
