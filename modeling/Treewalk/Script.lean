import Treewalk.Event
import Treewalk.Program

/-!
# Scripts and libraries

A script is a root block in a tree together with the scripts it includes as libraries. Scripts are
numbered, and a script includes only scripts with a smaller number, so no script includes itself.
A script and its libraries share one tree.

The scripts never change while they run; what does change about them is their status.
-/

namespace Treewalk

/-- A script and what it includes. -/
structure Script (World : Type) where
  name : ScriptName
  tree : Tree World
  root : NodeId
  /-- The numbers of the libraries, in the order they were added. -/
  libraries : List Nat := []
  /-- The host on which its runs are announced. -/
  host : Option Nat := none

/-- The script that has no tree. -/
def Script.blank (World : Type) : Script World :=
  { name := ⟨""⟩, tree := { key := 0, nodes := #[], layouts := [] }, root := .invalid }

/-- The changing part of a script. -/
structure ScriptStatus where
  argument : Option Value := none
  /-- Its libraries have been initialized, or are being so. -/
  initialized : Bool := false
  closed : Bool := false
  hasRun : Bool := false
  /-- Its variables are bound because it was initialized as a library. -/
  libraryBound : Bool := false

instance : Inhabited ScriptStatus := ⟨{ }⟩

/-- Numbered scripts that include each other. -/
structure ScriptGraph (World : Type) where
  scripts : Array (Script World) := #[]

namespace ScriptGraph

variable {World : Type}

/-- The script with a number; a number without one stands for the blank script. -/
def script (graph : ScriptGraph World) (number : Nat) : Script World :=
  graph.scripts.getD number (.blank World)

/-- The numbers of the libraries of a script, all of them smaller than its own. -/
def libraries (graph : ScriptGraph World) (number : Nat) : List { library // library < number } :=
  (graph.script number).libraries.filterMap fun library =>
    if smaller : library < number then some ⟨library, smaller⟩ else none

/-- Include a library, which has to live in the tree of the script. -/
def addLibrary (graph : ScriptGraph World) (script : Script World) (library : Nat) :
    Except Misuse (Script World) :=
  let included := graph.script library
  if script.tree.key = included.tree.key then
    .ok { script with libraries := script.libraries ++ [library] }
  else .error (.foreignLibrary script.name included.name)

/-- Include libraries one by one; each is accepted or refused on its own. -/
def addLibraries (graph : ScriptGraph World) (script : Script World) :
    List Nat → Script World × List (Except Misuse Unit)
  | [] => (script, [])
  | library :: rest =>
    match graph.addLibrary script library with
    | .ok extended =>
      let (final, answers) := graph.addLibraries extended rest
      (final, .ok () :: answers)
    | .error misuse =>
      let (final, answers) := graph.addLibraries script rest
      (final, .error misuse :: answers)

/-- Give the next number to a script. -/
def add (graph : ScriptGraph World) (script : Script World) : ScriptGraph World :=
  ⟨graph.scripts.push script⟩

end ScriptGraph

/-- The state in which scripts run: the machine, the statuses of the scripts and their events. -/
structure Workspace (World : Type) where
  machine : Machine World
  statuses : Table Nat ScriptStatus := { }
  board : EventBoard := { }

namespace Workspace

variable {World : Type}

/-- The status of a script. -/
def status (workspace : Workspace World) (number : Nat) : ScriptStatus :=
  workspace.statuses.get number

/-- Change the status of a script. -/
def amend (number : Nat) (change : ScriptStatus → ScriptStatus) (workspace : Workspace World) :
    Workspace World :=
  { workspace with statuses := workspace.statuses.modify number change }

/-- Run a computation on the machine. -/
def onMachine {Result : Type} (body : Exec (Machine World) Result) :
    Exec (Workspace World) Result :=
  Exec.zoom (·.machine) (fun machine workspace => { workspace with machine }) body

/-- Emit an event of a script, if the script has a host. -/
def announce (script : Script World) (event : Event) (workspace : Workspace World) :
    Workspace World :=
  match script.host with
  | some host => { workspace with board := workspace.board.emit host event }
  | none => workspace

/-- Events are no business of the machine. -/
@[simp] theorem machine_announce (script : Script World) (event : Event)
    (workspace : Workspace World) :
    (workspace.announce script event).machine = workspace.machine := by
  unfold announce
  split <;> rfl

/-- Events are no business of the statuses. -/
@[simp] theorem statuses_announce (script : Script World) (event : Event)
    (workspace : Workspace World) :
    (workspace.announce script event).statuses = workspace.statuses := by
  unfold announce
  split <;> rfl

end Workspace

namespace ScriptGraph

variable {World : Type}

/-- How diagnostics show a script. -/
def describe (graph : ScriptGraph World) (workspace : Workspace World) (number : Nat) : String :=
  let script := graph.script number
  let status := workspace.status number
  "Script \x7b id: " ++ script.name.describe ++
    ", root: " ++ script.root.describe ++
    ", libraries: [" ++
    ", ".intercalate (script.libraries.map fun library => (graph.script library).name.describe) ++
    "], initialized: " ++ toString status.initialized ++
    ", closed: " ++ toString status.closed ++
    ", has_run: " ++ toString status.hasRun ++ ", .. \x7d"

end ScriptGraph

end Treewalk
