import Treewalk.Script

/-!
# The life of a script

Running a script initializes its libraries, depth first and each at most once, logs the frames of
all libraries that are bound, and processes the root block in an activation of its own. A script
runs once. Initializing a script as a library binds its variables and runs its declarations; the
bindings outlive the run and go when the script is closed.

The flags of a script are set before the work they stand for begins, so they also stand after work
that failed or was stopped.
-/

namespace Treewalk

namespace Program

variable {World : Type}

/-- Process a declaration of a library on the call stack; says whether it failed or was stopped. -/
def runDeclaration (walk : Walk World) (statement : NodeId) : Exec (Machine World) Bool := do
  Exec.update (Machine.enter statement)
  Exec.ensuring
    (do
      match ← Exec.attempt (walk statement) with
      | .ok _ => return false
      | .error fault =>
        if fault.isCancellation then return true
        else
          Machine.handFrom statement fault
          return true)
    (Machine.leave statement)

/-- Process the declarations among the statements of a library, until one fails or a stop is
due. -/
def runDeclarations (program : Program World) (walk : Walk World) :
    List NodeId → Exec (Machine World) Unit
  | [] => return ()
  | statement :: rest => do
    let stops ← Machine.poll
    if stops then return ()
    else
      let instruction ← Exec.ofExcept (program.tree.instruction statement)
      if instruction.isDeclaration then
        let failed ← runDeclaration walk statement
        if failed then return () else program.runDeclarations walk rest
      else program.runDeclarations walk rest

end Program

namespace ScriptGraph

variable {World : Type}

/-- The layout of a script's root block, which has to be registered as one. -/
def rootLayout (script : Script World) : Exec (Workspace World) Layout :=
  Exec.ofOption (.unknownNode script.root) (script.tree.rootLayout? script.root)

/-- The program of a script as it would run now. -/
def program (script : Script World) (status : ScriptStatus) : Program World :=
  { tree := script.tree, argument := status.argument }

/-- Add the layouts of the bound libraries below a script to those collected, dependencies before
dependents. A root that was seen before is skipped with everything below it. -/
def collectLayouts (graph : ScriptGraph World) (workspace : Workspace World) (number : Nat)
    (collected : List NodeId × List Layout) : List NodeId × List Layout :=
  (graph.libraries number).foldl
    (fun before library =>
      let script := graph.script library.1
      if before.1.contains script.root then before
      else
        let below :=
          graph.collectLayouts workspace library.1 (script.root :: before.1, before.2)
        if (workspace.status library.1).libraryBound then
          (below.1, below.2 ++ (script.tree.rootLayout? script.root).toList)
        else below)
    collected
termination_by number
decreasing_by exact library.2

/-- The layouts of the bound libraries below a script, each root once. -/
def libraryLayouts (graph : ScriptGraph World) (workspace : Workspace World) (number : Nat) :
    List Layout :=
  (graph.collectLayouts workspace number ([(graph.script number).root], [])).2

/-- Bind the variables of a script and run its declarations among the frames of its libraries. -/
def declare (graph : ScriptGraph World) (fuel number : Nat) : Exec (Workspace World) Unit := do
  let script := graph.script number
  let layout ← rootLayout script
  Exec.update fun workspace =>
    { workspace with
      machine := { workspace.machine with store := workspace.machine.store.bind layout } }.amend
        number fun status => { status with libraryBound := true }
  let workspace ← Exec.state
  let program := program script (workspace.status number)
  Workspace.onMachine <|
    Activation.withinFrames (graph.libraryLayouts workspace number) <|
      Activation.within { layout, ownsBindings := false } do
        Exec.update fun machine =>
          machine.note (.libraryOpened script.root machine.monitor.frames machine.store)
        program.runDeclarations (program.process fuel) (script.tree.statements script.root)

/-- Do something for a script that is not initialized yet. -/
def unlessInitialized (number : Nat) (body : Exec (Workspace World) Unit) :
    Exec (Workspace World) Unit := do
  let workspace ← Exec.state
  if (workspace.status number).initialized then return () else body

/-- Initialize every library of a script that is not initialized yet and then, unless it is to be
skipped, the script itself. -/
def prepare (graph : ScriptGraph World) (fuel number : Nat) (skipSelf : Bool) :
    Exec (Workspace World) Unit := do
  Exec.update (Workspace.amend number fun status => { status with initialized := true })
  (graph.libraries number).forM fun library =>
    unlessInitialized library.1 (graph.prepare fuel library.1 false)
  if skipSelf then return () else graph.declare fuel number
termination_by number
decreasing_by exact library.2

/-- Run the root block of a script among the frames of its libraries. A script that is bound as a
library keeps those bindings. -/
def runRoot (graph : ScriptGraph World) (fuel number : Nat) : Exec (Workspace World) Flow := do
  let script := graph.script number
  let layout ← rootLayout script
  let workspace ← Exec.state
  let status := workspace.status number
  Workspace.onMachine <|
    Activation.withinFrames (graph.libraryLayouts workspace number) <|
      Activation.within { layout, ownsBindings := !status.libraryBound } do
        Exec.update fun machine =>
          machine.note (.scriptOpened script.root machine.monitor.frames machine.store)
        (program script status).process fuel script.root

/-- Run a script that has not run yet. -/
def run (graph : ScriptGraph World) (fuel number : Nat) : Exec (Workspace World) Flow := do
  Exec.update (Workspace.amend number fun status => { status with hasRun := true })
  let workspace ← Exec.state
  if (workspace.status number).initialized then graph.runRoot fuel number
  else
    graph.prepare fuel number true
    graph.runRoot fuel number

/-- Run a script once, between the two events of the run. -/
def process (graph : ScriptGraph World) (fuel number : Nat) : Exec (Workspace World) Flow := do
  let script := graph.script number
  let workspace ← Exec.state
  if (workspace.status number).hasRun then Exec.failFor (.misuse (.alreadyRun script.name))
  else
    let (run, board) := workspace.board.freshRun
    Exec.update fun current =>
      { current with board }.announce script ⟨.started, script.name, run⟩
    Exec.ensuring (graph.run fuel number)
      (Workspace.announce script ⟨.finished, script.name, run⟩)

/-- Close a script and its libraries: bindings made for libraries go, once. -/
def close (graph : ScriptGraph World) (number : Nat) (workspace : Workspace World) :
    Workspace World :=
  let status := workspace.status number
  if status.closed then workspace
  else
    let script := graph.script number
    let flagged :=
      workspace.amend number fun status => { status with closed := true, libraryBound := false }
    let released :=
      match status.libraryBound, script.tree.rootLayout? script.root with
      | true, some layout =>
        { flagged with
          machine := { flagged.machine with store := flagged.machine.store.unbind layout } }
      | _, _ => flagged
    (graph.libraries number).foldl
      (fun before library =>
        if (before.status library.1).closed then before else graph.close library.1 before)
      released
termination_by number
decreasing_by exact library.2

end ScriptGraph

end Treewalk
