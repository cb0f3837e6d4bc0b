import Treewalk.Session.Command

/-!
# The state of a session

A session holds trees, scripts and the workspace in which the scripts run.
-/

namespace Treewalk

/-- A running session. -/
structure Session where
  trees : Array (Tree Session.Bench)
  graph : ScriptGraph Session.Bench
  workspace : Workspace Session.Bench
  /-- How the pauses of the current hook are reported. -/
  pausePlan : Session.PausePlan := { }
  /-- Runs in the order in which a listener first heard of them. -/
  runsHeard : List Nat := []

namespace Session

/-- The tree of directives; identities never run out in a session. -/
def buildTree (key : Nat) (directives : List (Directive Bench)) : Tree Bench :=
  ((Builder.applyAll { } directives).getD { }).finish key

/-- Number trees in order. -/
def buildTrees (plans : List (List (Directive Bench))) : Array (Tree Bench) :=
  (plans.mapIdx buildTree).toArray

/-- Add the scripts of a plan in order, with an answer for each library of each. -/
def buildScripts (trees : Array (Tree Bench)) (graph : ScriptGraph Bench) :
    List ScriptPlan → ScriptGraph Bench × List (List (Except Misuse Unit))
  | [] => (graph, [])
  | plan :: rest =>
    let bare : Script Bench :=
      { name := plan.name
        tree := trees.getD plan.tree (Script.blank Bench).tree
        root := plan.root
        host := plan.host }
    let (script, answers) := graph.addLibraries bare plan.libraries
    let (final, others) := buildScripts trees (graph.add script) rest
    (final, answers :: others)

/-- Set up a session; says of each script which libraries it could include. -/
def ofPlan (plan : Plan) : Session × List (List (Except Misuse Unit)) :=
  let trees := buildTrees plan.trees
  let (graph, answers) := buildScripts trees { } plan.scripts
  let machine : Machine Bench := { monitor := plan.monitor.monitor, host := { world := { } } }
  ({ trees, graph, workspace := { machine }, pausePlan := plan.monitor.pause.getD { } }, answers)

/-- The machine of the session. -/
def machine (session : Session) : Machine Bench :=
  session.workspace.machine

/-- Change the machine of the session. -/
def onMachine (change : Machine Bench → Machine Bench) (session : Session) : Session :=
  { session with workspace := { session.workspace with machine := change session.machine } }

/-- Change the monitor of the session. -/
def onMonitor (change : Monitor → Monitor) (session : Session) : Session :=
  session.onMachine fun machine => { machine with monitor := change machine.monitor }

/-- A tree of the session. -/
def tree (session : Session) (number : Nat) : Tree Bench :=
  session.trees.getD number (Script.blank Bench).tree

end Session

end Treewalk
