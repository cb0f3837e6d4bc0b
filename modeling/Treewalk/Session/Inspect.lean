import Treewalk.Session.Basic
import Treewalk.Session.Report

/-!
# Looking into a session

Everything a session shows of itself. Looking changes nothing, except that what piled up since the
last report is shown once.
-/

namespace Treewalk.Session

/-- The bound declarations, in the order of their trees and identities. -/
def liveCells (session : Session) : List LiveCell :=
  session.trees.toList.flatMap fun tree =>
    (List.range tree.nodes.size).filterMap fun index =>
      let cell := tree.cell ⟨index⟩
      match tree.variableAt? ⟨index⟩, session.machine.store.bindings cell with
      | none, _ => none
      | _, [] => none
      | some _, values => some ⟨cell, values⟩

/-- The state of the session; what only the monitor shows is left out inside a nesting command. -/
def survey (session : Session) (nested : Bool) : Survey :=
  let monitor := session.machine.monitor
  { live := session.liveCells
    stack := monitor.stack.oldestFirst
    shouldStop := session.machine.shouldStop
    monitor :=
      if nested then none else some ⟨monitor.frames.reverse, monitor.callDepth, monitor.errors⟩ }

/-- The positions to look from: those given, or every position of a stack. -/
def lookingFrom (depths : Option (List Nat)) (stack : CallStack) : List Nat :=
  depths.getD (List.range (stack.depth + 1))

/-- Report a pause. -/
def reportPause (plan : PausePlan) (seen : Snapshot) : PauseReport :=
  let depths := lookingFrom plan.depths seen.stack
  { node := seen.node
    stack := seen.stack.oldestFirst
    callDepth := seen.callDepth
    frames := seen.frames.reverse
    stopped := seen.stopped
    watched := plan.watch.map fun node =>
      ⟨node, Frame.variableName? seen.frames node,
        depths.map (Frame.lookup? seen.frames seen.store node)⟩
    visible :=
      if plan.showVisible then some (depths.map (Frame.visibleVariables seen.frames seen.store))
      else none }

/-- The pauses of a trace, oldest first. -/
def pausesOf (trace : List Occurrence) : List Snapshot :=
  trace.reverse.filterMap fun
    | .paused snapshot _ => some snapshot
    | _ => none

/-- Number the runs of deliveries by their first appearance. -/
def reportEvents (heard : List Nat) : List Delivery → List EventReport × List Nat
  | [] => ([], heard)
  | delivery :: rest =>
    let event := delivery.event
    let known := if heard.contains event.run then heard else heard ++ [event.run]
    let (reports, final) := reportEvents known rest
    (⟨delivery.listener, event.kind, event.script, known.idxOf event.run⟩ :: reports, final)

/-- Take what piled up since the last report. -/
def takePile (session : Session) : Pile × Session :=
  let machine := session.machine
  let bench := machine.host.world
  let board := session.workspace.board
  let (events, runsHeard) := reportEvents session.runsHeard board.deliveries.reverse
  let pile : Pile :=
    { pauses := (pausesOf machine.trace).map (reportPause session.pausePlan)
      events
      log := bench.log.reverse }
  let cleared : Machine Bench :=
    { machine with host := { machine.host with world := { bench with log := [] } }, trace := [] }
  (pile,
    { session with
      workspace :=
        { session.workspace with machine := cleared, board := { board with deliveries := [] } }
      runsHeard })

/-- Show a script. -/
def viewScript (session : Session) (number : Nat) : ScriptView :=
  let script := session.graph.script number
  let board := session.workspace.board
  { script
    libraries := script.libraries.map fun library => (session.graph.script library).name
    status := session.workspace.status number
    listeners := (script.host.map fun host => (board.listeners host).length).getD 0
    description := session.graph.describe session.workspace number }

/-- Show what a node does. -/
def viewInstruction (session : Session) (tree : Tree Bench) (node : NodeId)
    (instruction : Instruction Bench) : InstructionView :=
  { isDeclaration := instruction.isDeclaration
    isTracked := instruction.isTracked
    construct :=
      match instruction with
      | .expression (.construct construct _) => some construct.label
      | _ => none
    variableView := instruction.declaredVariable?.map fun declaration =>
      { declaration
        owner := tree.owner node
        hasValue := (session.machine.store.current? (tree.cell node)).isSome }
    functionView := instruction.declaredFunction?.map fun declaration =>
      { declaration, layout := tree.functionLayout node } }

/-- Show a node. -/
def viewNode (session : Session) (tree : Tree Bench) (node : NodeId) : NodeView :=
  { children := tree.children node
    position := tree.position? node
    isRoot := (tree.rootLayout? node).isSome
    statements := tree.statements node
    instruction := (tree.instruction node).map (session.viewInstruction tree node) }

/-- Show the innermost error scope. -/
def viewErrorScope (machine : Machine Bench) : ErrorScopeView :=
  let scope := machine.scopes.headD { }
  { error := scope.primary
    node := scope.node
    shouldStop := machine.shouldStop
    parentShouldStop := machine.closeScope.shouldStop }

end Treewalk.Session
