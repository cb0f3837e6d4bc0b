import Treewalk.Script.Lifecycle
import Treewalk.Session.Inspect

/-!
# Sessions

A session performs commands one after the other. Nothing outlives a session, and two sessions from
one plan answer the same commands alike.
-/

namespace Treewalk.Session

/-- How many walks a command may nest in each other: more than any memory holds. -/
def horizon : Nat := 1152921504606846976

/-- Run a computation on the workspace and answer with its result. -/
def run {Result : Type} (body : Exec (Workspace Bench) Result) (reply : Result → Reply)
    (session : Session) : Reply × Session :=
  match body session.workspace with
  | .done result workspace => (reply result, { session with workspace })
  | .failed fault workspace => (.failed fault, { session with workspace })
  | .exhausted _ => (.exhausted, session)

/-- Run a computation on the machine and answer with its result. -/
def runMachine {Result : Type} (body : Exec (Machine Bench) Result) (reply : Result → Reply)
    (session : Session) : Reply × Session :=
  session.run (Workspace.onMachine body) reply

/-- Act on the bindings of a declaration. -/
def actOnBinding (session : Session) (tree : Tree Bench) (node : NodeId)
    (declaration : VariableDeclaration) (act : BindingAct) : Reply × Session :=
  let cell := tree.cell node
  let store := session.machine.store
  let withStore (changed : Store) : Session :=
    session.onMachine fun machine => { machine with store := changed }
  match act with
  | .push value =>
    let pushed := store.push cell value
    (.count (pushed.depth cell), withStore pushed)
  | .pop => (.binding (store.current? cell), withStore (store.pop cell))
  | .current => (.binding (store.current? cell), session)
  | .peek offset => (.binding (store.peek? cell offset), session)
  | .oldest => (.binding (store.oldest? cell), session)
  | .replace value =>
    session.runMachine (Machine.write .assignment declaration.name cell value) fun _ => .done
  | .depth => (.count (store.depth cell), session)

/-- Perform a command that carries no others. -/
def act (session : Session) (nested : Bool) : Action → Reply × Session
  | .process script => session.run (session.graph.process horizon script) .flow
  | .prepare script skipSelf =>
    session.run (session.graph.prepare horizon script skipSelf) fun _ => .done
  | .close script =>
    (.done, { session with workspace := session.graph.close script session.workspace })
  | .setArgument script value =>
    (.done,
      { session with
        workspace := session.workspace.amend script fun status =>
          { status with argument := some value } })
  | .showScript script => (.script (session.viewScript script), session)
  | .findPath script node => (.path (session.graph.pathTo script node), session)
  | .subscribe host plan =>
    (.done,
      { session with
        workspace :=
          { session.workspace with
            board := session.workspace.board.subscribe host (plan.listener host) } })
  | .emit host script kind =>
    let (run, board) := session.workspace.board.freshRun
    (.done,
      { session with
        workspace := { session.workspace with board := board.emit host ⟨kind, script, run⟩ } })
  | .showHost host =>
    let board := session.workspace.board
    (.host (board.listeners host).length (board.describe host), session)
  | .processNode tree argument node =>
    let program : Program Bench := { tree := session.tree tree, argument }
    session.runMachine (program.process horizon node) .flow
  | .evaluateNode tree argument node =>
    let program : Program Bench := { tree := session.tree tree, argument }
    session.runMachine (program.eval horizon node) .value
  | .processBlock tree argument statements =>
    let program : Program Bench := { tree := session.tree tree, argument }
    session.runMachine (program.processStatements horizon statements) .flow
  | .showTree tree => (.tree (session.tree tree).nodes.size, session)
  | .showNode tree node => (.node (session.viewNode (session.tree tree) node), session)
  | .showLayout tree scope => (.layout ((session.tree tree).layout? scope), session)
  | .actOnBinding number node act =>
    let tree := session.tree number
    match tree.variableAt? node with
    | some declaration => session.actOnBinding tree node declaration act
    | none => (.binding none, session)
  | .enterNode node =>
    let entered := session.onMachine (Machine.enter node)
    (.position entered.machine.monitor.stack.oldestFirst entered.machine.shouldStop, entered)
  | .leaveNode node =>
    let left := session.onMachine (Machine.leave node)
    (.position left.machine.monitor.stack.oldestFirst left.machine.shouldStop, left)
  | .enterFrame tree layoutOf scope =>
    let layout := ((session.tree tree).layout? layoutOf).getD .empty
    session.runMachine (Machine.enterFrame (scope.getD layout.owner) layout.debugInfo)
      fun _ => .done
  | .exitFrame => (.done, session.onMachine Machine.exitFrame)
  | .showStack => (.stack session.machine.monitor.stack.oldestFirst, session)
  | .askStop => (.truth session.machine.shouldStop, session)
  | .lookUp node depths =>
    let monitor := session.machine.monitor
    let values := (lookingFrom depths monitor.stack).map
      (Frame.lookup? monitor.frames session.machine.store node)
    (.bindings values, session)
  | .handFault fault => session.runMachine (Machine.hand fault) fun _ => .done
  | .notify => (.done, session)
  | .showState => (.state (session.survey nested), session)
  | .moveSharedSignal raised =>
    (.truth raised,
      session.onMachine fun machine =>
        { machine with host := { machine.host with halted := raised } })
  | .moveSignal raised =>
    let moved := session.onMachine (Machine.signal raised)
    (.truth moved.machine.stopped, moved)
  | .showErrorScope => (.errorScope (viewErrorScope session.machine), session)
  | .replaceMonitor plan =>
    (.done,
      { session.onMonitor fun _ => plan.monitor with pausePlan := plan.pause.getD { } })
  | .showMonitor =>
    let monitor := session.machine.monitor
    (.monitor (monitor.describe session.machine.stopped) monitor.policy.describe, session)
  | .takeErrors =>
    (.faults session.machine.monitor.errors,
      session.onMonitor fun monitor => { monitor with errors := [] })
  | .addBreakpoint node => (.done, session.onMonitor (·.addBreakpoint node))
  | .removeBreakpoint node =>
    (.truth (session.machine.monitor.breakpoints.contains node),
      session.onMonitor (·.removeBreakpoint node))
  | .setPause plan =>
    (.done, { session.onMonitor (·.setPauseHook plan.hook) with pausePlan := plan })
  | .nameVariable node =>
    (.label (Frame.variableName? session.machine.monitor.frames node), session)
  | .showVisible depths =>
    let monitor := session.machine.monitor
    let entries := (lookingFrom depths monitor.stack).map
      (Frame.visibleVariables monitor.frames session.machine.store)
    (.visible entries, session)

mutual

/-- Perform a command and the commands it carries. -/
def answer (session : Session) (nested : Bool) : Command → Reply × Session
  | .act action => session.act nested action
  | .activate tree scope callSite reenter inside =>
    let layout := ((session.tree tree).layout? scope).getD .empty
    let activation : Activation := { layout, callSite, ownsBindings := !reenter }
    match session.runMachine activation.enter fun _ => .done with
    | (.done, entered) =>
      let (pile, cleared) := entered.takePile
      let (reports, after) := performAll cleared true inside
      (.activated layout.owner pile reports, after.onMachine activation.exit)
    | refused => refused
  | .protect inside =>
    let (reports, after) := performAll (session.onMachine Machine.openScope) true inside
    let caught := after.machine.scopes.head?.bind (·.error)
    (.guarded reports caught, after.onMachine Machine.closeScope)

/-- Perform a command and report it with what piled up. -/
def perform (session : Session) (nested : Bool) (command : Command) : Report × Session :=
  let (reply, after) := answer session nested command
  let (pile, cleared) := after.takePile
  let survey := if command.surveysAfter then some (cleared.survey nested) else none
  (.of reply pile survey, cleared)

/-- Perform commands in order. -/
def performAll (session : Session) (nested : Bool) :
    List Command → List Report × Session
  | [] => ([], session)
  | command :: rest =>
    let (report, after) := perform session nested command
    let (reports, final) := performAll after nested rest
    (report :: reports, final)

end

/-- The sum of the numbers up to a bound, one call deeper for each: a probe of how deep calls may
nest. -/
def deepSum : Nat → Nat
  | 0 => 0
  | bound + 1 => deepSum bound + (bound + 1)

end Treewalk.Session
