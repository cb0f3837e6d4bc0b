import Treewalk.Proofs.Guards
import Treewalk.Proofs.LoadOrder
import Treewalk.Proofs.ScriptCongruence

/-!
# The order in which libraries run

A run of a script runs the declarations of the libraries below it, one library after the other, and
then the root block of the script. `Machine.Conducted` describes each of these steps: a body is
announced and run to its end, with the same frames of scripts in the log all the time, and nothing
else happens. `ScriptGraph.Loaded` is the state of affairs when the libraries in an order have been
run. Preparing a script goes on from there in the order in which the libraries below it are loaded.
-/

namespace Treewalk

variable {World Result : Type}

/-- On top of a log there are frames of calls, and none of a script. -/
def Frame.CallsUpon (log frames : List Frame) : Prop :=
  ∃ calls, frames = calls ++ log ∧ ∀ frame ∈ calls, ∀ root, frame.scope ≠ .script root

/-- Where this shows the frames that were logged, there were only frames of calls on top of a log;
and it is no opening of a script or a library. -/
def Occurrence.SeenUpon (log : List Frame) : Occurrence → Prop
  | .entered _ frames => Frame.CallsUpon log frames
  | .paused snapshot _ => Frame.CallsUpon log snapshot.frames
  | .scriptOpened .. => False
  | .libraryOpened .. => False
  | _ => True

namespace Machine

variable {before after : Machine World} {log : List Frame}

/-- What may be noted while no script is entered or left. -/
def showing (log : List Frame) : Guard World where
  Holds machine := Frame.CallsUpon log machine.monitor.frames
  Allowed := Occurrence.SeenUpon log
  stable holds frames _ := by
    rw [frames]
    exact holds
  allows holds occurrence noted := by
    cases occurrence with
    | entered node frames =>
      obtain ⟨-, rfl⟩ := noted
      exact holds
    | paused snapshot action =>
      have same : snapshot.frames = _ := noted.2
      simp only [Occurrence.SeenUpon, same]
      exact holds
    | scriptOpened => cases noted
    | libraryOpened => cases noted
    | _ => trivial

/-- The scope of a function is no script. -/
theorem showing_call (tree : Tree World) (callee site : NodeId) {body : Exec (Machine World) Result}
    (kept : (showing log).contract.Kept body) :
    (showing log).contract.Kept (Activation.within
      { layout := tree.functionLayout callee, callSite := some site } body) := by
  refine Guard.kept_within _ kept ?_ (fun _ _ => trivial) fun _ seen => seen
  rintro before ⟨calls, logged, unscripted⟩
  refine ⟨⟨(tree.functionLayout callee).owner, before.monitor.stack.depth,
    (tree.functionLayout callee).debugInfo⟩ :: calls, congrArg (List.cons _) logged, ?_⟩
  intro frame member root
  rcases List.mem_cons.mp member with rfl | older
  · rcases tree.functionLayout_cases callee with ⟨-, owned⟩ | blank
    · simp [owned]
    · simp [blank, Layout.empty]
  · exact unscripted frame older root

/-- The evaluator enters and leaves no scripts. -/
theorem showing_upheld (log : List Frame) (program : Program World) :
    (showing log).contract.Upheld program where
  raises_ofCause _ := trivial
  poll := Guard.kept_poll
  write _ name _ value := Guard.kept_write (fun _ _ _ => trivial) name value
  invoke := Guard.kept_invoke
  hand _ := Guard.kept_hand _
  handFrom statement _ _ _ := Guard.kept_handFrom statement _
  tracked _ _ _ kept := Guard.kept_tracked trivial kept
  protect kept := Guard.kept_protect kept
  call site callee _ _ _ _ kept := showing_call program.tree callee site kept

/-- The log with a frame for each layout on top, all of them entered at once. -/
def logging (machine : Machine World) (layouts : List Layout) : List Frame :=
  (layouts.map fun layout =>
    ⟨layout.owner, machine.monitor.stack.depth, layout.debugInfo⟩).reverse ++ machine.monitor.frames

/-- Nothing has happened, except that bindings and frames may have been opened or closed. -/
structure Resumes (before after : Machine World) : Prop where
  host : after.host = before.host
  scopes : after.scopes = before.scopes
  trace : after.trace = before.trace

/-- Resuming can be followed along a run. -/
theorem Resumes.trans {first second third : Machine World} (earlier : first.Resumes second)
    (later : second.Resumes third) : first.Resumes third where
  host := later.host.trans earlier.host
  scopes := later.scopes.trans earlier.scopes
  trace := later.trace.trans earlier.trace

/-- Scripts are entered without a call site, so entering them is not noted. -/
theorem resumes_opened (layout : Layout) (ownsBindings : Bool) (machine : Machine World) :
    machine.Resumes (Activation.opened { layout, ownsBindings } machine) := by
  cases ownsBindings <;> exact ⟨rfl, rfl, rfl⟩

/-- Leaving a scope of a script takes its frame away, and no more. -/
theorem resumes_exit (layout : Layout) (ownsBindings : Bool) (machine : Machine World) :
    machine.Resumes (Activation.exit { layout, ownsBindings } machine) := by
  cases ownsBindings <;> exact ⟨rfl, rfl, rfl⟩

/-- Opening a scope of a script logs its frame on top of those to come. -/
theorem logging_opened (layout : Layout) (ownsBindings : Bool) (rest : List Layout)
    (machine : Machine World) :
    (Activation.opened { layout, ownsBindings } machine).logging rest =
      machine.logging (layout :: rest) := by
  simp [logging, Activation.opened, Activation.framed, Monitor.logFrame]

/-- From one machine to another, a body was announced and run to its end, and nothing else happened.
All that the body noted was noted with the log of the announcement and no other frames of scripts on
top. -/
def Conducted (announcement : List Frame → Store → Occurrence) (log : List Frame)
    (body : Exec (Machine World) Result) (before after : Machine World) : Prop :=
  ∃ (opened ended : Machine World) (result : Result) (during : List Occurrence),
    before.Resumes opened ∧ opened.monitor.frames = log ∧
    body (opened.note (announcement log opened.store)) = .done result ended ∧
    ended.trace = during ++ announcement log opened.store :: before.trace ∧
    (∀ occurrence ∈ during, occurrence.SeenUpon log) ∧ ended.Resumes after

/-- What happens around a body does not change how it was conducted. -/
theorem Conducted.of_resumes {announcement : List Frame → Store → Occurrence}
    {body : Exec (Machine World) Result} {first last : Machine World}
    (conducted : Conducted announcement log body before after) (enters : first.Resumes before)
    (leaves : after.Resumes last) : Conducted announcement log body first last := by
  obtain ⟨opened, ended, result, during, resumes, logged, ran, trace, seen, left⟩ := conducted
  rw [enters.trace] at trace
  exact ⟨opened, ended, result, during, enters.trans resumes, logged, ran, trace, seen,
    left.trans leaves⟩

/-- Announcing and running a body in the scope of a script and among the frames of others. -/
theorem conducted_amongFrames {layouts : List Layout} {layout : Layout} {ownsBindings : Bool}
    {announcement : List Frame → Store → Occurrence} {body : Exec (Machine World) Result}
    (kept : ∀ log, (showing log).contract.Kept body) {result : Result}
    (done : Activation.withinFrames layouts (Activation.within { layout, ownsBindings } do
      Exec.update fun machine => machine.note (announcement machine.monitor.frames machine.store)
      body) before = .done result after) :
    Conducted announcement (before.logging (layouts ++ [layout])) body before after := by
  induction layouts generalizing before after with
  | nil =>
    obtain ⟨inside, ran, rfl⟩ := Activation.exists_of_within_done done
    let opened := Activation.opened { layout, ownsBindings } before
    have logged : opened.monitor.frames = before.logging [layout] := rfl
    let announced := opened.note (announcement opened.monitor.frames opened.store)
    have ended : body announced = .done result inside := ran
    have resumes : before.Resumes opened := resumes_opened layout ownsBindings before
    have finished := kept (before.logging [layout]) announced
    rw [ended] at finished
    obtain ⟨during, trace, seen⟩ := (finished.2 ⟨[], logged, List.forall_mem_nil _⟩).trace
    refine ⟨opened, inside, result, during, resumes, logged, ended, ?_, seen,
      resumes_exit layout ownsBindings inside⟩
    rw [trace, ← resumes.trace]
    rfl
  | cons outermost rest inductionHypothesis =>
    obtain ⟨inside, ran, rfl⟩ := Activation.exists_of_within_done done
    have conducted := inductionHypothesis ran
    rw [logging_opened] at conducted
    exact conducted.of_resumes (resumes_opened outermost false before)
      (resumes_exit outermost false inside)

end Machine

/-- What is done on the machine leaves the rest of the workspace alone. -/
theorem Workspace.exists_of_onMachine_done {body : Exec (Machine World) Result}
    {before after : Workspace World} {result : Result}
    (done : onMachine body before = .done result after) :
    ∃ machine, body before.machine = .done result machine ∧ after = { before with machine } := by
  simp only [onMachine, Exec.zoom] at done
  cases ended : body before.machine with
  | done answer machine =>
    rw [ended] at done
    cases done
    exact ⟨machine, rfl, rfl⟩
  | failed fault machine =>
    rw [ended] at done
    cases done
  | exhausted machine =>
    rw [ended] at done
    cases done

namespace ScriptGraph

open Machine Workspace

variable {graph : ScriptGraph World} {tree : Tree World} {number fuel : Nat} {order : List Nat}
  {start before between after : Workspace World} {Pending : Nat → Prop}

/-- The root of a script is registered in its tree. -/
def HasRoot (graph : ScriptGraph World) (number : Nat) : Prop :=
  ∃ layout, (graph.script number).tree.rootLayout? (graph.script number).root = some layout

/-- What the frames of a script record. -/
def rootRecords (graph : ScriptGraph World) (number : Nat) : List Variable :=
  match (graph.script number).tree.rootLayout? (graph.script number).root with
  | some layout => layout.debugInfo
  | none => []

/-- The log with a frame for each script on top, the last one newest, all entered at once. -/
def logOf (graph : ScriptGraph World) (machine : Machine World) (numbers : List Nat) :
    List Frame :=
  (numbers.map fun number =>
    ⟨.script (graph.script number).root, machine.monitor.stack.depth,
      graph.rootRecords number⟩).reverse ++ machine.monitor.frames

/-- Frames for registered layouts are the frames of their scripts. -/
theorem logging_rootLayouts (machine : Machine World) {numbers : List Nat}
    (registered : ∀ number ∈ numbers, graph.HasRoot number) :
    machine.logging (graph.rootLayouts numbers) = graph.logOf machine numbers := by
  simp only [logging, logOf]
  congr 2
  induction numbers with
  | nil => rfl
  | cons first rest inductionHypothesis =>
    obtain ⟨⟨layout, found⟩, others⟩ := List.forall_mem_cons.mp registered
    have remaining := inductionHypothesis others
    simp only [rootLayouts] at remaining ⊢
    have records : graph.rootRecords first = layout.debugInfo := by
      simp only [rootRecords, found]
    rw [List.flatMap_cons, List.map_append, List.map_cons, remaining, found, records,
      ← (Tree.rootLayout?_eq_some found).2]
    rfl

/-- Binding a library marks it as bound and leaves the other scripts alone. -/
theorem status_bindLibrary (number other : Nat) (layout : Layout) (workspace : Workspace World) :
    (bindLibrary number layout workspace).status other =
      if other = number then { workspace.status number with libraryBound := true }
      else workspace.status other :=
  status_amend number other _

/-- From one machine to another, the declarations of a script were run with the frames of the
libraries below it and its own in the log. -/
def DeclarationsConducted (graph : ScriptGraph World) (fuel : Nat) (start : Workspace World)
    (number : Nat) (below : List Nat) : Machine World → Machine World → Prop :=
  let script := graph.script number
  let program := program script (start.status number)
  Conducted (.libraryOpened script.root) (graph.logOf start.machine (below ++ [number]))
    (program.runDeclarations (program.process fuel) (script.tree.statements script.root))

/-- From one machine to another, the root block of a script was run with the frames of the libraries
below it and its own in the log. -/
def RootConducted (graph : ScriptGraph World) (fuel : Nat) (start : Workspace World)
    (number : Nat) (below : List Nat) : Machine World → Machine World → Prop :=
  let script := graph.script number
  Conducted (.scriptOpened script.root) (graph.logOf start.machine (below ++ [number]))
    ((program script (start.status number)).process fuel script.root)

/-- From the start on, the declarations of the libraries in an order were run one after the other,
each library with those below it in the log. -/
inductive LibrariesConducted (graph : ScriptGraph World) (fuel : Nat) (start : Workspace World) :
    List Nat → Machine World → Prop where
  | nil : LibrariesConducted graph fuel start [] start.machine
  | snoc {order : List Nat} {library : Nat} {below : List Nat} {before after : Machine World}
      (earlier : LibrariesConducted graph fuel start order before)
      (isLoadOrder : graph.IsLoadOrder library below)
      (conducted : graph.DeclarationsConducted fuel start library below before after) :
      LibrariesConducted graph fuel start (order ++ [library]) after

/-- The libraries in an order have been run, and nothing else was noted. Apart from them, those
scripts are initialized that are being prepared. -/
structure Loaded (graph : ScriptGraph World) (fuel : Nat) (start : Workspace World)
    (Pending : Nat → Prop) (order : List Nat) (workspace : Workspace World) : Prop where
  ordered : graph.Ordered order
  registered : ∀ number ∈ order, graph.HasRoot number
  initialized : ∀ number,
    (workspace.status number).initialized = true ↔ number ∈ order ∨ Pending number
  libraryBound : ∀ number, (workspace.status number).libraryBound = true ↔ number ∈ order
  argument : ∀ number, (workspace.status number).argument = (start.status number).argument
  stack : workspace.machine.monitor.stack = start.machine.monitor.stack
  frames : workspace.machine.monitor.frames = start.machine.monitor.frames
  conducted : graph.LibrariesConducted fuel start order workspace.machine

namespace Loaded

/-- Whether scripts have been run is no matter of the libraries. -/
theorem aside (loaded : graph.Loaded fuel start Pending order before)
    (machine : after.machine = before.machine)
    (status : ∀ number, ∃ hasRun, after.status number = { before.status number with hasRun }) :
    graph.Loaded fuel start Pending order after where
  ordered := loaded.ordered
  registered := loaded.registered
  initialized number := by
    obtain ⟨hasRun, same⟩ := status number
    rw [same]
    exact loaded.initialized number
  libraryBound number := by
    obtain ⟨hasRun, same⟩ := status number
    rw [same]
    exact loaded.libraryBound number
  argument number := by
    obtain ⟨hasRun, same⟩ := status number
    rw [same]
    exact loaded.argument number
  stack := by
    rw [machine]
    exact loaded.stack
  frames := by
    rw [machine]
    exact loaded.frames
  conducted := by
    rw [machine]
    exact loaded.conducted

/-- Events are no business of the load order. -/
theorem announced (loaded : graph.Loaded fuel start Pending order before) (board : EventBoard)
    (script : Script World) (event : Event) :
    graph.Loaded fuel start Pending order ({ before with board }.announce script event) := by
  refine loaded.aside (machine_announce script event _) fun number =>
    ⟨(before.status number).hasRun, ?_⟩
  rw [Workspace.status, statuses_announce]
  rfl

/-- Marking a script as run is no business of the load order. -/
theorem started (loaded : graph.Loaded fuel start Pending order before) (number : Nat) :
    graph.Loaded fuel start Pending order
      (before.amend number fun status => { status with hasRun := true }) := by
  refine loaded.aside rfl fun other => ?_
  rw [status_amend]
  split
  · next same => exact ⟨true, by rw [same]⟩
  · exact ⟨(before.status other).hasRun, rfl⟩

/-- Nothing is loaded before anything is run. -/
theorem of_untouched (untouched : start.Untouched) :
    graph.Loaded fuel start (fun _ => False) [] start where
  ordered := .nil
  registered := List.forall_mem_nil _
  initialized number := by simp [untouched.initialized]
  libraryBound number := by simp [untouched.libraryBound]
  argument _ := rfl
  stack := rfl
  frames := rfl
  conducted := .nil

/-- A script that is flagged is pending until its libraries are loaded. -/
theorem flag (loaded : graph.Loaded fuel start Pending order before) (number : Nat) :
    graph.Loaded fuel start (fun other => Pending other ∨ other = number) order
      (flag number before) where
  ordered := loaded.ordered
  registered := loaded.registered
  initialized other := by
    rw [initialized_flag_iff, loaded.initialized, or_assoc]
  libraryBound other := by
    rw [libraryBound_flag, loaded.libraryBound]
  argument other := by
    rw [status_amend, ← loaded.argument other]
    split
    · next same => rw [same]
    · rfl
  stack := loaded.stack
  frames := loaded.frames
  conducted := loaded.conducted

/-- The log of a load is what it is for the machine that the load started from. -/
theorem logOf_eq (loaded : graph.Loaded fuel start Pending order before) (numbers : List Nat) :
    graph.logOf before.machine numbers = graph.logOf start.machine numbers := by
  simp only [logOf, loaded.stack, loaded.frames]

/-- A script that is to be loaded next finds everything below it loaded. -/
theorem mem_of_below (loaded : graph.Loaded fuel start Pending order before)
    (included : ∀ library, graph.Includes number library → library ∈ order) {library : Nat}
    (below : Relation.TransGen graph.Includes number library) : library ∈ order := by
  obtain ⟨first, member, reaches⟩ := below_iff.mp below
  exact loaded.ordered.reaches (included first.1 (includes_of_mem member)) reaches

/-- A body that is run in the scope of a script whose libraries have been run has their frames and
the frame of the script in the log. -/
theorem conducted_next (loaded : graph.Loaded fuel start Pending order before)
    (inhabits : graph.Inhabits tree)
    (included : ∀ library, graph.Includes number library → library ∈ order) {layout : Layout}
    (registered :
      (graph.script number).tree.rootLayout? (graph.script number).root = some layout)
    {ownsBindings : Bool} {announcement : List Frame → Store → Occurrence}
    {body : Exec (Machine World) Result} (kept : ∀ log, (showing log).contract.Kept body)
    {result : Result} {reached : Workspace World}
    (bound : ∀ library, library ∈ order → (reached.status library).libraryBound = true)
    (monitor : reached.machine.monitor = before.machine.monitor)
    {machine : Machine World}
    (done : Activation.withinFrames (graph.libraryLayouts reached number)
      (Activation.within { layout, ownsBindings } do
        Exec.update fun machine => machine.note (announcement machine.monitor.frames machine.store)
        body) reached.machine = .done result machine) :
    Conducted announcement (graph.logOf start.machine (graph.loadInto number [] ++ [number])) body
      reached.machine machine := by
  have below := graph.isLoadOrder_loadInto number
  have layouts := libraryLayouts_eq inhabits (known_of_registered registered)
    fun library reaches => bound library (loaded.mem_of_below included reaches)
  have allRegistered : ∀ other ∈ graph.loadInto number [] ++ [number], graph.HasRoot other := by
    intro other listed
    rcases List.mem_append.mp listed with library | last
    · exact loaded.registered other
        (loaded.mem_of_below included ((below.mem_iff other).mp library))
    · rw [List.mem_singleton.mp last]
      exact ⟨layout, registered⟩
  have log : reached.machine.logging (graph.libraryLayouts reached number ++ [layout]) =
      graph.logOf start.machine (graph.loadInto number [] ++ [number]) := by
    have own : graph.rootLayouts [number] = [layout] := by simp [rootLayouts, registered]
    have together : graph.rootLayouts (graph.loadInto number [] ++ [number]) =
        graph.libraryLayouts reached number ++ [layout] := by
      rw [layouts, ← own]
      exact List.flatMap_append
    rw [← together, logging_rootLayouts _ allRegistered, ← loaded.logOf_eq]
    simp only [logOf, monitor]
  rw [← log]
  exact conducted_amongFrames kept done

/-- The declarations of a script whose libraries have been run are run. -/
theorem declarations (loaded : graph.Loaded fuel start Pending order before)
    (inhabits : graph.Inhabits tree)
    (included : ∀ library, graph.Includes number library → library ∈ order) {layout : Layout}
    (registered :
      (graph.script number).tree.rootLayout? (graph.script number).root = some layout)
    (done : graph.declare fuel number before = .done () after) :
    graph.DeclarationsConducted fuel start number (graph.loadInto number []) before.machine
      after.machine := by
  rw [ScriptGraph.declare, Exec.bind_apply, rootLayout_apply, registered] at done
  let bound := bindLibrary number layout before
  have sameProgram : program (graph.script number) (bound.status number) =
      program (graph.script number) (start.status number) := by
    have argument : (bound.status number).argument = (start.status number).argument := by
      rw [status_bindLibrary, if_pos rfl]
      exact loaded.argument number
    simp only [program, argument]
  have libraryBound (library : Nat) (listed : library ∈ order) :
      (bound.status library).libraryBound = true := by
    rw [status_bindLibrary]
    split
    · rfl
    · exact (loaded.libraryBound library).mpr listed
  have ran : onMachine (graph.declaring fuel number (bound.status number)
      (graph.libraryLayouts bound number) layout) bound = .done () after := done
  obtain ⟨machine, inside, rfl⟩ := exists_of_onMachine_done ran
  simp only [declaring, sameProgram] at inside
  have conducted := loaded.conducted_next inhabits included registered
    (fun log => (showing_upheld log _).runDeclarations fuel _) libraryBound rfl inside
  exact conducted.of_resumes ⟨rfl, rfl, rfl⟩ ⟨rfl, rfl, rfl⟩

/-- A script whose libraries have been run is run as a library itself. -/
theorem declare (inhabits : graph.Inhabits tree)
    (loaded : graph.Loaded fuel start (fun other => Pending other ∨ other = number) order before)
    (fresh : number ∉ order)
    (included : ∀ library, graph.Includes number library → library ∈ order)
    (done : graph.declare fuel number before = .done () after) :
    graph.Loaded fuel start Pending (order ++ [number]) after := by
  cases registered : (graph.script number).tree.rootLayout? (graph.script number).root with
  | none =>
    rw [declare_unregistered registered] at done
    cases done
  | some layout =>
    have ended : (graph.declare fuel number before).final? = some after :=
      congrArg Outcome.final? done
    have declared := declared_of_declare registered ended
    have balanced := (balancing_declare graph fuel number before).finished ended
    have conducted := loaded.declarations inhabits included registered done
    refine ⟨loaded.ordered.snoc fresh included, ?_, ?_, ?_, ?_, ?_, ?_, ?_⟩
    · intro other listed
      rcases List.mem_append.mp listed with earlier | last
      · exact loaded.registered other earlier
      · rw [List.mem_singleton.mp last]
        exact ⟨layout, registered⟩
    · intro other
      have unchanged : (after.status other).initialized = (before.status other).initialized := by
        rw [declared.status]
        split
        · next same => rw [same]
        · rfl
      rw [unchanged, loaded.initialized, List.mem_append, List.mem_singleton]
      tauto
    · intro other
      rw [declared.status, List.mem_append, List.mem_singleton, ← loaded.libraryBound]
      split
      · next same => simp [same]
      · next different => simp [different]
    · intro other
      rw [declared.status, ← loaded.argument other]
      split
      · next same => rw [same]
      · rfl
    · exact balanced.stack.trans loaded.stack
    · exact balanced.frames.trans loaded.frames
    · exact loaded.conducted.snoc (graph.isLoadOrder_loadInto number) conducted

/-- Libraries in a list are run one after the other, those that have not been yet. -/
theorem libraries {libraries : List { library // library < number }}
    (prepares : ∀ library < number, ∀ order (before after : Workspace World),
      graph.Loaded fuel start Pending order before → library ∉ order →
      graph.prepare fuel library false before = .done () after →
      graph.Loaded fuel start Pending (graph.loadInto library order ++ [library]) after)
    (above : Above Pending number) (loaded : graph.Loaded fuel start Pending order before)
    (done : (libraries.forM fun library =>
      unlessInitialized library.1 (graph.prepare fuel library.1 false)) before = .done () after) :
    graph.Loaded fuel start Pending
      (libraries.foldl (fun before library => graph.load before library.1) order) after := by
  induction libraries generalizing before order with
  | nil =>
    cases done
    exact loaded
  | cons first rest inductionHypothesis =>
    obtain ⟨_, between, ended, continued⟩ := Exec.exists_of_bind_done done
    refine inductionHypothesis ?_ continued
    have marked : (before.status first.1).initialized = true ↔ first.1 ∈ order := by
      rw [loaded.initialized]
      exact or_iff_left (above.not_pending first.2)
    change (if (before.status first.1).initialized then pure ()
      else graph.prepare fuel first.1 false) before = _ at ended
    simp only [load, ← marked]
    split at ended
    · next already =>
      cases ended
      rw [if_pos already]
      exact loaded
    · next uninitialized =>
      rw [if_neg uninitialized]
      exact prepares first.1 first.2 order before between loaded (mt marked.mpr uninitialized) ended

/-- Preparing a script runs the libraries below it in the order in which they are loaded. -/
theorem below (inhabits : graph.Inhabits tree) (above : Above Pending number)
    (loaded : graph.Loaded fuel start Pending order before)
    (done : ((graph.libraries number).forM fun library =>
      unlessInitialized library.1 (graph.prepare fuel library.1 false)) before = .done () after) :
    graph.Loaded fuel start Pending (graph.loadInto number order) after := by
  induction number using Nat.strongRecOn generalizing Pending order before after with
  | ind number inductionHypothesis =>
    rw [loadInto_eq]
    refine loaded.libraries ?_ above done
    intro library smaller order before after loaded unlisted prepared
    rw [prepare_apply] at prepared
    obtain ⟨_, between, descended, declared⟩ := Exec.exists_of_bind_done prepared
    have prepared := inductionHypothesis library smaller (above.descend smaller)
      (loaded.flag library) descended
    have continued := continued_loadInto loaded.ordered library
    exact prepared.declare inhabits (continued.not_mem_self unlisted)
      (fun _ => continued.mem_of_includes) declared

/-- Then the root block of the script is run. -/
theorem runRoot (inhabits : graph.Inhabits tree)
    (loaded : graph.Loaded fuel start Pending (graph.loadInto number []) before) {flow : Flow}
    (done : graph.runRoot fuel number before = .done flow after) :
    graph.RootConducted fuel start number (graph.loadInto number []) before.machine
      after.machine := by
  cases registered : (graph.script number).tree.rootLayout? (graph.script number).root with
  | none =>
    rw [runRoot_unregistered registered] at done
    cases done
  | some layout =>
    rw [ScriptGraph.runRoot, Exec.bind_apply, rootLayout_apply, registered] at done
    have sameProgram : program (graph.script number) (before.status number) =
        program (graph.script number) (start.status number) := by
      simp only [program, loaded.argument number]
    have ran : onMachine (graph.rooting fuel number (before.status number)
        (graph.libraryLayouts before number) layout) before = .done flow after := done
    obtain ⟨machine, inside, rfl⟩ := exists_of_onMachine_done ran
    simp only [rooting, sameProgram] at inside
    exact loaded.conducted_next inhabits (fun _ => (continued_loadInto .nil number).mem_of_includes)
      registered (fun log => (showing_upheld log _).process fuel _)
      (fun library listed => (loaded.libraryBound library).mpr listed) rfl inside

end Loaded

/-- A run that is done has run the libraries below the script in the order in which they are loaded
and then the root block of the script. -/
theorem conducted_run (inhabits : graph.Inhabits tree)
    (loaded : graph.Loaded fuel start (fun _ => False) [] before) {flow : Flow}
    (done : graph.run fuel number before = .done flow after) :
    ∃ between, graph.LibrariesConducted fuel start (graph.loadInto number []) between ∧
      graph.RootConducted fuel start number (graph.loadInto number []) between after.machine := by
  obtain ⟨_, ready, ⟨⟩, done⟩ := Exec.exists_of_bind_done done
  obtain ⟨_, _, ⟨⟩, done⟩ := Exec.exists_of_bind_done done
  have started := loaded.started number
  split at done
  · next initialized =>
    rcases (started.initialized number).mp initialized with listed | pending
    · cases listed
    · exact pending.elim
  · obtain ⟨_, prepared, preparing, running⟩ := Exec.exists_of_bind_done done
    rw [prepare_apply] at preparing
    obtain ⟨_, _, descended, ⟨⟩⟩ := Exec.exists_of_bind_done preparing
    have ready := (started.flag number).below inhabits (above_self number) descended
    exact ⟨_, ready.conducted, ready.runRoot inhabits running⟩

end ScriptGraph

/-- Library order. In an untouched graph over one tree with different roots a script is run, and the
run is done. Then it consists of running the declarations of the libraries below the script, in an
order in which each of them comes once and after all libraries that it includes, and of running the
root block of the script after that. While the declarations of a library are run, the frames of
scripts on top of the log before the run are those of the libraries below it, in such an order, and
its own. While the root block is run, they are those of the libraries in the order in which they
were run, and its own. -/
theorem library_order {graph : ScriptGraph World} {tree : Tree World}
    (inhabits : graph.Inhabits tree) {before after : Workspace World}
    (untouched : before.Untouched) {fuel main : Nat} {flow : Flow}
    (done : graph.process fuel main before = .done flow after) :
    ∃ order between, graph.IsLoadOrder main order ∧
      graph.LibrariesConducted fuel before order between ∧
      graph.RootConducted fuel before main order between after.machine := by
  obtain ⟨_, _, ⟨⟩, done⟩ := Exec.exists_of_bind_done done
  split at done
  · cases done
  · obtain ⟨_, started, ⟨⟩, done⟩ := Exec.exists_of_bind_done done
    obtain ⟨ended, ran, rfl⟩ := Exec.exists_of_ensuring_done done
    have loaded : graph.Loaded fuel before (fun _ => False) [] before := .of_untouched untouched
    obtain ⟨between, libraries, root⟩ :=
      ScriptGraph.conducted_run inhabits (loaded.announced _ _ _) ran
    rw [Workspace.machine_announce]
    exact ⟨_, between, graph.isLoadOrder_loadInto main, libraries, root⟩

/-- What has an answer that is no fault is done. -/
theorem Outcome.exists_of_isOk {State : Type} {outcome : Outcome State Result}
    (answered : outcome.result?.any (·.isOk) = true) :
    ∃ result, outcome = .done result outcome.state := by
  cases outcome with
  | done result after => exact ⟨result, rfl⟩
  | failed fault after => cases answered
  | exhausted after => cases answered

/-- A library, two that include it and read its variable, and a script that includes the two, one of
them twice. -/
def diamondTree : Tree Unit :=
  ((Builder.applyAll { }
    [.node (.expression (.literal (.int 7))),
      .node (.statement (.declareVariable ⟨"base", .plain, some ⟨0⟩⟩)),
      .root [⟨1⟩],
      .node (.expression (.read ⟨1⟩)),
      .node (.statement (.declareVariable ⟨"left", .plain, some ⟨3⟩⟩)),
      .root [⟨4⟩],
      .node (.statement (.declareVariable ⟨"right", .plain, some ⟨3⟩⟩)),
      .root [⟨6⟩],
      .node (.expression (.read ⟨4⟩)),
      .node (.statement (.leave (some ⟨8⟩))),
      .root [⟨9⟩]]).getD { }).finish 0

def diamondGraph : ScriptGraph Unit :=
  ⟨#[{ name := ⟨"base"⟩, tree := diamondTree, root := ⟨2⟩ },
    { name := ⟨"left"⟩, tree := diamondTree, root := ⟨5⟩, libraries := [0] },
    { name := ⟨"right"⟩, tree := diamondTree, root := ⟨7⟩, libraries := [0] },
    { name := ⟨"main"⟩, tree := diamondTree, root := ⟨10⟩, libraries := [2, 1, 2] }]⟩

theorem diamondGraph_inhabits : diamondGraph.Inhabits diamondTree where
  shared number known :=
    match number, known with
    | 0, _ => rfl
    | 1, _ => rfl
    | 2, _ => rfl
    | 3, _ => rfl
  distinct := by decide

/-- The run is done with the value of the library at the bottom, and four scripts were opened. -/
theorem library_order_diamond :
    let start : Workspace Unit := { machine := { host := { world := () } } }
    let outcome := diamondGraph.process 9 3 start
    outcome.result?.map (fun answer => answer.toOption.map (·.value.int?)) = some (some (some 7)) ∧
    outcome.state.machine.openings.length = 4 ∧
    ∃ order between, diamondGraph.IsLoadOrder 3 order ∧
      diamondGraph.LibrariesConducted 9 start order between ∧
      diamondGraph.RootConducted 9 start 3 order between outcome.state.machine := by
  intro start outcome
  have answered : outcome.result?.any (·.isOk) = true := by decide +kernel
  obtain ⟨flow, done⟩ := Outcome.exists_of_isOk answered
  have ordered := library_order diamondGraph_inhabits (.of_statuses rfl) done
  exact ⟨by decide +kernel, by decide +kernel, ordered⟩

end Treewalk
