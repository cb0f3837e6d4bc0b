import Treewalk.Proofs.InertDeclarations
import Treewalk.Proofs.LibraryBindings
import Treewalk.Proofs.ScriptContracts
import Treewalk.Proofs.ScriptCourses

/-!
# Function declarations in the run of a script

The evaluator arrives at no function declaration, so in the run of a script the arrivals at them are
those of the loops over the declarations of libraries and no others. Which loops these are is a
matter of the workspace: libraries are initialized one after the other, each unless it is
initialized already, and each sees to its own libraries first. `ScriptGraph.LibraryComesTo` follows
this course, from workspace to workspace, down to the machine from which the declarations of a
library are run.
-/

namespace Treewalk

variable {World Result : Type}

namespace ScriptGraph

open Contract Machine

variable {graph : ScriptGraph World} {tree : Tree World}

/-- Initialize those libraries in a list that are not initialized yet. -/
abbrev prepareLibraries (graph : ScriptGraph World) (fuel : Nat) {number : Nat}
    (libraries : List { library // library < number }) : Exec (Workspace World) Unit :=
  libraries.forM fun library => unlessInitialized library.1 (graph.prepare fuel library.1 false)

/-- The scripts live in one tree. -/
def Shares (graph : ScriptGraph World) (tree : Tree World) : Prop :=
  ∀ number < graph.scripts.size, (graph.script number).tree = tree

/-- Preparing a script, the loop over the declarations of a library comes to a node: of the script
itself, after its libraries have been seen to, or of a library below, when its turn comes and it is
not initialized yet. -/
inductive LibraryComesTo (graph : ScriptGraph World) (fuel : Nat) (node : NodeId) :
    Nat → Bool → Workspace World → Prop where
  | own {number : Nat} {before ready : Workspace World} {layout : Layout}
      (prepared : graph.prepareLibraries fuel (graph.libraries number) (flag number before) =
        .done () ready)
      (registered : (graph.script number).tree.rootLayout? (graph.script number).root = some layout)
      (comes : (graph.libraryProgram number layout ready).ComesTo
        ((graph.libraryProgram number layout ready).process fuel) node
        ((graph.script number).tree.statements (graph.script number).root)
        (graph.declarationsStart number layout ready)) :
      LibraryComesTo graph fuel node number false before
  | inLibrary {number : Nat} {skipSelf : Bool} {before ready : Workspace World}
      {earlier later : List { library // library < number }}
      {library : { library // library < number }}
      (listed : graph.libraries number = earlier ++ library :: later)
      (prepared : graph.prepareLibraries fuel earlier (flag number before) = .done () ready)
      (fresh : (ready.status library.1).initialized = false)
      (comes : LibraryComesTo graph fuel node library.1 false ready) :
      LibraryComesTo graph fuel node number skipSelf before

/-- Only adding to the trace. -/
def lengthening : Contract (Machine World) where
  Raised _ := True
  Finished before after := before.trace <:+ after.trace
  Reached before after := before.trace <:+ after.trace
  refl _ := List.suffix_refl _
  trans := List.IsSuffix.trans
  reached_of_finished finished := finished
  reached_trans := List.IsSuffix.trans

/-- Scripts take nothing back from the trace. -/
theorem lengthening_lifted (graph : ScriptGraph World) :
    (lengthening : Contract (Machine World)).Lifted graph where
  raises_unknownNode _ := trivial
  binds _ _ := List.suffix_refl _
  notes_script _ _ _ _ := List.suffix_cons _ _
  within layout ownsBindings _ body kept := by
    intro before
    let activation : Activation := { layout, ownsBindings }
    have opens : before.trace <:+ (activation.opened before).trace := by
      rw [Activation.trace_opened_uncalled]
    have closes (after : Machine World) : after.trace <:+ (activation.exit after).trace := by
      rw [Activation.trace_exit_uncalled]
    apply fulfilled_within activation (kept _) (fun _ => trivial)
    · intro limit
      have later : before.Later (fun _ => True) (activation.refused limit before) :=
        .refused before Occurrence.freely activation limit
      exact later.suffix
    · intro after inside
      exact (opens.trans inside).trans (closes after)
    · intro after inside
      exact opens.trans inside
  library number status fuel := by
    apply kept_of_finished fun _ => trivial
    intro machine
    let script := graph.script number
    let opened :=
      machine.note (.libraryOpened script.root machine.monitor.frames machine.store)
    have ran := (program script status).suffix_runDeclarations fuel
      (script.tree.statements script.root) opened
    exact (List.suffix_cons _ _ : machine.trace <:+ opened.trace).trans ran
  root number status fuel _ _ := by
    apply kept_of_finished fun _ => trivial
    intro machine
    exact (program (graph.script number) status).suffix_process fuel _ machine

section Arrivals

variable {node : NodeId} {Item Next : Type}

/-- What keeps to the contract takes nothing back, however it ends. -/
theorem suffix_of_kept {body : Exec (Workspace World) Result}
    (kept : lengthening.onWorkspace.Kept body) (before : Workspace World) :
    before.machine.trace <:+ (body before).state.machine.trace :=
  (kept before).reached

/-- A sequence arrives where its first part does, or where the rest does once the first is done. -/
theorem arrives_bind_iff {first : Exec (Workspace World) Result}
    {next : Result → Exec (Workspace World) Next} (firstGrows : lengthening.onWorkspace.Kept first)
    (nextGrows : ∀ result, lengthening.onWorkspace.Kept (next result))
    (before : Workspace World) :
    before.machine.Arrives node ((first >>= next) before).state.machine ↔
      before.machine.Arrives node (first before).state.machine ∨
        ∃ result after, first before = .done result after ∧
          after.machine.Arrives node (next result after).state.machine := by
  have earlier := suffix_of_kept firstGrows before
  rw [Exec.bind_apply]
  cases ended : first before with
  | failed fault after => simp [Outcome.state]
  | exhausted after => simp [Outcome.state]
  | done result after =>
    rw [ended] at earlier
    have later := suffix_of_kept (nextGrows result) after
    constructor
    · intro arrives
      exact (arrives.split later).imp_right fun arrives => ⟨result, after, rfl, arrives⟩
    · rintro (arrives | ⟨_, _, ⟨⟩, arrives⟩)
      · exact arrives.widen (List.suffix_refl _) later
      · exact arrives.widen earlier (List.suffix_refl _)

/-- What is done for one item after the other arrives where it does so for one of them, once it is
done for those before. -/
theorem arrives_forM_iff {body : Item → Exec (Workspace World) Unit}
    (grows : ∀ item, lengthening.onWorkspace.Kept (body item)) {items : List Item}
    (before : Workspace World) :
    before.machine.Arrives node (items.forM body before).state.machine ↔
      ∃ earlier item later ready, items = earlier ++ item :: later ∧
        earlier.forM body before = .done () ready ∧
        ready.machine.Arrives node (body item ready).state.machine := by
  induction items generalizing before with
  | nil =>
    constructor
    · exact fun arrives => absurd arrives (Arrives.irrefl node before.machine)
    · rintro ⟨earlier, item, later, ready, listed, -⟩
      exact absurd listed.symm (List.append_ne_nil_of_right_ne_nil _ (List.cons_ne_nil _ _))
  | cons first rest inductionHypothesis =>
    have restGrows : ∀ _ : Unit, lengthening.onWorkspace.Kept (rest.forM body) :=
      fun _ => kept_forM fun item _ => grows item
    refine (arrives_bind_iff (grows first) restGrows before).trans ?_
    constructor
    · rintro (arrives | ⟨_, after, ended, arrives⟩)
      · exact ⟨[], first, rest, before, rfl, rfl, arrives⟩
      · obtain ⟨earlier, item, later, ready, rfl, done, arrives⟩ :=
          (inductionHypothesis after).mp arrives
        refine ⟨first :: earlier, item, later, ready, rfl, ?_, arrives⟩
        change (body first >>= fun _ => earlier.forM body) before = .done () ready
        rw [Exec.bind_apply, ended]
        exact done
    · rintro ⟨earlier, item, later, ready, listed, done, arrives⟩
      cases earlier with
      | nil =>
        cases listed
        cases done
        exact .inl arrives
      | cons _ earlier =>
        cases listed
        obtain ⟨_, after, ended, done⟩ := Exec.exists_of_bind_done done
        exact .inr ⟨(), after, ended, (inductionHypothesis after).mpr
          ⟨earlier, item, later, ready, rfl, done, arrives⟩⟩

/-- What is done only for a script that is not initialized arrives nowhere else. -/
theorem arrives_unlessInitialized_iff {number : Nat} {body : Exec (Workspace World) Unit}
    (before : Workspace World) :
    before.machine.Arrives node (unlessInitialized number body before).state.machine ↔
      (before.status number).initialized = false ∧
        before.machine.Arrives node (body before).state.machine := by
  simp only [unlessInitialized, Exec.bind_apply, Exec.state]
  cases (before.status number).initialized with
  | true => simpa [Outcome.state] using Arrives.irrefl node before.machine
  | false => simp

end Arrivals

section Functions

variable {node : NodeId} {function : FunctionDeclaration} (shares : graph.Shares tree)
  (declared : tree.functionAt? node = some function)

include shares declared

/-- Every script that has a root knows the function. -/
theorem functionAt?_of_registered {number : Nat} {layout : Layout}
    (registered : (graph.script number).tree.rootLayout? (graph.script number).root =
      some layout) :
    (graph.script number).tree.functionAt? node = some function :=
  (congrArg (·.functionAt? node) (shares number (known_of_registered registered))).trans declared

/-- Declaring a library arrives at the function exactly when the loop over the declarations comes to
it. The opening of the library is no arrival. -/
theorem arrives_declare_iff (fuel number : Nat) (before : Workspace World) :
    before.machine.Arrives node (graph.declare fuel number before).state.machine ↔
      ∃ layout,
        (graph.script number).tree.rootLayout? (graph.script number).root = some layout ∧
        (graph.libraryProgram number layout before).ComesTo
          ((graph.libraryProgram number layout before).process fuel) node
          ((graph.script number).tree.statements (graph.script number).root)
          (graph.declarationsStart number layout before) := by
  cases registered : (graph.script number).tree.rootLayout? (graph.script number).root with
  | none =>
    rw [declare_unregistered registered]
    simpa [Outcome.state] using Arrives.irrefl node before.machine
  | some layout =>
    have known := functionAt?_of_registered shares declared registered
    let program := graph.libraryProgram number layout before
    let statements := (graph.script number).tree.statements (graph.script number).root
    let start := graph.declarationsStart number layout before
    obtain ⟨frames, store, opened⟩ := graph.trace_declarationsStart number layout before
    have ran := program.suffix_runDeclarations fuel statements start
    have unopened : ¬ before.machine.Arrives node start :=
      Arrives.not_of_noted rfl opened
    rw [Arrives.congr (trace_declare registered fuel before)]
    constructor
    · intro arrives
      refine ⟨layout, rfl, Program.comesTo_of_arrives known ?_⟩
      exact (arrives.split ran).resolve_left unopened
    · rintro ⟨_, ⟨⟩, comes⟩
      have arrives := Program.arrives_of_comesTo known comes
      exact arrives.widen (opened ▸ List.suffix_cons _ _) (List.suffix_refl _)

/-- Preparing a script arrives at the function exactly when the loop of a library comes to it. The
induction is on the number of the script, with the libraries taken in order. -/
theorem arrives_prepare_iff (fuel number : Nat) (skipSelf : Bool) (before : Workspace World) :
    before.machine.Arrives node (graph.prepare fuel number skipSelf before).state.machine ↔
      graph.LibraryComesTo fuel node number skipSelf before := by
  have lifted := lengthening_lifted graph
  induction number using Nat.strongRecOn generalizing skipSelf before with
  | ind number inductionHypothesis =>
    have library (library : { library // library < number }) (ready : Workspace World) :
        ready.machine.Arrives node
            (unlessInitialized library.1 (graph.prepare fuel library.1 false) ready).state.machine ↔
          (ready.status library.1).initialized = false ∧
            graph.LibraryComesTo fuel node library.1 false ready :=
      (arrives_unlessInitialized_iff ready).trans
        (and_congr_right fun _ => inductionHypothesis library.1 library.2 false ready)
    have grows (library : { library // library < number }) : lengthening.onWorkspace.Kept
        (unlessInitialized library.1 (graph.prepare fuel library.1 false)) :=
      kept_unlessInitialized fun workspace _ => lifted.prepare fuel library.1 false workspace
    have selfGrows (_ : Unit) : lengthening.onWorkspace.Kept
        (if skipSelf then pure () else graph.declare fuel number) := by
      split
      · exact kept_pure _
      · exact lifted.declare fuel number
    rw [prepare_apply]
    refine (arrives_bind_iff (kept_forM fun library _ => grows library) selfGrows _).trans ?_
    rw [arrives_forM_iff grows]
    constructor
    · rintro (⟨earlier, item, later, ready, listed, prepared, arrives⟩ |
        ⟨_, ready, prepared, arrives⟩)
      · obtain ⟨fresh, comes⟩ := (library item ready).mp arrives
        exact .inLibrary listed prepared fresh comes
      · cases skipSelf with
        | true => exact absurd arrives (Arrives.irrefl node ready.machine)
        | false =>
          obtain ⟨layout, registered, comes⟩ :=
            (arrives_declare_iff shares declared fuel number ready).mp arrives
          exact .own prepared registered comes
    · intro comes
      cases comes with
      | own prepared registered comes =>
        refine .inr ⟨(), _, prepared, ?_⟩
        exact (arrives_declare_iff shares declared fuel number _).mpr ⟨_, registered, comes⟩
      | inLibrary listed prepared fresh comes =>
        exact .inl ⟨_, _, _, _, listed, prepared, (library _ _).mpr ⟨fresh, comes⟩⟩

/-- A root block is walked by the evaluator, which arrives at no function declaration. -/
theorem not_arrives_runRoot (fuel number : Nat) (before : Workspace World) :
    ¬ before.machine.Arrives node (graph.runRoot fuel number before).state.machine := by
  cases registered : (graph.script number).tree.rootLayout? (graph.script number).root with
  | none =>
    rw [runRoot_unregistered registered]
    exact Arrives.irrefl node before.machine
  | some layout =>
    have known := functionAt?_of_registered shares declared registered
    let program := program (graph.script number) (before.status number)
    let start := graph.rootStart number layout before
    let active := program.visits program.Active fun _ active => active
    obtain ⟨frames, store, opened⟩ := graph.trace_rootStart number layout before
    rw [Arrives.congr (trace_runRoot registered fuel before)]
    intro arrives
    rcases arrives.split (program.suffix_process fuel _ start) with opening | inside
    · exact Arrives.not_of_noted rfl opened opening
    · exact Program.not_arrives_of_kept (active.process fuel _) known start inside

/-- A run arrives at the function exactly when it initializes its libraries and the loop of one of
them comes to it. -/
theorem arrives_process_iff (fuel number : Nat) (before : Workspace World) :
    before.machine.Arrives node (graph.process fuel number before).state.machine ↔
      (before.status number).hasRun = false ∧ (before.status number).initialized = false ∧
        graph.LibraryComesTo fuel node number true (graph.started number before) := by
  have lifted := lengthening_lifted graph
  cases ran : (before.status number).hasRun with
  | true =>
    rw [process_again ran]
    simpa [Outcome.state] using Arrives.irrefl node before.machine
  | false =>
    have trace : (graph.process fuel number before).state.machine.trace =
        ((do
          graph.approach fuel number
          graph.runRoot fuel number : Exec (Workspace World) Flow)
            (graph.started number before)).state.machine.trace := by
      rw [process_apply ran]
      exact Exec.state_ensuring (fun workspace : Workspace World => workspace.machine.trace)
        (fun workspace => congrArg Machine.trace (Workspace.machine_announce _ _ workspace)) _ _
    have approaches : lengthening.onWorkspace.Kept (graph.approach fuel number) :=
      kept_unlessInitialized fun workspace _ => lifted.prepare fuel number true workspace
    rw [Arrives.congr trace, ← graph.machine_started number before]
    refine (arrives_bind_iff approaches (fun _ => lifted.runRoot fuel number) _).trans ?_
    rw [or_iff_left fun ⟨_, ready, _, arrives⟩ =>
      not_arrives_runRoot shares declared fuel number ready arrives]
    refine (arrives_unlessInitialized_iff _).trans ?_
    rw [arrives_prepare_iff shares declared, initialized_started, and_iff_right rfl]

end Functions

/-- The evaluator never puts a function declaration on the call stack and never pauses at one:
neither a walk, nor an evaluation, nor a block does. The loop over the declarations of a library
puts every function declaration it comes to on the call stack and takes it off again. So a run of a
script, or the preparation of one, arrives at a function declaration exactly when the loop of a
library that is opened on the way comes to it. -/
theorem function_arrivals {graph : ScriptGraph World} {tree : Tree World}
    (shares : graph.Shares tree) {node : NodeId} {function : FunctionDeclaration}
    (declared : tree.functionAt? node = some function) (fuel : Nat) :
    (∀ argument machine,
      let program : Program World := { tree, argument }
      (∀ site, ¬ machine.Arrives node (program.process fuel site machine).state ∧
        ¬ machine.Arrives node (program.eval fuel site machine).state) ∧
      (∀ statements,
        ¬ machine.Arrives node (program.processStatements fuel statements machine).state) ∧
      (∀ rest, machine.look.shouldStop = false →
        program.runDeclarations (program.process (fuel + 1)) (node :: rest) machine =
          program.runDeclarations (program.process (fuel + 1)) rest
            ((machine.look.enter node).leave node))) ∧
    (∀ number before,
      before.machine.Arrives node (graph.process fuel number before).state.machine ↔
        (before.status number).hasRun = false ∧ (before.status number).initialized = false ∧
          graph.LibraryComesTo fuel node number true (graph.started number before)) ∧
    (∀ number skipSelf before,
      before.machine.Arrives node (graph.prepare fuel number skipSelf before).state.machine ↔
        graph.LibraryComesTo fuel node number skipSelf before) := by
  refine ⟨fun argument machine => ?_, fun number before => ?_, fun number skipSelf before => ?_⟩
  · intro program
    let active := program.visits program.Active fun _ active => active
    refine ⟨fun site => ⟨?_, ?_⟩, fun statements => ?_, fun rest goes => ?_⟩
    · exact Program.not_arrives_of_kept (active.process fuel site) declared machine
    · exact Program.not_arrives_of_kept (active.eval fuel site) declared machine
    · exact Program.not_arrives_of_kept (active.processStatements fuel statements) declared machine
    · exact Program.runDeclarations_function fuel declared goes rest
  · exact arrives_process_iff shares declared fuel number before
  · exact arrives_prepare_iff shares declared fuel number skipSelf before

/-- A tree with a library that declares a function. -/
def functionLibraryTree : Tree Unit :=
  let directives : List (Directive Unit) :=
    [.node (.statement (.block [])),
      .node (.statement (.declareFunction ⟨"inert", [], ⟨0⟩⟩)),
      .root [⟨1⟩]]
  ((Builder.applyAll { } directives).getD { }).finish 0

def functionLibrary : ScriptGraph Unit :=
  { scripts := #[{ name := ⟨"library"⟩, tree := functionLibraryTree, root := ⟨2⟩ }] }

/-- With a breakpoint on the function, initializing its library pauses there, with the function on
the call stack. -/
theorem function_paused_in_library :
    let before : Workspace Unit :=
      { machine :=
          { host := { world := () }
            monitor := { breakpoints := [⟨1⟩], pauseHook := some fun _ => .resume } } }
    let after := (functionLibrary.prepare 2 0 false before).state.machine
    (functionLibraryTree.functionAt? ⟨1⟩).isSome = true ∧
      after.monitor.pauses.map (fun seen => (seen.node, seen.stack.nodes)) = [(⟨1⟩, [⟨1⟩])] := by
  decide +kernel

/-- The library is initialized through the loop, which comes to the function, and run through its
root block, where nothing comes to it. -/
theorem function_arrivals_in_library :
    let before : Workspace Unit := { machine := { host := { world := () } } }
    functionLibrary.Shares functionLibraryTree ∧
      functionLibraryTree.functionAt? ⟨1⟩ = some ⟨"inert", [], ⟨0⟩⟩ ∧
      functionLibrary.LibraryComesTo 3 ⟨1⟩ 0 false before ∧
      ¬ functionLibrary.LibraryComesTo 3 ⟨1⟩ 0 true (functionLibrary.started 0 before) := by
  intro before
  have shares : functionLibrary.Shares functionLibraryTree := by
    intro number known
    obtain rfl : number = 0 := Nat.lt_one_iff.mp known
    rfl
  have declared : functionLibraryTree.functionAt? ⟨1⟩ = some ⟨"inert", [], ⟨0⟩⟩ := by decide
  obtain ⟨-, process, prepare⟩ := function_arrivals shares declared 3
  refine ⟨shares, declared, (prepare 0 false before).mp ?_, fun comes => ?_⟩
  · rw [arrives_iff_of_fresh rfl]
    decide +kernel
  · have arrives := (process 0 before).mpr ⟨rfl, rfl, comes⟩
    rw [arrives_iff_of_fresh rfl] at arrives
    revert arrives
    decide +kernel

end ScriptGraph

end Treewalk
