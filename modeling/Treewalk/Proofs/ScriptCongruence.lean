import Treewalk.Proofs.Congruence

/-!
# Relations that scripts respect

What `Program.Congruence` is for the walk of a tree, `ScriptGraph.Congruence` is for scripts.
Scripts decide by their statuses, change these and the event board, and have the machine do two
things: run the declarations of a library and walk a root block. A relation between computations
that is closed under this relates the runs of every script, with their own fuel on each side.

The fuel bounds how deep walks are nested and nothing else: `ScriptGraph.process_eq_of_le` says that
a run that has come to an end comes to the same end with more fuel.
-/

namespace Treewalk

variable {World : Type}

/-- What changes the workspace in the same way around every machine leaves the machine alone. -/
theorem Workspace.machine_of_apart {change : Workspace World → Workspace World}
    (apart : ∀ workspace machine,
      change { workspace with machine } = { change workspace with machine })
    (workspace : Workspace World) : (change workspace).machine = workspace.machine := by
  have same : change workspace = { change workspace with machine := workspace.machine } :=
    apart workspace workspace.machine
  rw [same]

namespace ScriptGraph

open Workspace

/-- Running the declarations of a library in the machine. -/
def declaring (graph : ScriptGraph World) (fuel number : Nat) (status : ScriptStatus)
    (libraries : List Layout) (layout : Layout) : Exec (Machine World) Unit :=
  let script := graph.script number
  Activation.withinFrames libraries <|
    Activation.within { layout, ownsBindings := false } do
      Exec.update fun machine =>
        machine.note (.libraryOpened script.root machine.monitor.frames machine.store)
      (program script status).runDeclarations ((program script status).process fuel)
        (script.tree.statements script.root)

/-- Walking the root block of a script in the machine. -/
def rooting (graph : ScriptGraph World) (fuel number : Nat) (status : ScriptStatus)
    (libraries : List Layout) (layout : Layout) : Exec (Machine World) Flow :=
  let script := graph.script number
  Activation.withinFrames libraries <|
    Activation.within { layout, ownsBindings := !status.libraryBound } do
      Exec.update fun machine =>
        machine.note (.scriptOpened script.root machine.monitor.frames machine.store)
      (program script status).process fuel script.root

/-- Binding the variables of a script, and saying so. -/
def bindLibrary (number : Nat) (layout : Layout) (workspace : Workspace World) :
    Workspace World :=
  { workspace with
    machine := { workspace.machine with store := workspace.machine.store.bind layout } }.amend
      number fun status => { status with libraryBound := true }

/-- A relation between computations that is closed under what scripts do, with some fuel on one side
and some on the other. -/
structure Congruence (graph : ScriptGraph World) (leftFuel rightFuel : Nat) where
  Related : {Result : Type} →
    Exec (Workspace World) Result → Exec (Workspace World) Result → Prop
  pure {Result : Type} (result : Result) :
    Related (Pure.pure result : Exec (Workspace World) Result) (Pure.pure result)
  failFor {Result : Type} (cause : Cause) :
    Related (Exec.failFor cause : Exec (Workspace World) Result) (Exec.failFor cause)
  bind {Result Next : Type} {left right : Exec (Workspace World) Result}
    {leftNext rightNext : Result → Exec (Workspace World) Next} (first : Related left right)
    (next : ∀ result, Related (leftNext result) (rightNext result)) :
    Related (left >>= leftNext) (right >>= rightNext)
  /-- Deciding by what is not part of the machine. -/
  inspect {Result : Type} {leftNext rightNext : Workspace World → Exec (Workspace World) Result}
    (next : ∀ workspace, Related (leftNext workspace) (rightNext workspace))
    (apart : ∀ workspace machine, rightNext { workspace with machine } = rightNext workspace) :
    Related (Exec.state >>= leftNext) (Exec.state >>= rightNext)
  /-- Changing what is not part of the machine. -/
  update {change : Workspace World → Workspace World}
    (apart : ∀ workspace machine,
      change { workspace with machine } = { change workspace with machine }) :
    Related (Exec.update change) (Exec.update change)
  ensuring {Result : Type} {left right : Exec (Workspace World) Result}
    {cleanup : Workspace World → Workspace World} (body : Related left right)
    (apart : ∀ workspace machine,
      cleanup { workspace with machine } = { cleanup workspace with machine }) :
    Related (Exec.ensuring left cleanup) (Exec.ensuring right cleanup)
  bindLibrary (number : Nat) (layout : Layout) :
    Related (Exec.update (bindLibrary number layout)) (Exec.update (bindLibrary number layout))
  declaring (number : Nat) (status : ScriptStatus) (libraries : List Layout) (layout : Layout) :
    Related (onMachine (graph.declaring leftFuel number status libraries layout))
      (onMachine (graph.declaring rightFuel number status libraries layout))
  rooting (number : Nat) (status : ScriptStatus) (libraries : List Layout) (layout : Layout) :
    Related (onMachine (graph.rooting leftFuel number status libraries layout))
      (onMachine (graph.rooting rightFuel number status libraries layout))

variable {graph : ScriptGraph World}

/-- Which libraries are bound is not part of the machine. -/
theorem collectLayouts_apart (workspace : Workspace World) (machine : Machine World)
    (number : Nat) (collected : List NodeId × List Layout) :
    graph.collectLayouts { workspace with machine } number collected =
      graph.collectLayouts workspace number collected := by
  induction number using Nat.strongRecOn generalizing collected with
  | ind number inductionHypothesis =>
    rw [collectLayouts, collectLayouts]
    congr 1
    funext before library
    simp only [inductionHypothesis library.1 library.2]
    rfl

/-- Which libraries are bound is not for the machine to say. -/
theorem libraryLayouts_apart (workspace : Workspace World) (machine : Machine World)
    (number : Nat) :
    graph.libraryLayouts { workspace with machine } number =
      graph.libraryLayouts workspace number :=
  congrArg Prod.snd (collectLayouts_apart workspace machine number _)

/-- Events are not part of the machine. -/
theorem announce_apart (script : Script World) (event : Event) (workspace : Workspace World)
    (machine : Machine World) :
    ({ workspace with machine } : Workspace World).announce script event =
      { workspace.announce script event with machine } := by
  simp only [announce]
  split <;> rfl

namespace Congruence

variable {leftFuel rightFuel : Nat} (congruence : graph.Congruence leftFuel rightFuel)

/-- A root is registered on both sides or on neither. -/
theorem rootLayout (script : Script World) :
    congruence.Related (ScriptGraph.rootLayout script) (ScriptGraph.rootLayout script) := by
  simp only [ScriptGraph.rootLayout]
  cases script.tree.rootLayout? script.root with
  | none => exact congruence.failFor _
  | some layout => exact congruence.pure layout

/-- Declaring a library is related if running its declarations is. -/
theorem declare (number : Nat) :
    congruence.Related (graph.declare leftFuel number) (graph.declare rightFuel number) := by
  apply congruence.bind (congruence.rootLayout _)
  intro layout
  apply congruence.bind (congruence.bindLibrary number layout)
  intro _
  apply congruence.inspect
  · intro workspace
    exact congruence.declaring number _ _ layout
  · intro workspace machine
    dsimp only
    rw [libraryLayouts_apart]
    rfl

/-- A script is initialized already on both sides or on neither. -/
theorem unlessInitialized (number : Nat) {left right : Exec (Workspace World) Unit}
    (body : congruence.Related left right) :
    congruence.Related (ScriptGraph.unlessInitialized number left)
      (ScriptGraph.unlessInitialized number right) := by
  apply congruence.inspect
  · intro workspace
    split
    · exact congruence.pure ()
    · exact body
  · intro workspace machine
    rfl

/-- Loops over the same items are related if their bodies are. -/
theorem forM {Item : Type} {items : List Item}
    {left right : Item → Exec (Workspace World) PUnit}
    (body : ∀ item ∈ items, congruence.Related (left item) (right item)) :
    congruence.Related (items.forM left) (items.forM right) := by
  induction items with
  | nil => exact congruence.pure PUnit.unit
  | cons item rest inductionHypothesis =>
    apply congruence.bind (body item List.mem_cons_self)
    intro _
    exact inductionHypothesis fun other member => body other (List.mem_cons_of_mem item member)

/-- The induction is on the number of the script. -/
theorem prepare (number : Nat) (skipSelf : Bool) :
    congruence.Related (graph.prepare leftFuel number skipSelf)
      (graph.prepare rightFuel number skipSelf) := by
  induction number using Nat.strongRecOn generalizing skipSelf with
  | ind number inductionHypothesis =>
    rw [ScriptGraph.prepare, ScriptGraph.prepare]
    apply congruence.bind (congruence.update fun _ _ => rfl)
    intro _
    apply congruence.bind
    · apply congruence.forM
      intro library _
      exact congruence.unlessInitialized library.1
        (inductionHypothesis library.1 library.2 false)
    · intro _
      split
      · exact congruence.pure ()
      · exact congruence.declare number

/-- Running a root block is related if walking it is. -/
theorem runRoot (number : Nat) :
    congruence.Related (graph.runRoot leftFuel number) (graph.runRoot rightFuel number) := by
  apply congruence.bind (congruence.rootLayout _)
  intro layout
  apply congruence.inspect
  · intro workspace
    exact congruence.rooting number _ _ layout
  · intro workspace machine
    dsimp only
    rw [libraryLayouts_apart]
    rfl

/-- A run is the preparation of the libraries and the root block. -/
theorem run (number : Nat) :
    congruence.Related (graph.run leftFuel number) (graph.run rightFuel number) := by
  apply congruence.bind (congruence.update fun _ _ => rfl)
  intro _
  apply congruence.inspect
  · intro workspace
    split
    · exact congruence.runRoot number
    · exact congruence.bind (congruence.prepare number true) fun _ => congruence.runRoot number
  · intro workspace machine
    rfl

/-- The runs of a script are related. -/
theorem process (number : Nat) :
    congruence.Related (graph.process leftFuel number) (graph.process rightFuel number) := by
  apply congruence.inspect
  · intro workspace
    split
    · exact congruence.failFor _
    · apply congruence.bind
      · exact congruence.update fun current machine =>
          announce_apart _ _ { current with board := workspace.board.freshRun.2 } machine
      · intro _
        exact congruence.ensuring (congruence.run number) fun workspace machine =>
          announce_apart _ _ workspace machine
  · intro workspace machine
    rfl

end Congruence

end ScriptGraph

/-- Wherever the first computation comes to an end, the second comes to the same. -/
def Exec.Outlasts {State Result : Type} (left right : Exec State Result) : Prop :=
  ∀ before, (left before).final?.isSome = true → right before = left before

namespace Exec.Outlasts

variable {State Inner Result Next : Type} {left right : Exec State Result}

/-- Every computation outlasts itself. -/
theorem refl (body : Exec State Result) : body.Outlasts body :=
  fun _ _ => rfl

/-- With more fuel for both parts, a sequence comes to the same end. -/
theorem bind {leftNext rightNext : Result → Exec State Next} (first : left.Outlasts right)
    (next : ∀ result, (leftNext result).Outlasts (rightNext result)) :
    (left >>= leftNext).Outlasts (right >>= rightNext) := by
  intro before finished
  rw [bind_apply] at finished
  rw [bind_apply, bind_apply]
  cases ended : left before with
  | done result after =>
    rw [ended] at finished
    rw [first before (by rw [ended]; rfl), ended]
    exact next result after finished
  | failed fault after => rw [first before (by rw [ended]; rfl), ended]
  | exhausted after =>
    rw [ended] at finished
    cases finished

/-- Catching a failure takes no fuel. -/
theorem attempt (body : left.Outlasts right) :
    (Exec.attempt left).Outlasts (Exec.attempt right) := by
  intro before finished
  simp only [Exec.attempt] at finished ⊢
  cases ended : left before with
  | exhausted after =>
    rw [ended] at finished
    cases finished
  | _ => rw [body before (by rw [ended]; rfl), ended]

/-- Cleaning up after a computation takes no fuel. -/
theorem ensuring (body : left.Outlasts right) (cleanup : State → State) :
    (Exec.ensuring left cleanup).Outlasts (Exec.ensuring right cleanup) := by
  intro before finished
  simp only [Exec.ensuring] at finished ⊢
  cases ended : left before with
  | exhausted after =>
    rw [ended] at finished
    cases finished
  | _ => rw [body before (by rw [ended]; rfl), ended]

/-- A computation on a part of the state outlasts another if it does so on the part. -/
theorem zoom {part : State → Inner} {put : Inner → State → State}
    {left right : Exec Inner Result} (body : left.Outlasts right) :
    (Exec.zoom part put left).Outlasts (Exec.zoom part put right) := by
  intro before finished
  simp only [Exec.zoom] at finished ⊢
  cases ended : left (part before) with
  | exhausted after =>
    rw [ended] at finished
    cases finished
  | _ => rw [body (part before) (by rw [ended]; rfl), ended]

/-- Looking at the state is the same for both. -/
theorem state {leftNext rightNext : State → Exec State Result}
    (next : ∀ current, (leftNext current).Outlasts (rightNext current)) :
    (Exec.state >>= leftNext).Outlasts (Exec.state >>= rightNext) :=
  fun before finished => next before before finished

variable {left right : Exec (Machine World) Result}

/-- A scope outlasts another if its body does. -/
theorem within (activation : Activation) (body : left.Outlasts right) :
    (activation.within left).Outlasts (activation.within right) :=
  (refl activation.enter).bind fun _ => body.ensuring activation.exit

/-- Frames around a body outlast others if the body does. -/
theorem withinFrames (layouts : List Layout) (body : left.Outlasts right) :
    (Activation.withinFrames layouts left).Outlasts (Activation.withinFrames layouts right) := by
  induction layouts with
  | nil => exact body
  | cons layout rest inductionHypothesis => exact inductionHypothesis.within _

end Exec.Outlasts

/-- More fuel makes a difference only to what ran out of it. -/
def Program.outlasting (program : Program World) : program.Congruence where
  Related left right := left.Outlasts right
  Raises _ := True
  raises_ofCause _ := trivial
  pure _ := .refl _
  fail _ := .refl _
  exhausted := .refl _
  bind := .bind
  attempt body done failed _ := body.attempt.bind fun ended =>
    match ended with
    | .ok result => done result
    | .error fault => failed fault trivial
  checkpoint stop go := (Exec.Outlasts.refl _).bind fun
    | true => stop
    | false => go
  read _ := .refl _
  write _ _ _ _ := .refl _
  invoke _ _ := .refl _
  hand _ := .refl _
  handFrom _ _ _ _ := .refl _
  tracked node _ _ _ _ body :=
    (Exec.Outlasts.refl _).bind fun _ => body.ensuring (Machine.leave node)
  protect body := ((Exec.Outlasts.refl _).bind fun _ => body.bind fun _ => .refl _).ensuring _
  call _ _ _ _ _ _ _ _ body := body.within _

/-- A walk that came to an end comes to the same end with more fuel. -/
theorem Program.outlasts_of_le (program : Program World) {fuel more : Nat} (le : fuel ≤ more)
    (node : NodeId) : (program.process fuel node).Outlasts (program.process more node) := by
  induction fuel generalizing more node with
  | zero => exact fun _ finished => nomatch finished
  | succ fuel inductionHypothesis =>
    obtain ⟨rest, rfl⟩ := Nat.exists_eq_add_of_le' le
    exact program.outlasting.step (inductionHypothesis (Nat.le_add_left fuel rest)) node

/-- The same for scripts. -/
def ScriptGraph.outlasting (graph : ScriptGraph World) {fuel more : Nat} (le : fuel ≤ more) :
    graph.Congruence fuel more where
  Related left right := left.Outlasts right
  pure _ := .refl _
  failFor _ := .refl _
  bind := .bind
  inspect next _ := .state next
  update _ := .refl _
  ensuring body _ := body.ensuring _
  bindLibrary _ _ := .refl _
  declaring number status libraries layout := by
    apply Exec.Outlasts.zoom
    apply Exec.Outlasts.withinFrames
    apply Exec.Outlasts.within
    apply (Exec.Outlasts.refl _).bind
    intro _
    exact (program _ status).outlasting.runDeclarations (fun _ => trivial)
      ((program _ status).outlasts_of_le le) _
  rooting number status libraries layout := by
    apply Exec.Outlasts.zoom
    apply Exec.Outlasts.withinFrames
    apply Exec.Outlasts.within
    apply (Exec.Outlasts.refl _).bind
    intro _
    exact (program _ status).outlasts_of_le le _

/-- A run that has come to an end comes to the same end with more fuel. -/
theorem ScriptGraph.process_eq_of_le (graph : ScriptGraph World) {fuel more : Nat}
    (le : fuel ≤ more) {number : Nat} {before : Workspace World}
    (finished : (graph.process fuel number before).final?.isSome = true) :
    graph.process more number before = graph.process fuel number before :=
  (graph.outlasting le).process number before finished

end Treewalk
