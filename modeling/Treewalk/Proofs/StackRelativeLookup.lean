import Treewalk.Proofs.LinkedPauses

/-!
# Stack-relative lookup

Between runs of scripts no frame is logged, no function has bindings, and a script has one binding
of each of its variables if it was initialized as a library and none otherwise. This is
`Workspace.AtRest`. Initializing libraries and running scripts keep it, and from a workspace at rest
on the pause hook sees only what belongs together. So at every pause of every run a variable is
looked up as `Snapshot.Resolves` says: a variable of a function in the binding that the newest
invocation at or before the position opened, a variable of a script in its one binding.
-/

namespace Treewalk

variable {World Result : Type}

/-- The scripts live in one tree, each with a root of its own. -/
structure ScriptGraph.Inhabits (graph : ScriptGraph World) (tree : Tree World) : Prop where
  shared : ∀ number < graph.scripts.size, (graph.script number).tree = tree
  distinct : ∀ left < graph.scripts.size, ∀ right < graph.scripts.size,
    (graph.script left).root = (graph.script right).root → left = right

namespace Workspace

/-- No run is under way. -/
structure AtRest (graph : ScriptGraph World) (tree : Tree World) (workspace : Workspace World) :
    Prop where
  noFrames : workspace.machine.monitor.frames = []
  functions : ∀ layout ∈ tree.layouts, layout.owner.isFunction = true →
    ∀ entry ∈ layout.entries, workspace.machine.store.depth entry.cell = 0
  scripts : ∀ number < graph.scripts.size, ∀ layout,
    tree.rootLayout? (graph.script number).root = some layout →
    ∀ entry ∈ layout.entries, workspace.machine.store.depth entry.cell =
      if (workspace.status number).libraryBound then 1 else 0
  initialized : ∀ number, (workspace.status number).libraryBound = true →
    (workspace.status number).initialized = true
  shown : ∀ snapshot ∈ workspace.machine.monitor.pauses, snapshot.IsLinked tree

/-- Nothing has been bound, logged, shown or initialized yet. -/
structure Fresh (workspace : Workspace World) : Prop where
  store : ∀ cell, workspace.machine.store.bindings cell = []
  frames : workspace.machine.monitor.frames = []
  pauses : workspace.machine.monitor.pauses = []
  statuses : ∀ number, (workspace.status number).libraryBound = false

variable {graph : ScriptGraph World} {tree : Tree World} {workspace : Workspace World}

/-- Changing the status of a script leaves those of the others alone. -/
@[simp] theorem status_amend (number other : Nat) (change : ScriptStatus → ScriptStatus) :
    (workspace.amend number change).status other =
      if other = number then change (workspace.status number) else workspace.status other :=
  Table.get_modify workspace.statuses number other change

/-- Before anything is run, nothing is bound. -/
theorem Fresh.atRest (fresh : workspace.Fresh) : workspace.AtRest graph tree where
  noFrames := fresh.frames
  functions _ _ _ entry _ := by rw [Store.depth, fresh.store]; rfl
  scripts number _ _ _ entry _ := by
    rw [Store.depth, fresh.store, fresh.statuses]
    rfl
  initialized number bound := by
    rw [fresh.statuses] at bound
    cases bound
  shown snapshot seen := by
    rw [fresh.pauses] at seen
    cases seen

namespace AtRest

/-- At rest the machine has no frames, so there is nothing to link but libraries. -/
theorem isLinked (resting : workspace.AtRest graph tree) : workspace.machine.IsLinked tree := by
  simp only [Machine.IsLinked]
  rw [resting.noFrames]
  exact Linked.of_no_frames resting.functions

/-- A computation on the machine that restores what it changes leaves the workspace at rest. -/
theorem of_restored (resting : workspace.AtRest graph tree) {machine : Machine World}
    (restored : workspace.machine.Restored machine)
    (shown : workspace.machine.ShowsLinked tree machine) :
    AtRest graph tree { workspace with machine } where
  noFrames := restored.frames.trans resting.noFrames
  functions layout member function entry listed :=
    (restored.bindings entry.cell).1.trans (resting.functions layout member function entry listed)
  scripts number known layout registered entry listed :=
    (restored.bindings entry.cell).1.trans
      (resting.scripts number known layout registered entry listed)
  initialized := resting.initialized
  shown snapshot seen := by
    rcases shown resting.isLinked snapshot seen with early | linked
    · exact resting.shown snapshot early
    · exact linked

/-- Other flags than that of the bindings may change, as long as nothing is taken back. -/
theorem amend (resting : workspace.AtRest graph tree) (number : Nat)
    {change : ScriptStatus → ScriptStatus}
    (bound : ∀ status, (change status).libraryBound = status.libraryBound)
    (initialized : ∀ status, status.initialized = true → (change status).initialized = true) :
    (workspace.amend number change).AtRest graph tree where
  noFrames := resting.noFrames
  functions := resting.functions
  scripts other known layout registered entry listed := by
    have depth := resting.scripts other known layout registered entry listed
    rw [status_amend]
    split
    · next same =>
      rw [bound, ← same]
      exact depth
    · exact depth
  initialized other := by
    rw [status_amend]
    split
    · intro flagged
      rw [bound] at flagged
      exact initialized _ (resting.initialized number flagged)
    · exact resting.initialized other
  shown := resting.shown

/-- Binding the variables of a script that has no bindings, and saying so. -/
theorem bindLibrary (settled : tree.Settled) (single : tree.SingleScoped)
    (inhabits : graph.Inhabits tree) (resting : workspace.AtRest graph tree) {number : Nat}
    (known : number < graph.scripts.size) {layout : Layout}
    (registered : tree.rootLayout? (graph.script number).root = some layout)
    (initialized : (workspace.status number).initialized = true)
    (unbound : (workspace.status number).libraryBound = false) :
    ({ workspace with
      machine := { workspace.machine with store := workspace.machine.store.bind layout } }.amend
        number fun status => { status with libraryBound := true }).AtRest graph tree := by
  obtain ⟨member, owner⟩ := Tree.rootLayout?_eq_some registered
  refine ⟨resting.noFrames, ?_, ?_, ?_, resting.shown⟩
  · intro other otherMember function entry listed
    change (workspace.machine.store.bind layout).depth entry.cell = 0
    rw [Store.depth_bind, settled.multiplicity single member otherMember listed,
      resting.functions other otherMember function entry listed, if_neg]
    intro same
    rw [← same, owner] at function
    cases function
  · intro other otherKnown otherLayout otherRegistered entry listed
    have depth := resting.scripts other otherKnown otherLayout otherRegistered entry listed
    obtain ⟨otherMember, otherOwner⟩ := Tree.rootLayout?_eq_some otherRegistered
    change (workspace.machine.store.bind layout).depth entry.cell = _
    rw [Store.depth_bind, settled.multiplicity single member otherMember listed, depth,
      status_amend, owner, otherOwner]
    by_cases same : other = number
    · subst same
      simp [unbound]
    · have different : Scope.script (graph.script number).root ≠
          Scope.script (graph.script other).root := by
        intro equal
        injection equal with roots
        exact same (inhabits.distinct number known other otherKnown roots).symm
      rw [if_neg different, if_neg same, Nat.zero_add]
      rfl
  · intro other
    rw [status_amend]
    split
    · intro _
      exact initialized
    · exact resting.initialized other

end AtRest

/-- Coming to rest again, having shown only what belongs together. -/
def settling (graph : ScriptGraph World) (tree : Tree World) : Contract (Workspace World) where
  Raised _ := True
  Finished before after := before.AtRest graph tree → after.AtRest graph tree
  Reached before after := before.AtRest graph tree →
    ∀ snapshot ∈ after.machine.monitor.pauses, snapshot.IsLinked tree
  refl _ resting := resting
  trans earlier later resting := later (earlier resting)
  reached_of_finished finished resting := (finished resting).shown
  reached_trans earlier later resting := later (earlier resting)

/-- Leaving the statuses of scripts with large numbers alone. -/
def sparing (limit : Nat) : Contract (Workspace World) where
  Raised _ := True
  Finished before after := ∀ number, limit ≤ number → after.status number = before.status number
  Reached _ _ := True
  refl _ _ _ := rfl
  trans earlier later number above := (later number above).trans (earlier number above)
  reached_of_finished _ := trivial
  reached_trans _ _ := trivial

/-- Nothing is asked of a computation that does not start at rest. -/
theorem settling_of_atRest {outcome : Outcome (Workspace World) Result}
    (fulfilled : workspace.AtRest graph tree → (settling graph tree).Fulfilled workspace outcome) :
    (settling graph tree).Fulfilled workspace outcome := by
  cases outcome with
  | done result after => exact fun resting => fulfilled resting resting
  | failed fault after => exact ⟨trivial, fun resting => (fulfilled resting).2 resting⟩
  | exhausted after => exact fun resting => fulfilled resting resting

/-- What settles on the machine settles in the workspace. -/
theorem settling_onMachine {body : Exec (Machine World) Result}
    (fulfilled : (Machine.linking tree).Fulfilled workspace.machine (body workspace.machine)) :
    (settling graph tree).Fulfilled workspace (onMachine body workspace) := by
  simp only [onMachine, Exec.zoom]
  cases ended : body workspace.machine with
  | done result after =>
    rw [ended] at fulfilled
    exact fun resting => resting.of_restored fulfilled.1 fulfilled.2
  | failed fault after =>
    rw [ended] at fulfilled
    exact ⟨trivial, fun resting => resting.of_restored fulfilled.2.1 fulfilled.2.2⟩
  | exhausted after =>
    rw [ended] at fulfilled
    intro resting snapshot seen
    rcases fulfilled resting.isLinked snapshot seen with early | linked
    · exact resting.shown snapshot early
    · exact linked

/-- A change of status that binds nothing settles. -/
theorem settling_amend (number : Nat) {change : ScriptStatus → ScriptStatus}
    (bound : ∀ status, (change status).libraryBound = status.libraryBound)
    (initialized : ∀ status, status.initialized = true → (change status).initialized = true) :
    (settling graph tree).Kept (Exec.update (Workspace.amend number change)) :=
  Contract.kept_update fun _ resting => resting.amend number bound initialized

/-- Events are heard without disturbing the rest. -/
theorem settling_of_same {before after : Workspace World} (machine : after.machine = before.machine)
    (statuses : after.statuses = before.statuses) :
    (settling graph tree).Finished before after := by
  intro resting
  obtain ⟨beforeMachine, beforeStatuses, beforeBoard⟩ := before
  obtain ⟨afterMachine, afterStatuses, afterBoard⟩ := after
  cases machine
  cases statuses
  exact { resting with }

/-- The machine knows nothing of scripts. -/
theorem sparing_onMachine {limit : Nat} (body : Exec (Machine World) Result) :
    (sparing limit).Kept (onMachine body) := by
  intro before
  simp only [onMachine, Exec.zoom]
  cases body before.machine with
  | done result after => exact fun _ _ => rfl
  | failed fault after => exact ⟨trivial, fun _ _ => rfl⟩
  | exhausted after => trivial

/-- The status that changes is below the limit. -/
theorem sparing_amend {limit number : Nat} (below : number < limit)
    (change : ScriptStatus → ScriptStatus) (workspace : Workspace World) :
    (sparing limit).Finished workspace (workspace.amend number change) := by
  intro other above
  rw [status_amend, if_neg (by omega)]

end Workspace

namespace ScriptGraph

open Contract Workspace

variable {graph : ScriptGraph World} {tree : Tree World}

/-- The layout is that of a bound library with a smaller number. -/
def IsLibraryLayout (graph : ScriptGraph World) (workspace : Workspace World) (number : Nat)
    (layout : Layout) : Prop :=
  ∃ library < number, (workspace.status library).libraryBound = true ∧
    (graph.script library).tree.rootLayout? (graph.script library).root = some layout

/-- Layouts of libraries below a script are so below a larger one. -/
theorem IsLibraryLayout.mono {workspace : Workspace World} {number larger : Nat} {layout : Layout}
    (below : number < larger) (bound : graph.IsLibraryLayout workspace number layout) :
    graph.IsLibraryLayout workspace larger layout := by
  obtain ⟨library, smaller, rest⟩ := bound
  exact ⟨library, Nat.lt_trans smaller below, rest⟩

/-- The collection goes depth first, and adds layouts of bound libraries only. -/
theorem mem_collectLayouts {workspace : Workspace World} {number : Nat}
    {collected : List NodeId × List Layout} :
    ∀ layout ∈ (graph.collectLayouts workspace number collected).2,
      layout ∈ collected.2 ∨ graph.IsLibraryLayout workspace number layout := by
  induction number using Nat.strongRecOn generalizing collected with
  | ind number inductionHypothesis =>
    rw [collectLayouts]
    refine List.foldlRecOn (motive := fun current : List NodeId × List Layout =>
      ∀ layout ∈ current.2, layout ∈ collected.2 ∨ graph.IsLibraryLayout workspace number layout)
      _ _ (fun _ listed => Or.inl listed) ?_
    intro current currentHypothesis library _ layout listed
    dsimp only at listed
    split at listed
    · exact currentHypothesis layout listed
    · -- What the library adds is collected below it, or is its own layout.
      have ofBelow : layout ∈ (graph.collectLayouts workspace library.1
          ((graph.script library.1).root :: current.1, current.2)).2 →
          layout ∈ collected.2 ∨ graph.IsLibraryLayout workspace number layout := by
        intro deep
        rcases inductionHypothesis library.1 library.2 layout deep with early | bound
        · exact currentHypothesis layout early
        · exact Or.inr (bound.mono library.2)
      split at listed
      · next bound =>
        rcases List.mem_append.mp listed with deep | own
        · exact ofBelow deep
        · exact Or.inr ⟨library.1, library.2, bound, Option.mem_toList.mp own⟩
      · exact ofBelow listed

/-- What is logged around a script belongs to a bound library below it. -/
theorem mem_libraryLayouts {workspace : Workspace World} {number : Nat} {layout : Layout}
    (listed : layout ∈ graph.libraryLayouts workspace number) :
    graph.IsLibraryLayout workspace number layout := by
  rcases mem_collectLayouts layout listed with none | bound
  · cases none
  · exact bound

/-- Declaring a script changes its own status. -/
theorem sparing_declare {limit number : Nat} (below : number < limit) (fuel : Nat) :
    (sparing limit).Kept (graph.declare fuel number) := by
  apply kept_rootLayout trivial
  intro layout _
  apply kept_bind
  · exact kept_update fun before => sparing_amend below _ _
  · intro _
    exact kept_state fun workspace => sparing_onMachine _

/-- Preparing a script changes the status of smaller scripts and its own. -/
theorem sparing_prepare {limit number : Nat} (below : number < limit) (fuel : Nat)
    (skipSelf : Bool) : (sparing limit).Kept (graph.prepare fuel number skipSelf) := by
  induction number using Nat.strongRecOn generalizing skipSelf with
  | ind number inductionHypothesis =>
    rw [prepare]
    apply kept_bind (kept_update (sparing_amend below _))
    intro _
    apply kept_bind
    · apply kept_forM
      intro library _
      apply kept_unlessInitialized
      intro workspace _
      exact inductionHypothesis library.1 library.2 (Nat.lt_trans library.2 below) false workspace
    · intro _
      split
      · exact kept_pure _
      · exact sparing_declare below fuel

section Settled

variable (settled : tree.Settled) (single : tree.SingleScoped) (inhabits : graph.Inhabits tree)

include settled single inhabits

/-- A script is run among the frames of its libraries, with its own variables bound once. -/
theorem settling_amongLibraries {number : Nat} (known : number < graph.scripts.size)
    {workspace : Workspace World} {layout : Layout}
    (registered : tree.rootLayout? (graph.script number).root = some layout) {owns : Bool}
    (complements : owns = !(workspace.status number).libraryBound)
    {body : Exec (Machine World) Result} (kept : (Machine.linking tree).Kept body) :
    (settling graph tree).Fulfilled workspace
      (onMachine
        (Activation.withinFrames (graph.libraryLayouts workspace number)
          (Activation.within { layout, ownsBindings := owns } body))
        workspace) := by
  apply settling_of_atRest
  intro resting
  apply settling_onMachine
  obtain ⟨member, owner⟩ := Tree.rootLayout?_eq_some registered
  refine Machine.linking_withinFrames settled ?_ ?_ rfl
  · intro library listed
    obtain ⟨other, smaller, bound, otherRegistered⟩ := mem_libraryLayouts listed
    have otherKnown : other < graph.scripts.size := Nat.lt_trans smaller known
    rw [inhabits.shared other otherKnown] at otherRegistered
    obtain ⟨otherMember, otherOwner⟩ := Tree.rootLayout?_eq_some otherRegistered
    refine ⟨otherMember, by rw [otherOwner]; rfl, ?_⟩
    intro entry entryListed
    rw [resting.scripts other otherKnown library otherRegistered entry entryListed, if_pos bound]
  · intro machine sameStore
    apply Machine.linking_withinScript settled single member (by rw [owner]; rfl) _ kept
    intro entry listed
    rw [sameStore, resting.scripts number known layout registered entry listed, complements]
    cases (workspace.status number).libraryBound <;> rfl

/-- A library that is declared is bound from then on, which was not so before. -/
theorem settling_declare {number : Nat} (known : number < graph.scripts.size) (fuel : Nat)
    {before : Workspace World} (initialized : (before.status number).initialized = true)
    (unbound : (before.status number).libraryBound = false) :
    (settling graph tree).Fulfilled before (graph.declare fuel number before) := by
  have shared := inhabits.shared number known
  apply fulfilled_rootLayout trivial
  intro layout registered
  rw [shared] at registered
  apply fulfilled_bind
  · intro resting
    exact resting.bindLibrary settled single inhabits known registered initialized unbound
  · intro _ after ended _
    apply settling_amongLibraries settled single inhabits known registered
    · cases ended
      rw [status_amend, if_pos rfl]
      rfl
    · apply kept_bind
      · exact kept_update fun machine => Machine.linking_note machine trivial
      · intro _
        exact (Machine.linking_upheld settled single shared).runDeclarations fuel _

/-- Libraries come to rest one after the other. The script itself is declared at most once: it is
skipped, or it was not initialized before, so its variables have no bindings yet. -/
theorem settling_prepare {number : Nat} (known : number < graph.scripts.size) (fuel : Nat)
    {skipSelf : Bool} {before : Workspace World}
    (unbound : skipSelf = false → (before.status number).libraryBound = false) :
    (settling graph tree).Fulfilled before (graph.prepare fuel number skipSelf before) := by
  induction number using Nat.strongRecOn generalizing skipSelf before with
  | ind number inductionHypothesis =>
    rw [prepare]
    apply fulfilled_bind
    · refine settling_amend number ?_ ?_ before <;> intros <;> rfl
    · intro _ flagged entered _
      have status : flagged.status number = { before.status number with initialized := true } := by
        cases entered
        rw [status_amend, if_pos rfl]
      apply fulfilled_bind
      · apply kept_forM
        intro library _
        apply kept_unlessInitialized
        intro workspace uninitialized
        apply settling_of_atRest
        intro resting
        apply inductionHypothesis library.1 library.2 (Nat.lt_trans library.2 known)
        intro _
        cases bound : (workspace.status library.1).libraryBound with
        | false => rfl
        | true =>
          rw [resting.initialized library.1 bound] at uninitialized
          cases uninitialized
      · intro _ after ended _
        -- The libraries have smaller numbers, so their turn left the script's own status alone.
        have spared : (sparing number).Finished flagged after := by
          refine Fulfilled.finished ?_ (congrArg Outcome.final? ended)
          apply kept_forM
          intro library _
          apply kept_unlessInitialized
          intro workspace _
          exact sparing_prepare library.2 fuel false workspace
        rw [← spared number (Nat.le_refl number)] at status
        cases skipSelf with
        | true => exact kept_pure () after
        | false =>
          apply settling_declare settled single inhabits known fuel
          · rw [status]
          · rw [status]
            exact unbound rfl

/-- Around a root block the frames of all bound libraries below it are logged. -/
theorem settling_runRoot {number : Nat} (known : number < graph.scripts.size) (fuel : Nat) :
    (settling graph tree).Kept (graph.runRoot fuel number) := by
  intro before
  have shared := inhabits.shared number known
  apply fulfilled_rootLayout trivial
  intro layout registered
  rw [shared] at registered
  apply settling_amongLibraries settled single inhabits known registered rfl
  apply kept_bind
  · exact kept_update fun machine => Machine.linking_note machine trivial
  · intro _
    exact (Machine.linking_upheld settled single shared).process fuel _

/-- A run prepares the libraries and walks the root block. -/
theorem settling_run {number : Nat} (known : number < graph.scripts.size) (fuel : Nat) :
    (settling graph tree).Kept (graph.run fuel number) := by
  have root := settling_runRoot settled single inhabits known fuel
  apply kept_bind
  · apply settling_amend number
    · intro _
      rfl
    · intro _ initialized
      exact initialized
  · intro _
    apply kept_state
    intro workspace
    split
    · exact root
    · apply kept_bind
      · intro before
        exact settling_prepare settled single inhabits known fuel (fun declared => nomatch declared)
      · intro _
        exact root

/-- Every run of a script comes to rest and shows only what belongs together. -/
theorem settling_process {number : Nat} (known : number < graph.scripts.size) (fuel : Nat) :
    (settling graph tree).Kept (graph.process fuel number) := by
  apply kept_state
  intro workspace
  split
  · exact kept_fail trivial
  · apply kept_bind
    · exact kept_update fun before =>
        settling_of_same (machine_announce _ _ _) (statuses_announce _ _ _)
    · intro _ before
      apply fulfilled_ensuring (settling_run settled single inhabits known fuel before)
      · intro after rested
        exact (settling graph tree).trans rested
          (settling_of_same (machine_announce _ _ after) (statuses_announce _ _ after))
      · intro _ shown
        exact shown

end Settled

/-- Run scripts one after the other, whatever each comes to. -/
def processEach (graph : ScriptGraph World) (fuel : Nat) (numbers : List Nat) :
    Exec (Workspace World) Unit :=
  numbers.forM fun number => do
    let _ ← Exec.attempt (graph.process fuel number)
    return ()

end ScriptGraph

/-- At every pause of every run of a script, from a fresh workspace on, variables are looked up
relative to the call stack. -/
theorem stack_relative_lookup {directives : List (Directive World)} {builder : Builder World}
    (built : Builder.applyAll { } directives = some builder) {key : Nat}
    (single : (builder.finish key).SingleScoped) {graph : ScriptGraph World}
    (inhabits : graph.Inhabits (builder.finish key)) {workspace : Workspace World}
    (fresh : workspace.Fresh) (fuel : Nat) {numbers : List Nat}
    (known : ∀ number ∈ numbers, number < graph.scripts.size) :
    ∀ snapshot ∈ (graph.processEach fuel numbers workspace).state.machine.monitor.pauses,
      snapshot.Resolves (builder.finish key) := by
  have settled := Builder.finish_settled built key
  have kept : (Workspace.settling graph (builder.finish key)).Kept
      (graph.processEach fuel numbers) := by
    apply Contract.kept_forM
    intro number member
    have run := ScriptGraph.settling_process settled single inhabits (known number member) fuel
    exact Contract.kept_attempt run (fun _ => Contract.kept_pure _)
      (fun _ _ => Contract.kept_pure _)
  intro snapshot seen
  exact Linked.resolves settled single ((kept workspace).reached fresh.atRest snapshot seen)

/-- A script that calls a function, which calls itself once more. -/
def nestedCalls : List (Directive Unit) :=
  [.node (.statement (.declareFunction ⟨"f", [⟨1⟩], ⟨2⟩⟩)),
    .node (.statement (.declareVariable ⟨"again", .plain, none⟩)),
    .node (.statement (.block [⟨3⟩])),
    .node (.statement (.branch ⟨4⟩ ⟨5⟩ none)),
    .node (.expression (.read ⟨1⟩)),
    .node (.expression (.call ⟨0⟩ [⟨6⟩])),
    .node (.expression (.literal (.bool false))),
    .node (.expression (.call ⟨0⟩ [⟨8⟩])),
    .node (.expression (.literal (.bool true))),
    .root [⟨0⟩, ⟨7⟩]]

def nestedBuilder : Builder Unit :=
  (Builder.applyAll { } nestedCalls).getD { }

def nestedGraph : ScriptGraph Unit :=
  ⟨#[{ name := ⟨"nested"⟩, tree := nestedBuilder.finish 0, root := ⟨9⟩ }]⟩

/-- A workspace that pauses in every invocation of the function. -/
def nestedWorkspace : Workspace Unit where
  machine :=
    { host := { world := () }
      monitor := { breakpoints := [⟨3⟩], pauseHook := some fun _ => .resume } }

theorem nestedGraph_inhabits : nestedGraph.Inhabits (nestedBuilder.finish 0) := by
  have zero : ∀ number < nestedGraph.scripts.size, number = 0 :=
    fun number known => Nat.lt_one_iff.mp known
  constructor
  · intro number known
    rw [zero number known]
    rfl
  · intro left leftKnown right rightKnown _
    rw [zero left leftKnown, zero right rightKnown]

/-- Both invocations of the function are paused in and resolve their variable. -/
theorem stack_relative_lookup_nested :
    (nestedGraph.processEach 9 [0] nestedWorkspace).state.machine.monitor.pauses.map
      (·.frames.length) = [3, 2] ∧
    ∀ snapshot ∈ (nestedGraph.processEach 9 [0] nestedWorkspace).state.machine.monitor.pauses,
      snapshot.Resolves (nestedBuilder.finish 0) := by
  have built : Builder.applyAll { } nestedCalls = some nestedBuilder := rfl
  refine ⟨by decide +kernel, stack_relative_lookup built (by decide)
    nestedGraph_inhabits ⟨fun _ => rfl, rfl, rfl, fun _ => rfl⟩ 9 (by decide)⟩

end Treewalk
