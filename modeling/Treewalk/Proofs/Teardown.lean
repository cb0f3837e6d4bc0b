import Treewalk.Proofs.LibraryBindings
import Treewalk.Proofs.ScriptContracts

/-!
# Teardown

Whatever came of runs of scripts, closing the scripts that were run takes back every binding that
was made for their libraries. While scripts run, `ScriptGraph.Open` holds: the bindings are
accounted for, what is bound is initialized and can be reached from a script that was run, and
nothing is closed. While scripts are closed, `ScriptGraph.Closing` holds: what is closed holds
nothing any more, and its libraries are closed as well. -/

namespace Treewalk

open ScriptGraph

variable {World : Type}

/-- No script has been initialized, bound or closed. -/
structure Workspace.Untouched (workspace : Workspace World) : Prop where
  initialized : ∀ number, (workspace.status number).initialized = false
  libraryBound : ∀ number, (workspace.status number).libraryBound = false
  closed : ∀ number, (workspace.status number).closed = false

/-- A workspace in which nothing is known about any script. -/
theorem Workspace.Untouched.of_statuses {workspace : Workspace World}
    (statuses : workspace.statuses = { }) : workspace.Untouched := by
  have status (number : Nat) : workspace.status number = { } := by
    rw [Workspace.status, statuses]
    rfl
  refine ⟨?_, ?_, ?_⟩ <;>
  · intro number
    rw [status]

namespace ScriptGraph

open Workspace

variable {graph : ScriptGraph World} {before after workspace : Workspace World}
  {Allowed : Nat → Prop} {base : Cell → Nat}

/-- The bindings are accounted for, and only allowed scripts are bound. -/
structure Ledger (graph : ScriptGraph World) (Allowed : Nat → Prop) (base : Cell → Nat)
    (workspace : Workspace World) : Prop where
  accounted : graph.Accounted base workspace
  allowed : ∀ number, (workspace.status number).libraryBound = true → Allowed number

/-- The state of the ledger while no script is closed. -/
structure Open (graph : ScriptGraph World) (Allowed : Nat → Prop) (base : Cell → Nat)
    (workspace : Workspace World) : Prop extends graph.Ledger Allowed base workspace where
  initialized : ∀ number, (workspace.status number).libraryBound = true →
    (workspace.status number).initialized = true
  unclosed : ∀ number, (workspace.status number).closed = false

/-- The state of the ledger while scripts are being closed. -/
structure Closing (graph : ScriptGraph World) (Allowed : Nat → Prop) (base : Cell → Nat)
    (workspace : Workspace World) : Prop extends graph.Ledger Allowed base workspace where
  released : ∀ number, (workspace.status number).closed = true →
    (workspace.status number).libraryBound = false
  allSealed : ∀ number, graph.Sealed workspace number

/-- The ledger goes by flags and depths. -/
theorem Ledger.akin (ledger : graph.Ledger Allowed base before) (akin : before.Akin after) :
    graph.Ledger Allowed base after where
  accounted := ledger.accounted.akin akin
  allowed number bound := ledger.allowed number (akin.libraryBound number ▸ bound)

/-- Releasing a script writes off its share. -/
theorem Ledger.release (ledger : graph.Ledger Allowed base workspace) (number : Nat) :
    graph.Ledger Allowed base (graph.release number workspace) where
  accounted := ledger.accounted.release number
  allowed other bound := by
    rw [status_release] at bound
    split at bound
    · cases bound
    · exact ledger.allowed other bound

/-- Before anything has been done, the ledger starts with the bindings that there are. -/
theorem open_of_untouched (untouched : workspace.Untouched) :
    graph.Open Allowed workspace.machine.store.depth workspace where
  accounted := .of_unbound untouched.libraryBound
  allowed number bound := by
    rw [untouched.libraryBound] at bound
    cases bound
  initialized number bound := by
    rw [untouched.libraryBound] at bound
    cases bound
  unclosed := untouched.closed

/-- Preparing and running scripts keeps the ledger open. -/
theorem open_invariant (libraries : ∀ {number library : Nat}, Allowed number →
    graph.Includes number library → Allowed library) :
    graph.Invariant Allowed (graph.Open Allowed base) where
  libraries := libraries
  akin holds akin :=
    { holds.toLedger.akin akin with
      initialized := by
        intro number bound
        rw [akin.initialized]
        exact holds.initialized number (akin.libraryBound number ▸ bound)
      unclosed := by
        intro number
        rw [akin.closed]
        exact holds.unclosed number }
  unbound := by
    intro workspace holds number uninitialized
    cases bound : (workspace.status number).libraryBound with
    | false => rfl
    | true =>
      rw [holds.initialized number bound] at uninitialized
      cases uninitialized
  flagged := by
    intro workspace holds number
    refine ⟨⟨holds.accounted.flagged number, ?_⟩, ?_, ?_⟩
    · intro other bound
      rw [libraryBound_flag] at bound
      exact holds.allowed other bound
    · intro other bound
      rw [libraryBound_flag] at bound
      exact growing_flag number workspace other (holds.initialized other bound)
    · intro other
      rw [status_amend]
      split
      · exact holds.unclosed number
      · exact holds.unclosed other
  declared := by
    intro before after holds number layout allowed initialized _ unbound declared
    refine ⟨⟨holds.accounted.declared unbound declared, ?_⟩, ?_, ?_⟩
    · intro other bound
      rw [declared.status] at bound
      split at bound
      · next same => exact same ▸ allowed
      · exact holds.allowed other bound
    · intro other bound
      rw [declared.status] at bound ⊢
      split at bound
      · next same =>
        rw [if_pos same]
        exact initialized
      · next different =>
        rw [if_neg different]
        exact holds.initialized other bound
    · intro other
      rw [declared.status]
      split
      · exact holds.unclosed number
      · exact holds.unclosed other

/-- Where nothing is closed, closing can begin. -/
theorem Open.closing (holds : graph.Open Allowed base workspace) :
    graph.Closing Allowed base workspace where
  toLedger := holds.toLedger
  released number closed := by
    rw [holds.unclosed] at closed
    cases closed
  allSealed number closed := by
    rw [holds.unclosed] at closed
    cases closed

namespace Closing

/-- Closing goes by the ledger and by flags. -/
theorem akin (closing : graph.Closing Allowed base before) (akin : before.Akin after) :
    graph.Closing Allowed base after where
  toLedger := closing.toLedger.akin akin
  released number closed := by
    rw [akin.libraryBound]
    exact closing.released number (akin.closed number ▸ closed)
  allSealed number closed library includes := by
    rw [akin.closed] at closed ⊢
    exact closing.allSealed number closed library includes

/-- Closing a script releases what it and the libraries below it hold, and seals them. -/
theorem close (closing : graph.Closing Allowed base workspace) (number : Nat) :
    graph.Closing Allowed base (graph.close number workspace) where
  toLedger :=
    close_preserves (graph.Ledger Allowed base) (fun other _ ledger => ledger.release other)
      number closing.toLedger
  released := by
    refine close_preserves (fun workspace => ∀ other, (workspace.status other).closed = true →
      (workspace.status other).libraryBound = false) ?_ number closing.released
    intro releasing workspace released other closed
    rw [status_release] at closed ⊢
    split at closed
    · next same => rw [if_pos same]
    · next different =>
      rw [if_neg different]
      exact released other closed
  allSealed other :=
    sealed_close (fun _ => False) (fun other _ => closing.allSealed other) other id

/-- Where every script that may be bound is closed, no bindings are left but those to begin with. -/
theorem depth_eq (closing : graph.Closing Allowed base workspace)
    (closed : ∀ number, Allowed number → (workspace.status number).closed = true) (cell : Cell) :
    workspace.machine.store.depth cell = base cell := by
  have unbound (number : Nat) : (workspace.status number).libraryBound = false := by
    cases bound : (workspace.status number).libraryBound with
    | false => rfl
    | true =>
      have released := closing.released number (closed number (closing.allowed number bound))
      exact bound.symm.trans released
  rw [closing.accounted cell, libraryDepth_eq_zero unbound, Nat.add_zero]

end Closing

namespace History

variable {start final : Workspace World} {entries : List (Entry World)} {numbers : List Nat}

/-- What calls of one kind were made for is listed. -/
theorem exists_of_mem {kind : Nat → Call} (calls : entries.map Entry.call = numbers.map kind)
    {entry : Entry World} (member : entry ∈ entries) :
    ∃ number ∈ numbers, entry.call = kind number := by
  have listed : entry.call ∈ numbers.map kind := calls ▸ List.mem_map_of_mem member
  obtain ⟨number, known, same⟩ := List.mem_map.mp listed
  exact ⟨number, known, same.symm⟩

/-- A history of runs of scripts keeps the ledger open. -/
theorem open_of_runs (history : graph.History start entries final)
    (runs : entries.map Entry.call = numbers.map .process) (untouched : start.Untouched) :
    graph.Open (graph.ReachedFrom numbers) start.machine.store.depth final := by
  have invariant : graph.Invariant (graph.ReachedFrom numbers)
      (graph.Open (graph.ReachedFrom numbers) start.machine.store.depth) :=
    open_invariant fun ⟨number, member, reaches⟩ includes =>
      ⟨number, member, reaches.tail includes⟩
  refine history.holds (fun _ _ akin holds => invariant.akin holds akin) ?_
    (open_of_untouched untouched)
  intro entry member after performed holds
  obtain ⟨number, listed, same⟩ := exists_of_mem runs member
  rw [same] at performed
  cases performed with
  | process ended =>
    exact (invariant.process ⟨number, listed, .refl⟩ _ _).finished ended holds

/-- A history of closings of scripts keeps the ledger closing. -/
theorem closing_of_closings (history : graph.History start entries final)
    (closings : entries.map Entry.call = numbers.map .close)
    (closing : graph.Closing Allowed base start) : graph.Closing Allowed base final := by
  refine history.holds (fun _ _ akin holds => holds.akin akin) ?_ closing
  intro entry member after performed holds
  obtain ⟨number, -, same⟩ := exists_of_mem closings member
  rw [same] at performed
  cases performed
  exact holds.close number

/-- After a history of closings, everything that was to be closed is. -/
theorem closed_of_closings (history : graph.History start entries final)
    (closings : entries.map Entry.call = numbers.map .close) {number : Nat}
    (listed : number ∈ numbers) : (final.status number).closed = true := by
  have called : Call.close number ∈ entries.map Entry.call :=
    closings ▸ List.mem_map_of_mem listed
  obtain ⟨entry, member, same⟩ := List.mem_map.mp called
  have onlyClosings (entry : Entry World) (member : entry ∈ entries) :
      ∃ number, entry.call = .close number := by
    obtain ⟨number, -, same⟩ := exists_of_mem closings member
    exact ⟨number, same⟩
  clear closings called
  induction history with
  | start => cases member
  | @call entries current ready after call earlier handed performed inductionHypothesis =>
    obtain ⟨last, rfl⟩ : ∃ last, call = .close last :=
      onlyClosings ⟨call, ready⟩ (List.mem_append_right _ (List.mem_singleton_self _))
    cases performed
    rcases List.mem_append.mp member with older | newest
    · apply closed_of_closed
      rw [handed.akin.closed]
      exact inductionHypothesis older
        (fun entry member => onlyClosings entry (List.mem_append_left _ member))
    · cases List.mem_singleton.mp newest
      cases same
      exact closed_close number ready

end History

end ScriptGraph

/-- Scripts of a graph are run in any order, each ending in whatever way, and then scripts are
closed in any order, among them all that were run. In the end every variable has as many bindings as
it had at the start, and everything that a script that was run reaches is closed. -/
theorem teardown_after_any_outcome {graph : ScriptGraph World}
    {start between final : Workspace World} {runs closings : List (Entry World)}
    {processed closed : List Nat}
    (untouched : start.Untouched) (ran : graph.History start runs between)
    (runCalls : runs.map Entry.call = processed.map .process)
    (tornDown : graph.History between closings final)
    (closeCalls : closings.map Entry.call = closed.map .close) (covered : processed ⊆ closed) :
    (∀ cell, final.machine.store.depth cell = start.machine.store.depth cell) ∧
    ∀ number ∈ processed, ∀ library, graph.Reaches number library →
      (final.status library).closed = true := by
  have closing := tornDown.closing_of_closings closeCalls
    (ran.open_of_runs runCalls untouched).closing
  have reached : ∀ number ∈ processed, ∀ library, graph.Reaches number library →
      (final.status library).closed = true := by
    intro number member library reaches
    exact ScriptGraph.closed_of_reaches closing.allSealed reaches
      (tornDown.closed_of_closings closeCalls (covered member))
  refine ⟨?_, reached⟩
  apply closing.depth_eq
  rintro library ⟨number, member, reaches⟩
  exact reached number member library reaches

/-- Three root blocks with a variable each; the second variable has a construct that fails as its
initial value. -/
def brokenDirectives : List (Directive Unit) :=
  [.node (.statement (.declareVariable ⟨"base", .plain, none⟩)),
    .root [⟨0⟩],
    .node (.expression (.construct ⟨"broken", 0, fun _ host => (.error "no", host)⟩ [])),
    .node (.statement (.declareVariable ⟨"broken", .plain, some ⟨2⟩⟩)),
    .root [⟨3⟩],
    .node (.statement (.declareVariable ⟨"main", .plain, none⟩)),
    .root [⟨5⟩]]

def brokenDiamondTree : Tree Unit :=
  ((Builder.applyAll { } brokenDirectives).getD { }).finish 0

/-- The last script includes the other two, and the second one the first. -/
def brokenDiamond : ScriptGraph Unit :=
  ⟨#[{ name := ⟨"base"⟩, tree := brokenDiamondTree, root := ⟨1⟩ },
    { name := ⟨"broken"⟩, tree := brokenDiamondTree, root := ⟨4⟩, libraries := [0] },
    { name := ⟨"main"⟩, tree := brokenDiamondTree, root := ⟨6⟩, libraries := [1, 0] }]⟩

/-- Initializing the second script as a library of the third fails and leaves its variable and that
of the first one bound. A run of the second script then uses these bindings. Closing the third
script takes all of them back. -/
theorem teardown_after_failed_library :
    let start : Workspace Unit := { machine := { host := { world := () } } }
    let first := (brokenDiamond.process 9 2 start).state
    let second := (brokenDiamond.process 9 1 first).state
    let final := brokenDiamond.close 1 (brokenDiamond.close 2 (brokenDiamond.close 1 second))
    ([⟨0⟩, ⟨3⟩, ⟨5⟩].map fun node => second.machine.store.depth ⟨0, node⟩) = [1, 1, 0] ∧
    (∀ cell, final.machine.store.depth cell = start.machine.store.depth cell) ∧
    (final.status 0).closed = true := by
  intro start first second final
  have ran : brokenDiamond.History start _ second :=
    (History.start.call (.refl start) (Performs.processed (by decide +kernel))).call
      (.refl first) (Performs.processed (by decide +kernel))
  have tornDown : brokenDiamond.History second _ final :=
    ((History.start.call (.refl second) (.close 1 second)).call
      (.refl _) (.close 2 _)).call (.refl _) (.close 1 _)
  have restored := teardown_after_any_outcome (.of_statuses rfl) ran
    (show _ = [2, 1].map Call.process from rfl) tornDown
    (show _ = [1, 2, 1].map Call.close from rfl) (by decide)
  refine ⟨by decide +kernel, restored.1, restored.2 1 (by decide) 0 ?_⟩
  exact Relation.ReflTransGen.single ⟨by decide, by decide⟩

end Treewalk
