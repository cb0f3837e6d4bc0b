import Mathlib.Algebra.BigOperators.Group.Finset.Piecewise
import Treewalk.Proofs.Teardown

/-!
# Initializing libraries over and over

Whatever initializes a library as part of another script asks first whether it is initialized. Who
asks for the initialization of a script directly is not held back: its variables are bound again and
its declarations run again. `Entry.repeats` recognizes such calls, and `ScriptGraph.Tally` keeps the
count. Every repeated call declares its script once more, and the bindings it makes are on nobody's
account, so they are still there after everything was closed.
-/

namespace Treewalk

open ScriptGraph

variable {World : Type}

/-- The call initializes a script as a library although it is bound as one already. -/
def Entry.repeats (number : Nat) (entry : Entry World) : Bool :=
  entry.call = .prepare number false && (entry.before.status number).libraryBound

namespace ScriptGraph

open Workspace

variable {graph : ScriptGraph World} {tree : Tree World} {before after workspace : Workspace World}
  {number : Nat}

/-- The root blocks of different scripts have no variable in common. -/
def SeparateRoots (graph : ScriptGraph World) : Prop :=
  ∀ left < graph.scripts.size, ∀ right < graph.scripts.size, left ≠ right →
    ∀ entry ∈ graph.rootVariables left, ∀ other ∈ graph.rootVariables right,
      entry.cell ≠ other.cell

instance (graph : ScriptGraph World) : Decidable graph.SeparateRoots :=
  inferInstanceAs (Decidable (∀ left < graph.scripts.size, ∀ right < graph.scripts.size,
    left ≠ right → ∀ entry ∈ graph.rootVariables left, ∀ other ∈ graph.rootVariables right,
      entry.cell ≠ other.cell))

/-- Scripts have been closed one after the other, all of the graph among them. -/
def ClosesAll (graph : ScriptGraph World) (before after : Workspace World) : Prop :=
  ∃ (closings : List (Entry World)) (closed : List Nat), graph.History before closings after ∧
    closings.map Entry.call = closed.map .close ∧ ∀ number < graph.scripts.size, number ∈ closed

/-- The blank script has no variables. -/
theorem known_of_mem_rootVariables {entry : Variable}
    (listed : entry ∈ graph.rootVariables number) : number < graph.scripts.size := by
  obtain ⟨layout, registered, -⟩ := exists_of_mem_rootVariables listed
  exact known_of_registered registered

/-- A root block binds each of its own variables once and none of other root blocks. -/
theorem multiplicity_rootVariable (settled : tree.Settled) (inhabits : graph.Inhabits tree)
    (separate : graph.SeparateRoots) {layout : Layout}
    (registered :
      (graph.script number).tree.rootLayout? (graph.script number).root = some layout)
    {other : Nat} {entry : Variable} (listed : entry ∈ graph.rootVariables other) :
    layout.multiplicity entry.cell = if other = number then 1 else 0 := by
  have known := known_of_registered registered
  split
  · next same =>
    subst same
    rw [rootVariables_eq registered] at listed
    rw [inhabits.shared other known] at registered
    exact settled.multiplicity_self (Tree.rootLayout?_eq_some registered).1 listed
  · next different =>
    apply Layout.multiplicity_eq_zero
    rintro ⟨own, ownListed, same⟩
    rw [← rootVariables_eq registered] at ownListed
    exact separate number known other (known_of_mem_rootVariables listed) (Ne.symm different)
      own ownListed entry listed same

/-- All bindings of a root variable on accounts are those of its own script. -/
theorem libraryDepth_rootVariable (settled : tree.Settled) (inhabits : graph.Inhabits tree)
    (separate : graph.SeparateRoots) {entry : Variable}
    (listed : entry ∈ graph.rootVariables number) (workspace : Workspace World) :
    graph.libraryDepth workspace entry.cell =
      if (workspace.status number).libraryBound then 1 else 0 := by
  have share_eq (other : Nat) : graph.share workspace entry.cell other =
      if other = number then if (workspace.status number).libraryBound then 1 else 0 else 0 := by
    cases bound : (workspace.status other).libraryBound with
    | false =>
      rw [share_of_unbound bound]
      split
      · next same =>
        rw [same] at bound
        simp [bound]
      · rfl
    | true =>
      cases registered : (graph.script other).tree.rootLayout? (graph.script other).root with
      | none =>
        simp only [share, rootVariables, registered, List.countP_nil, ite_self]
        split
        · next same =>
          obtain ⟨layout, known, -⟩ := exists_of_mem_rootVariables listed
          rw [same, known] at registered
          cases registered
        · rfl
      | some layout =>
        rw [share_of_bound registered bound,
          multiplicity_rootVariable settled inhabits separate registered listed]
        by_cases same : other = number
        · simp [same, same ▸ bound]
        · simp [same, Ne.symm same]
  rw [libraryDepth, Finset.sum_congr rfl fun other _ => share_eq other,
    Finset.sum_ite_eq' (Finset.range graph.scripts.size) number,
    if_pos (Finset.mem_range.mpr (known_of_mem_rootVariables listed))]

/-- Declaring a script shows in the number of times that its own root was declared. -/
theorem Declared.timesDeclared {layout : Layout}
    (declared : graph.Declared number layout before after) (root : NodeId) :
    after.machine.timesDeclared root =
      before.machine.timesDeclared root + if (graph.script number).root = root then 1 else 0 := by
  obtain ⟨frames, opened⟩ := declared.opened
  rw [Machine.timesDeclared_eq, Machine.timesDeclared_eq, opened, List.countP_cons]
  simp [Occurrence.opensLibrary]

/-- A script whose libraries are initialized is declared when it is to be initialized. -/
theorem declared_of_prepare {layout : Layout}
    (registered :
      (graph.script number).tree.rootLayout? (graph.script number).root = some layout)
    (initialized : ∀ library, graph.Includes number library →
      (before.status library).initialized = true)
    {fuel : Nat} (ended : (graph.prepare fuel number false before).final? = some after) :
    graph.Declared number layout (flag number before) after := by
  have skipped (libraries : List { library // library < number })
      (listed : ∀ library ∈ libraries, library ∈ graph.libraries number) :
      (libraries.forM fun library =>
        unlessInitialized library.1 (graph.prepare fuel library.1 false)) (flag number before) =
        .done () (flag number before) := by
    induction libraries with
    | nil => rfl
    | cons library rest inductionHypothesis =>
      have already : ((flag number before).status library.1).initialized = true :=
        growing_flag number before library.1
          (initialized library.1 (includes_of_mem (listed library List.mem_cons_self)))
      have unchanged : unlessInitialized library.1 (graph.prepare fuel library.1 false)
          (flag number before) = .done () (flag number before) := by
        simp only [unlessInitialized, Exec.bind_apply, Exec.state, already, if_true,
          Exec.pure_apply]
      change (unlessInitialized library.1 (graph.prepare fuel library.1 false) >>= fun _ =>
        rest.forM _) (flag number before) = _
      rw [Exec.bind_apply, unchanged]
      exact inductionHypothesis fun other member => listed other (List.mem_cons_of_mem _ member)
  rw [prepare_apply, prepareFlagged, Exec.bind_apply, skipped _ fun _ member => member] at ended
  exact declared_of_declare registered ended

/-- What is left over on no account, script by script, and how often scripts have been declared. -/
structure Tally (graph : ScriptGraph World) (start : Workspace World) (repeated : Nat → Nat)
    (workspace : Workspace World) : Prop where
  ledger : ∃ base, graph.Open (fun _ => True) base workspace ∧
    ∀ number, ∀ entry ∈ graph.rootVariables number, base entry.cell = repeated number
  prepared : ∀ number, (workspace.status number).libraryBound = true →
    ∀ library, graph.Includes number library → (workspace.status library).initialized = true
  registered : ∀ number, (workspace.status number).libraryBound = true →
    ∃ layout, (graph.script number).tree.rootLayout? (graph.script number).root = some layout
  times : ∀ number < graph.scripts.size,
    workspace.machine.timesDeclared (graph.script number).root =
      start.machine.timesDeclared (graph.script number).root +
        (if (workspace.status number).libraryBound then 1 else 0) + repeated number
  bound : ∀ number, 0 < repeated number → (workspace.status number).libraryBound = true

namespace Tally

variable {start : Workspace World} {repeated : Nat → Nat}

/-- Before anything is run the tally is at nothing. -/
theorem of_untouched (untouched : start.Untouched)
    (unbound : ∀ number, ∀ entry ∈ graph.rootVariables number,
      start.machine.store.depth entry.cell = 0) :
    graph.Tally start (fun _ => 0) start where
  ledger := ⟨_, open_of_untouched untouched, unbound⟩
  prepared number bound := by
    rw [untouched.libraryBound] at bound
    cases bound
  registered number bound := by
    rw [untouched.libraryBound] at bound
    cases bound
  times number _ := by simp [untouched.libraryBound]
  bound _ repeatedBefore := absurd repeatedBefore (Nat.lt_irrefl 0)

/-- The tally goes by flags, depths and declarations. -/
theorem akin (tally : graph.Tally start repeated before) (akin : before.Akin after) :
    graph.Tally start repeated after where
  ledger := by
    obtain ⟨base, holds, left⟩ := tally.ledger
    exact ⟨base, (open_invariant fun _ _ => trivial).akin holds akin, left⟩
  prepared number bound library includes := by
    rw [akin.initialized]
    exact tally.prepared number (akin.libraryBound number ▸ bound) library includes
  registered number bound := tally.registered number (akin.libraryBound number ▸ bound)
  times number known := by
    rw [akin.timesDeclared, akin.libraryBound]
    exact tally.times number known
  bound number repeatedBefore := by
    rw [akin.libraryBound]
    exact tally.bound number repeatedBefore

/-- Flagging a script declares nothing. -/
theorem flagged (tally : graph.Tally start repeated workspace) (number : Nat) :
    graph.Tally start repeated (flag number workspace) := by
  have same (other : Nat) := libraryBound_flag number other workspace
  refine ⟨?_, ?_, ?_, ?_, ?_⟩
  · obtain ⟨base, holds, left⟩ := tally.ledger
    exact ⟨base, (open_invariant fun _ _ => trivial).flagged holds number, left⟩
  · intro other bound library includes
    rw [same] at bound
    exact growing_flag number workspace library (tally.prepared other bound library includes)
  · intro other bound
    rw [same] at bound
    exact tally.registered other bound
  · intro other known
    rw [same]
    exact tally.times other known
  · intro other repeatedBefore
    rw [same]
    exact tally.bound other repeatedBefore

end Tally

/-- Declaring a script that is not bound is what initializing it once is meant to do; declaring one
that is bound is counted. -/
theorem Tally.declared {start : Workspace World} {repeated : Nat → Nat} {layout : Layout}
    (settled : tree.Settled) (inhabits : graph.Inhabits tree) (separate : graph.SeparateRoots)
    (tally : graph.Tally start repeated before)
    (initialized : (before.status number).initialized = true)
    (prepared : ∀ library, graph.Includes number library →
      (before.status library).initialized = true)
    (declared : graph.Declared number layout before after) :
    graph.Tally start (fun other => repeated other +
      if other = number ∧ (before.status number).libraryBound = true then 1 else 0) after := by
  have known := known_of_registered declared.registered
  obtain ⟨base, holds, left⟩ := tally.ledger
  refine ⟨?_, ?_, ?_, ?_, ?_⟩
  · cases bound : (before.status number).libraryBound with
    | false =>
      refine ⟨base, (open_invariant fun _ _ => trivial).declared holds trivial initialized prepared
        bound declared, ?_⟩
      intro other entry listed
      simp [left other entry listed]
    | true =>
      refine ⟨_, ⟨⟨holds.accounted.declared_again bound declared, fun _ _ => trivial⟩, ?_, ?_⟩, ?_⟩
      · intro other otherBound
        rw [declared.status] at otherBound ⊢
        split
        · exact initialized
        · next different =>
          rw [if_neg different] at otherBound
          exact holds.initialized other otherBound
      · intro other
        rw [declared.status]
        split
        · exact holds.unclosed number
        · exact holds.unclosed other
      · intro other entry listed
        simp only [left other entry listed, and_true, Nat.add_comm,
          multiplicity_rootVariable settled inhabits separate declared.registered listed]
  · intro other bound library includes
    have earlier : (before.status library).initialized = true := by
      rw [declared.status] at bound
      split at bound
      · next same => exact prepared library (same ▸ includes)
      · exact tally.prepared other bound library includes
    rw [declared.status]
    split
    · exact initialized
    · exact earlier
  · intro other bound
    rw [declared.status] at bound
    split at bound
    · next same => exact ⟨layout, same ▸ declared.registered⟩
    · exact tally.registered other bound
  · intro other otherKnown
    rw [declared.timesDeclared, tally.times other otherKnown, declared.status]
    by_cases same : other = number
    · subst same
      cases (before.status other).libraryBound <;> simp <;> omega
    · have roots : (graph.script number).root ≠ (graph.script other).root :=
        fun equal => same (inhabits.distinct number known other otherKnown equal).symm
      simp [same, roots]
  · intro other repeatedBefore
    rw [declared.status]
    split
    · rfl
    · next different =>
      rw [if_neg fun repeats => different repeats.1] at repeatedBefore
      exact tally.bound other repeatedBefore

/-- As long as nobody asks for the initialization of what is bound, the tally stays. -/
theorem tally_invariant (settled : tree.Settled) (inhabits : graph.Inhabits tree)
    (separate : graph.SeparateRoots) (start : Workspace World) (repeated : Nat → Nat) :
    graph.Invariant (fun _ => True) (graph.Tally start repeated) where
  libraries _ _ := trivial
  akin tally akin := tally.akin akin
  unbound tally number uninitialized := by
    obtain ⟨base, holds, -⟩ := tally.ledger
    exact (open_invariant fun _ _ => trivial).unbound holds uninitialized
  flagged tally number := tally.flagged number
  declared tally number layout _ initialized prepared unbound declared := by
    simpa [unbound] using
      tally.declared settled inhabits separate initialized prepared declared

/-- The tally after a history of initializations counts the repeated ones. -/
theorem History.tally (settled : tree.Settled) (inhabits : graph.Inhabits tree)
    (separate : graph.SeparateRoots) {start final : Workspace World} {entries : List (Entry World)}
    (history : graph.History start entries final)
    (calls : ∀ entry ∈ entries, ∃ number skipSelf, entry.call = .prepare number skipSelf)
    (untouched : start.Untouched)
    (unbound : ∀ number, ∀ entry ∈ graph.rootVariables number,
      start.machine.store.depth entry.cell = 0) :
    graph.Tally start (fun number => entries.countP (Entry.repeats number)) final := by
  induction history with
  | start => exact .of_untouched untouched unbound
  | @call entries current ready after call earlier handed performed inductionHypothesis =>
    have tally : graph.Tally start (fun number => entries.countP (Entry.repeats number)) ready :=
      (inductionHypothesis fun entry member =>
        calls entry (List.mem_append_left _ member)).akin handed.akin
    obtain ⟨number, skipSelf, rfl⟩ : ∃ number skipSelf, call = .prepare number skipSelf :=
      calls ⟨call, ready⟩ (List.mem_append_right _ (List.mem_singleton_self _))
    cases performed with
    | prepare ended =>
      simp only [List.countP_append, List.countP_singleton]
      by_cases bound : skipSelf = false ∧ (ready.status number).libraryBound = true
      · obtain ⟨rfl, alreadyBound⟩ := bound
        obtain ⟨layout, registered⟩ := tally.registered number alreadyBound
        have prepared := tally.prepared number alreadyBound
        have counted := (tally.flagged number).declared settled inhabits separate
          (by rw [status_amend, if_pos rfl])
          (fun library includes => growing_flag number ready library (prepared library includes))
          (declared_of_prepare registered prepared ended)
        simp only [libraryBound_flag, alreadyBound, and_true] at counted
        have repeats (other : Nat) :
            Entry.repeats other ⟨.prepare number false, ready⟩ = true ↔ other = number := by
          simp only [Entry.repeats, Call.prepare.injEq, and_true, Bool.and_eq_true,
            decide_eq_true_eq]
          exact ⟨fun same => same.1.symm, fun same => ⟨same.symm, same ▸ alreadyBound⟩⟩
        simpa only [repeats] using counted
      · have kept := ((tally_invariant settled inhabits separate start _).prepare trivial _
          (fun declared => by simpa [declared] using bound)).finished ended tally
        have single (other : Nat) :
            Entry.repeats other ⟨.prepare number skipSelf, ready⟩ = false := by
          simp only [Entry.repeats, Call.prepare.injEq]
          grind
        simpa [single] using kept

/-- When all scripts have been closed, no bindings are left but those on nobody's account. -/
theorem Closing.depth_closesAll {Allowed : Nat → Prop} {base : Cell → Nat}
    (closing : graph.Closing Allowed base before) (closesAll : graph.ClosesAll before after)
    (cell : Cell) : after.machine.store.depth cell = base cell := by
  obtain ⟨closings, closed, tornDown, closeCalls, covered⟩ := closesAll
  have closedUp := tornDown.closing_of_closings closeCalls closing
  have unbound (number : Nat) : graph.share after cell number = 0 := by
    by_cases known : number < graph.scripts.size
    · exact share_of_unbound (closedUp.released number
        (tornDown.closed_of_closings closeCalls (covered number known))) cell
    · exact share_of_unknown known cell
  rw [closedUp.accounted cell, libraryDepth, Finset.sum_eq_zero fun number _ => unbound number,
    Nat.add_zero]

end ScriptGraph

/-- Scripts over one tree are initialized as libraries in any order and with any repetition. Each of
them has been declared once if it is bound, and once more for every call that asked for it although
it was bound. Its variables have as many bindings, and when everything has been closed, those that
are left are exactly the ones of the repeated calls: none, if there was no such call. -/
theorem library_initialization_count {graph : ScriptGraph World} {tree : Tree World}
    (built : tree.IsBuilt) (inhabits : graph.Inhabits tree) (separate : graph.SeparateRoots)
    {start final : Workspace World} (untouched : start.Untouched)
    (unbound : ∀ number, ∀ entry ∈ graph.rootVariables number,
      start.machine.store.depth entry.cell = 0)
    {entries : List (Entry World)} (history : graph.History start entries final)
    (calls : ∀ entry ∈ entries, ∃ number skipSelf, entry.call = .prepare number skipSelf)
    {number : Nat} (known : number < graph.scripts.size) :
    let once := if (final.status number).libraryBound then 1 else 0
    let repeated := entries.countP (Entry.repeats number)
    final.machine.timesDeclared (graph.script number).root =
      start.machine.timesDeclared (graph.script number).root + once + repeated ∧
    (∀ declared ∈ graph.rootVariables number,
      final.machine.store.depth declared.cell = once + repeated ∧
      ∀ closed, graph.ClosesAll final closed →
        closed.machine.store.depth declared.cell = repeated) ∧
    (final.machine.timesDeclared (graph.script number).root ≤
      start.machine.timesDeclared (graph.script number).root + 1 ↔ repeated = 0) := by
  intro once repeated
  obtain ⟨directives, builder, key, complete, rfl⟩ := built
  have settled := Builder.finish_settled complete key
  have tally := history.tally settled inhabits separate calls untouched unbound
  have times := tally.times number known
  obtain ⟨base, holds, left⟩ := tally.ledger
  refine ⟨times, ?_, ?_⟩
  · intro declared listed
    constructor
    · rw [holds.accounted, left number declared listed,
        libraryDepth_rootVariable settled inhabits separate listed, Nat.add_comm]
    · intro closed closesAll
      rw [holds.closing.depth_closesAll closesAll, left number declared listed]
  · have bound : 0 < repeated → once = 1 := by
      intro repeatedBefore
      simp only [once, tally.bound number repeatedBefore, if_true]
    have atMost : once ≤ 1 := by
      simp only [once]
      split <;> omega
    change _ = _ + once + repeated at times
    omega

theorem brokenDiamond_inhabits : brokenDiamond.Inhabits brokenDiamondTree where
  shared number known :=
    match number, known with
    | 0, _ => rfl
    | 1, _ => rfl
    | 2, _ => rfl
  distinct := by decide

/-- The last script is to be initialized twice, since the second one fails on the way at first, and
then the second one again. The first script was declared once and leaves nothing behind. The second
one was declared twice and leaves a binding behind. -/
theorem library_initialization_count_broken :
    let start : Workspace Unit := { machine := { host := { world := () } } }
    let first := (brokenDiamond.prepare 9 2 false start).state
    let second := (brokenDiamond.prepare 9 2 false first).state
    let final := (brokenDiamond.prepare 9 1 false second).state
    final.machine.timesDeclared ⟨1⟩ = 1 ∧ final.machine.timesDeclared ⟨4⟩ = 2 ∧
    ∀ closed, brokenDiamond.ClosesAll final closed →
      closed.machine.store.depth ⟨0, ⟨0⟩⟩ = 0 ∧ closed.machine.store.depth ⟨0, ⟨3⟩⟩ = 1 := by
  intro start first second final
  have history : brokenDiamond.History start _ final :=
    ((History.start.call (.refl start) (Performs.prepared (by decide +kernel))).call
      (.refl first) (Performs.prepared (by decide +kernel))).call
      (.refl second) (Performs.prepared (by decide +kernel))
  have counts {number : Nat} (known : number < brokenDiamond.scripts.size) :=
    library_initialization_count ⟨brokenDirectives, _, 0, rfl, rfl⟩ brokenDiamond_inhabits
      (by decide) (.of_statuses rfl) (fun _ _ _ => rfl) history (by simp) known
  have base : (⟨⟨0, ⟨0⟩⟩, "base", .script ⟨1⟩⟩ : Variable) ∈ brokenDiamond.rootVariables 0 := by
    decide
  have broken : (⟨⟨0, ⟨3⟩⟩, "broken", .script ⟨4⟩⟩ : Variable) ∈ brokenDiamond.rootVariables 1 := by
    decide
  refine ⟨by decide +kernel, by decide +kernel, ?_⟩
  intro closed closesAll
  refine ⟨(((counts (by decide)).2.1 _ base).2 closed closesAll).trans ?_,
    (((counts (by decide)).2.1 _ broken).2 closed closesAll).trans ?_⟩
  · decide +kernel
  · decide +kernel

/-- A script with one variable that is initialized as a library twice: its declaration is run twice,
the variable has two bindings, and one of them is left after the script was closed. -/
theorem initialized_again_leaves_binding :
    let graph : ScriptGraph Unit :=
      .sole [.node (.statement (.declareVariable ⟨"x", .plain, none⟩)), .root [⟨0⟩]] ⟨1⟩
    let start : Workspace Unit := { machine := { host := { world := () } } }
    let once := (graph.prepare 9 0 false start).state
    let twice := (graph.prepare 9 0 false once).state
    twice.machine.timesDeclared ⟨1⟩ = 2 ∧ twice.machine.store.depth ⟨0, ⟨0⟩⟩ = 2 ∧
    (graph.close 0 twice).machine.store.depth ⟨0, ⟨0⟩⟩ = 1 := by
  decide +kernel

end Treewalk
