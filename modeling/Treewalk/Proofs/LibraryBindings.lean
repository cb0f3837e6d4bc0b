import Mathlib.Algebra.Order.BigOperators.Group.Finset
import Treewalk.Proofs.ScriptHistories

/-!
# Bindings of libraries

A script that was initialized as a library holds one invocation's bindings of its variables until it
is closed. `ScriptGraph.Accounted` says that a cell has as many bindings as it had to begin with and
those that the bound scripts hold. Binding a script that is not bound keeps the accounts, and so
does closing one: it gives up exactly what it held.

Closing a script closes everything that it reaches, since whatever is closed already has its
libraries closed.
-/

namespace Treewalk

variable {World : Type}

namespace ScriptGraph

open Workspace

/-- The variables of the root block of a script; without a registered root there are none. -/
def rootVariables (graph : ScriptGraph World) (number : Nat) : List Variable :=
  match (graph.script number).tree.rootLayout? (graph.script number).root with
  | some layout => layout.entries
  | none => []

/-- How many bindings of a cell a script holds because it is bound as a library. -/
def share (graph : ScriptGraph World) (workspace : Workspace World) (cell : Cell) (number : Nat) :
    Nat :=
  if (workspace.status number).libraryBound then
    (graph.rootVariables number).countP (·.cell == cell)
  else 0

/-- How many bindings of a cell all bound scripts hold. -/
def libraryDepth (graph : ScriptGraph World) (workspace : Workspace World) (cell : Cell) : Nat :=
  ∑ number ∈ Finset.range graph.scripts.size, graph.share workspace cell number

/-- Apart from those that bound scripts hold, each cell has a given number of bindings. -/
def Accounted (graph : ScriptGraph World) (base : Cell → Nat) (workspace : Workspace World) :
    Prop :=
  ∀ cell, workspace.machine.store.depth cell = base cell + graph.libraryDepth workspace cell

variable {graph : ScriptGraph World} {before after workspace : Workspace World} {number : Nat}

/-- Only scripts of the graph have a registered root. -/
theorem known_of_registered {layout : Layout}
    (registered :
      (graph.script number).tree.rootLayout? (graph.script number).root = some layout) :
    number < graph.scripts.size := by
  by_contra unknown
  have blank : graph.script number = .blank World := by
    simp [ScriptGraph.script, Array.getD, unknown]
  rw [blank] at registered
  cases registered

/-- The variables of a registered root are those of its layout. -/
theorem rootVariables_eq {layout : Layout}
    (registered :
      (graph.script number).tree.rootLayout? (graph.script number).root = some layout) :
    graph.rootVariables number = layout.entries := by
  simp only [rootVariables, registered]

/-- A root that is not registered has no variables. -/
theorem exists_of_mem_rootVariables {entry : Variable}
    (listed : entry ∈ graph.rootVariables number) :
    ∃ layout, (graph.script number).tree.rootLayout? (graph.script number).root = some layout ∧
      entry ∈ layout.entries := by
  simp only [rootVariables] at listed
  split at listed
  · next layout registered => exact ⟨layout, registered, listed⟩
  · cases listed

/-- A script that is bound has a share of every cell for each time it declares it. -/
theorem share_of_bound {layout : Layout}
    (registered :
      (graph.script number).tree.rootLayout? (graph.script number).root = some layout)
    (bound : (workspace.status number).libraryBound = true) (cell : Cell) :
    graph.share workspace cell number = layout.multiplicity cell := by
  simp only [share, bound, if_true, rootVariables_eq registered, Layout.multiplicity]

/-- A script that is not bound has no share. -/
theorem share_of_unbound (unbound : (workspace.status number).libraryBound = false)
    (cell : Cell) : graph.share workspace cell number = 0 := by
  simp [share, unbound]

/-- Shares go by the flag that the script is bound. -/
theorem share_congr (same : (after.status number).libraryBound =
    (before.status number).libraryBound) (cell : Cell) :
    graph.share after cell number = graph.share before cell number := by
  simp only [share, same]

/-- The bindings of all libraries together go by the same flags. -/
theorem libraryDepth_congr (same : ∀ number, (after.status number).libraryBound =
    (before.status number).libraryBound) (cell : Cell) :
    graph.libraryDepth after cell = graph.libraryDepth before cell :=
  Finset.sum_congr rfl fun number _ => share_congr (same number) cell

/-- A number without a script holds nothing. -/
theorem share_of_unknown (unknown : ¬ number < graph.scripts.size) (cell : Cell) :
    graph.share workspace cell number = 0 := by
  simp only [share, rootVariables]
  cases registered : (graph.script number).tree.rootLayout? (graph.script number).root with
  | none => simp
  | some layout => exact absurd (known_of_registered registered) unknown

/-- What changes for one script only shows in its own share. -/
theorem libraryDepth_add_share (graph : ScriptGraph World) (number : Nat)
    (others : ∀ other ≠ number, (after.status other).libraryBound =
      (before.status other).libraryBound) (cell : Cell) :
    graph.libraryDepth after cell + graph.share before cell number =
      graph.libraryDepth before cell + graph.share after cell number := by
  have rest : ∑ other ∈ (Finset.range graph.scripts.size).erase number,
      graph.share after cell other =
      ∑ other ∈ (Finset.range graph.scripts.size).erase number, graph.share before cell other := by
    apply Finset.sum_congr rfl
    intro other member
    exact share_congr (others other (Finset.ne_of_mem_erase member)) cell
  by_cases known : number < graph.scripts.size
  · have listed : number ∈ Finset.range graph.scripts.size := Finset.mem_range.mpr known
    rw [libraryDepth, libraryDepth, ← Finset.add_sum_erase _ _ listed,
      ← Finset.add_sum_erase _ _ listed, rest]
    omega
  · have unlisted : number ∉ Finset.range graph.scripts.size := by simpa using known
    rw [Finset.erase_eq_of_notMem unlisted] at rest
    rw [share_of_unknown known, share_of_unknown known, libraryDepth, libraryDepth, rest]

/-- A script holds no more than all scripts do. -/
theorem share_le_libraryDepth (number : Nat) (cell : Cell) :
    graph.share workspace cell number ≤ graph.libraryDepth workspace cell := by
  by_cases known : number < graph.scripts.size
  · exact Finset.single_le_sum (fun _ _ => Nat.zero_le _) (Finset.mem_range.mpr known)
  · rw [share_of_unknown known]
    exact Nat.zero_le _

/-- Where no script is bound, none holds bindings. -/
theorem libraryDepth_eq_zero
    (unbound : ∀ number, (workspace.status number).libraryBound = false) (cell : Cell) :
    graph.libraryDepth workspace cell = 0 :=
  Finset.sum_eq_zero fun number _ => share_of_unbound (unbound number) cell

namespace Accounted

variable {base : Cell → Nat}

/-- Where no script is bound, all bindings are those to begin with. -/
theorem of_unbound (unbound : ∀ number, (workspace.status number).libraryBound = false) :
    graph.Accounted workspace.machine.store.depth workspace := by
  intro cell
  rw [libraryDepth_eq_zero unbound, Nat.add_zero]

/-- Accounts go by flags and depths, and these agree. -/
theorem akin (accounted : graph.Accounted base before) (akin : before.Akin after) :
    graph.Accounted base after := by
  intro cell
  rw [akin.depth, accounted cell, libraryDepth_congr akin.libraryBound]

/-- Flagging a script as initialized binds nothing. -/
theorem flagged (accounted : graph.Accounted base workspace) (number : Nat) :
    graph.Accounted base (flag number workspace) := by
  intro cell
  rw [libraryDepth_congr fun other => libraryBound_flag number other workspace]
  exact accounted cell

/-- Declaring a script that is not bound puts the new bindings on the account of the script. -/
theorem declared {layout : Layout} (accounted : graph.Accounted base before)
    (unbound : (before.status number).libraryBound = false)
    (declared : graph.Declared number layout before after) : graph.Accounted base after := by
  intro cell
  have others : ∀ other ≠ number,
      (after.status other).libraryBound = (before.status other).libraryBound := by
    intro other different
    rw [declared.status, if_neg different]
  have balance := graph.libraryDepth_add_share number others cell
  have earlier : graph.share before cell number = 0 := share_of_unbound unbound cell
  have later : graph.share after cell number = layout.multiplicity cell :=
    share_of_bound declared.registered (by rw [declared.status, if_pos rfl]) cell
  rw [declared.depth, accounted cell]
  omega

/-- Declaring a script that is bound already puts nothing on its account: the new bindings are as
good as there to begin with. -/
theorem declared_again {layout : Layout} (accounted : graph.Accounted base before)
    (bound : (before.status number).libraryBound = true)
    (declared : graph.Declared number layout before after) :
    graph.Accounted (fun cell => layout.multiplicity cell + base cell) after := by
  intro cell
  have same : ∀ other, (after.status other).libraryBound =
      (before.status other).libraryBound := by
    intro other
    rw [declared.status]
    split
    · next same => rw [same, bound]
    · rfl
  rw [declared.depth, accounted cell, libraryDepth_congr same, Nat.add_assoc]

end Accounted

/-- Close a script apart from its libraries. -/
def release (graph : ScriptGraph World) (number : Nat) (workspace : Workspace World) :
    Workspace World :=
  let flagged :=
    workspace.amend number fun status => { status with closed := true, libraryBound := false }
  match (workspace.status number).libraryBound,
    (graph.script number).tree.rootLayout? (graph.script number).root with
  | true, some layout =>
    { flagged with
      machine := { flagged.machine with store := flagged.machine.store.unbind layout } }
  | _, _ => flagged

/-- Closing a script closes it and then its libraries; what is closed stays as it is. -/
theorem close_apply (graph : ScriptGraph World) (number : Nat) (workspace : Workspace World) :
    graph.close number workspace =
      if (workspace.status number).closed then workspace
      else (graph.libraries number).foldl (fun before library => graph.close library.1 before)
        (graph.release number workspace) := by
  have again (library : Nat) (before : Workspace World) :
      (if (before.status library).closed then before else graph.close library before) =
        graph.close library before := by
    by_cases closed : (before.status library).closed
    · rw [if_pos closed, close, if_pos closed]
    · rw [if_neg closed]
  rw [close]
  simp only [again]
  rfl

@[simp] theorem status_release (other : Nat) :
    (graph.release number workspace).status other =
      if other = number then
        { workspace.status number with closed := true, libraryBound := false }
      else workspace.status other := by
  simp only [release]
  split <;> exact status_amend number other _

/-- Closing a script takes its share back. -/
theorem depth_release (cell : Cell) :
    (graph.release number workspace).machine.store.depth cell =
      workspace.machine.store.depth cell - graph.share workspace cell number := by
  simp only [release, share, rootVariables]
  split
  · next layout bound registered =>
    rw [if_pos bound]
    simp [Store.depth, Layout.multiplicity, registered, Workspace.amend]
  · next other =>
    cases bound : (workspace.status number).libraryBound with
    | false => rfl
    | true =>
      cases registered : (graph.script number).tree.rootLayout? (graph.script number).root with
      | none => rfl
      | some layout => exact (other layout bound registered).elim

/-- A script that is closed gives up what it held. -/
theorem Accounted.release {base : Cell → Nat} (accounted : graph.Accounted base workspace)
    (number : Nat) : graph.Accounted base (graph.release number workspace) := by
  intro cell
  have others : ∀ other ≠ number, ((graph.release number workspace).status other).libraryBound =
      (workspace.status other).libraryBound := by
    intro other different
    rw [status_release, if_neg different]
  have balance := graph.libraryDepth_add_share number others cell
  have later : graph.share (graph.release number workspace) cell number = 0 := by
    apply share_of_unbound
    rw [status_release, if_pos rfl]
  have held : graph.share workspace cell number ≤ graph.libraryDepth workspace cell :=
    share_le_libraryDepth number cell
  rw [depth_release, accounted cell]
  omega

/-- Closing keeps whatever giving up a single script keeps. -/
theorem close_preserves (Holds : Workspace World → Prop)
    (released : ∀ number workspace, Holds workspace → Holds (graph.release number workspace))
    (number : Nat) (holds : Holds workspace) : Holds (graph.close number workspace) := by
  induction number using Nat.strongRecOn generalizing workspace with
  | ind number inductionHypothesis =>
    rw [close_apply]
    split
    · exact holds
    · apply List.foldlRecOn (motive := Holds) _ _ (released number workspace holds)
      intro before kept library _
      exact inductionHypothesis library.1 library.2 kept

/-- A script stays closed. -/
theorem closed_release (other : Nat) (closed : (workspace.status other).closed = true) :
    ((graph.release number workspace).status other).closed = true := by
  rw [status_release]
  split
  · rfl
  · exact closed

/-- Closed once, a script stays closed when others are. -/
theorem closed_of_closed (number other : Nat) (closed : (workspace.status other).closed = true) :
    ((graph.close number workspace).status other).closed = true :=
  close_preserves (fun workspace => (workspace.status other).closed = true)
    (fun _ _ => closed_release other) number closed

/-- Closed once, a script stays closed when many others are. -/
theorem closed_foldl_of_closed (libraries : List { library // library < number }) (other : Nat)
    (closed : (workspace.status other).closed = true) :
    ((libraries.foldl (fun before library => graph.close library.1 before) workspace).status
      other).closed = true := by
  induction libraries generalizing workspace with
  | nil => exact closed
  | cons first rest inductionHypothesis =>
    exact inductionHypothesis (closed_of_closed first.1 other closed)

/-- A script that was closed is closed, also if it was before. -/
theorem closed_close (number : Nat) (workspace : Workspace World) :
    ((graph.close number workspace).status number).closed = true := by
  rw [close_apply]
  split
  · next closed => exact closed
  · apply closed_foldl_of_closed
    rw [status_release, if_pos rfl]

/-- If a script is closed, its libraries are. -/
def Sealed (graph : ScriptGraph World) (workspace : Workspace World) (number : Nat) : Prop :=
  (workspace.status number).closed = true →
    ∀ library, graph.Includes number library → (workspace.status library).closed = true

/-- All libraries of a list are closed one after the other. -/
theorem closed_foldl {libraries : List { library // library < number }}
    {library : { library // library < number }} (member : library ∈ libraries)
    (workspace : Workspace World) :
    ((libraries.foldl (fun before library => graph.close library.1 before) workspace).status
      library.1).closed = true := by
  induction libraries generalizing workspace with
  | nil => cases member
  | cons first rest inductionHypothesis =>
    rcases List.mem_cons.mp member with rfl | later
    · exact closed_foldl_of_closed rest library.1 (closed_close library.1 workspace)
    · exact inductionHypothesis later _

/-- While a script is being closed its libraries still have to be, so scripts that are pending are
exempt from being sealed. The script itself never needs to be. -/
theorem sealed_close (Pending : Nat → Prop)
    (sealedBefore : ∀ other, ¬ Pending other → graph.Sealed workspace other) :
    ∀ other, ¬ Pending other → graph.Sealed (graph.close number workspace) other := by
  induction number using Nat.strongRecOn generalizing workspace Pending with
  | ind number inductionHypothesis =>
    by_cases closed : (workspace.status number).closed = true
    · rw [close_apply, if_pos closed]
      exact sealedBefore
    · have released (other : Nat) (settled : ¬ (Pending other ∨ other = number)) :
          graph.Sealed (graph.release number workspace) other := by
        intro otherClosed library includes
        rw [status_release, if_neg fun same => settled (.inr same)] at otherClosed
        exact closed_release library
          (sealedBefore other (fun pending => settled (.inl pending)) otherClosed library includes)
      have folded : ∀ other, ¬ (Pending other ∨ other = number) →
          graph.Sealed (graph.close number workspace) other := by
        rw [close_apply, if_neg closed]
        apply List.foldlRecOn (motive := fun workspace => ∀ other,
          ¬ (Pending other ∨ other = number) → graph.Sealed workspace other) _ _ released
        intro before kept library _
        exact inductionHypothesis library.1 library.2 _ kept
      intro other settled
      by_cases same : other = number
      · subst same
        rintro - library ⟨smaller, member⟩
        rw [close_apply, if_neg closed]
        exact closed_foldl member _
      · exact folded other (by simp [settled, same])

/-- Where all scripts are sealed, closing goes all the way down. -/
theorem closed_of_reaches (allSealed : ∀ number, graph.Sealed workspace number)
    {library : Nat} (reaches : graph.Reaches number library)
    (closed : (workspace.status number).closed = true) :
    (workspace.status library).closed = true := by
  induction reaches with
  | refl => exact closed
  | tail _ includes inductionHypothesis => exact allSealed _ inductionHypothesis _ includes

end ScriptGraph

end Treewalk
