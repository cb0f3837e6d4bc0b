import Treewalk.Proofs.ActivationSymmetry
import Treewalk.Proofs.StopSignal

/-!
# Recursive isolation

Two runs of one call from stores that differ in the variables of the called function cannot be told
apart: an invocation starts with bindings of its own and never looks below them. The runs are
followed side by side. `Machine.AgreesOn` relates two machines that differ at most in their
bindings, and there agree on the newest binding of the given cells. Inside the call they agree on
all cells, and `agreement` is the congruence that keeps it so.

Leaving an invocation uncovers older bindings. That these are what they were on entry is known of
each run by itself, from activation symmetry, so the congruence carries both facts along.

The pause hook sees bindings, too. Its answers are required not to depend on them.
-/

namespace Treewalk

variable {World Result Next : Type}

/-- What a pause hook sees, apart from the bindings. -/
def Snapshot.withoutStore (snapshot : Snapshot) : Snapshot :=
  { snapshot with store := { } }

/-- The answers do not depend on the bindings. -/
def PauseHook.IsBlind (hook : PauseHook) : Prop :=
  ∀ left right : List Snapshot, left.map Snapshot.withoutStore = right.map Snapshot.withoutStore →
    hook left = hook right

namespace Store

/-- What is current is the newest binding. -/
theorem current?_of_bindings {left right : Store} {cell : Cell}
    (same : left.bindings cell = right.bindings cell) :
    left.current? cell = right.current? cell :=
  congrArg List.head? same

/-- Only a cell without a binding cannot be overwritten. -/
theorem replace?_eq_none {store : Store} {cell : Cell} {value : Value} :
    store.replace? cell value = none ↔ store.current? cell = none := by
  simp only [replace?, current?]
  cases store.bindings cell <;> simp

/-- An overwritten cell shows the new value, other cells what they showed. -/
theorem current?_of_replace? {before after : Store} {cell : Cell} {value : Value}
    (replaced : before.replace? cell value = some after) (other : Cell) :
    after.current? other = if other = cell then some value else before.current? other := by
  obtain ⟨newest, older, -, elsewhere⟩ := bindings_of_replace? replaced
  simp only [current?]
  rw [elsewhere other]
  split <;> rfl

/-- The variables of a scope that was just opened are null. -/
theorem current?_bind (store : Store) (layout : Layout) (cell : Cell) :
    (store.bind layout).current? cell =
      if layout.binds cell then some .null else store.current? cell := by
  simp only [current?]
  rw [bindings_bind]
  split
  · next bound =>
    obtain ⟨count, more⟩ := Nat.exists_eq_add_of_lt (Layout.multiplicity_pos.mpr bound)
    rw [more, Nat.zero_add, List.replicate_succ]
    rfl
  · next unbound =>
    rw [Layout.multiplicity_eq_zero unbound]
    rfl

end Store

namespace Machine

/-- The second machine differs from the first at most in bindings, in what of them was shown to the
pause hook or noted in the trace, and the newest bindings of the given cells are the same. -/
inductive AgreesOn (cells : Cell → Prop) (machine : Machine World) : Machine World → Prop where
  | varied {store : Store} {pauses : List Snapshot} {trace : List Occurrence}
      (current : ∀ cell, cells cell → machine.store.current? cell = store.current? cell)
      (seen : machine.monitor.pauses.map Snapshot.withoutStore = pauses.map Snapshot.withoutStore)
      (invoked : machine.invocations = trace.filterMap Occurrence.invocation?)
      (blind : ∀ hook, machine.monitor.pauseHook = some hook → PauseHook.IsBlind hook) :
      AgreesOn cells machine
        { machine with store, trace, monitor := { machine.monitor with pauses } }

namespace AgreesOn

variable {cells : Cell → Prop} {left right : Machine World}

/-- Agreement on more cells is agreement on fewer. -/
theorem mono {fewer : Cell → Prop} (included : ∀ cell, fewer cell → cells cell)
    (agrees : left.AgreesOn cells right) : left.AgreesOn fewer right := by
  obtain ⟨current, seen, invoked, blind⟩ := agrees
  exact .varied (fun cell listed => current cell (included cell listed)) seen invoked blind

/-- Machines that agree have a stop due together or not at all. -/
theorem shouldStop (agrees : left.AgreesOn cells right) : left.shouldStop = right.shouldStop := by
  cases agrees
  rfl

/-- Machines that agree have the same error scopes. -/
theorem sameScopes (agrees : left.AgreesOn cells right) : right.scopes = left.scopes := by
  cases agrees
  rfl

/-- Machines that agree have their signals alike. -/
theorem stopped (agrees : left.AgreesOn cells right) : left.stopped = right.stopped := by
  cases agrees
  rfl

/-- Machines that agree on a cell have the same value there. -/
theorem current? (agrees : left.AgreesOn cells right) {cell : Cell} (listed : cells cell) :
    left.store.current? cell = right.store.current? cell := by
  cases agrees with
  | varied current => exact current cell listed

/-- Machines that agree have invoked the same constructs. -/
theorem invocations (agrees : left.AgreesOn cells right) :
    left.invocations = right.invocations := by
  cases agrees with
  | varied _ _ invoked => exact invoked

/-- Machines that agree have recorded the same failures. -/
theorem errors (agrees : left.AgreesOn cells right) :
    left.monitor.errors = right.monitor.errors := by
  cases agrees
  rfl

/-- Machines that agree have no hook that sees the store. -/
theorem blind (agrees : left.AgreesOn cells right) :
    ∀ hook, left.monitor.pauseHook = some hook → PauseHook.IsBlind hook := by
  cases agrees with
  | varied _ _ _ blind => exact blind

/-- Occurrences that are no invocations may differ. -/
theorem note (agrees : left.AgreesOn cells right) {first second : Occurrence}
    (same : first.invocation? = second.invocation?) :
    (left.note first).AgreesOn cells (right.note second) := by
  obtain ⟨current, seen, invoked, blind⟩ := agrees
  refine .varied current seen ?_ blind
  simp only [Machine.invocations] at invoked ⊢
  simp only [Machine.note]
  rw [List.filterMap_cons, List.filterMap_cons, same, invoked]

/-- Stores that agree may take the place of others that do. -/
theorem store (agrees : left.AgreesOn cells right) {more : Cell → Prop} {first second : Store}
    (current : ∀ cell, more cell → first.current? cell = second.current? cell) :
    { left with store := first }.AgreesOn more { right with store := second } := by
  obtain ⟨-, seen, invoked, blind⟩ := agrees
  exact .varied current seen invoked blind

/-- Either side may get the same new host. -/
theorem host (agrees : left.AgreesOn cells right) (host : Host World) :
    { left with host }.AgreesOn cells { right with host } := by
  obtain ⟨current, seen, invoked, blind⟩ := agrees
  exact .varied current seen invoked blind

/-- Failures are recorded on both sides. -/
theorem record (agrees : left.AgreesOn cells right) (fault : Fault) :
    { left with monitor := left.monitor.record fault }.AgreesOn cells
      { right with monitor := right.monitor.record fault } := by
  obtain ⟨current, seen, invoked, blind⟩ := agrees
  exact .varied current seen invoked blind

/-- Either side may get the same new error scopes. -/
theorem scopes (agrees : left.AgreesOn cells right) (scopes : List ErrorScope) :
    { left with scopes }.AgreesOn cells { right with scopes } := by
  obtain ⟨current, seen, invoked, blind⟩ := agrees
  exact .varied current seen invoked blind

/-- The signal moves on both sides. -/
theorem signal (agrees : left.AgreesOn cells right) (raised : Bool) :
    (left.signal raised).AgreesOn cells (right.signal raised) := by
  obtain ⟨current, seen, invoked, blind⟩ := agrees
  simp only [Machine.signal]
  split
  · exact .varied current seen invoked blind
  · exact .varied current seen invoked blind

/-- Its moves are noted on both sides. -/
theorem noteMove (agrees : left.AgreesOn cells right) (mover : SignalMover) (earlier : Bool) :
    (left.noteMove mover earlier).AgreesOn cells (right.noteMove mover earlier) := by
  simp only [Machine.noteMove]
  rw [agrees.stopped]
  split
  · exact agrees
  · exact agrees.note rfl

/-- It is raised on both sides. -/
theorem raise (agrees : left.AgreesOn cells right) (mover : SignalMover) :
    (left.raise mover).AgreesOn cells (right.raise mover) := by
  simp only [Machine.raise]
  rw [agrees.stopped]
  exact (agrees.signal true).noteMove mover _

/-- Whoever is outside moves the signal on both sides. -/
theorem moveOutside (agrees : left.AgreesOn cells right) (raised : Bool) :
    (left.moveOutside raised).AgreesOn cells (right.moveOutside raised) := by
  simp only [Machine.moveOutside]
  rw [agrees.stopped]
  exact (agrees.signal raised).noteMove .outside _

/-- The same moves come from outside in both runs. -/
theorem look (agrees : left.AgreesOn cells right) : left.look.AgreesOn cells right.look := by
  have counted : left.countLook.AgreesOn cells right.countLook := by
    obtain ⟨current, seen, invoked, blind⟩ := agrees
    exact .varied current seen invoked blind
  have sameMove : right.outside right.looks = left.outside left.looks := by
    cases agrees
    rfl
  rw [look_eq, look_eq, sameMove]
  split
  · exact counted
  · exact counted.moveOutside _

/-- A blind hook answers alike on both sides. -/
theorem obey (agrees : left.AgreesOn cells right) (action : PauseAction) :
    (left.obey action).AgreesOn cells (right.obey action) := by
  cases action with
  | stop => exact agrees.raise .pauseHook
  | resume => exact agrees

/-- The hook sees the same in both runs, but for the bindings. -/
theorem shown (agrees : left.AgreesOn cells right) (node : NodeId) :
    (left.snapshot node :: left.monitor.pauses).map Snapshot.withoutStore =
      (right.snapshot node :: right.monitor.pauses).map Snapshot.withoutStore := by
  obtain ⟨-, seen, -, -⟩ := agrees
  exact congrArg ((left.snapshot node).withoutStore :: ·) seen

/-- What is remembered of a pause differs in the store, if anywhere. -/
theorem notePause (agrees : left.AgreesOn cells right) (node : NodeId) (action : PauseAction) :
    (left.notePause node action).AgreesOn cells (right.notePause node action) := by
  have shown := agrees.shown node
  obtain ⟨current, -, invoked, blind⟩ := agrees
  refine note ?_ rfl
  exact .varied current shown invoked blind

/-- A blind hook answers the same in both runs. -/
theorem pause (agrees : left.AgreesOn cells right) (node : NodeId) :
    (left.pause node).AgreesOn cells (right.pause node) := by
  have sameHook : right.monitor.pauseHook = left.monitor.pauseHook := by
    cases agrees
    rfl
  unfold Machine.pause
  rw [sameHook]
  split
  · exact agrees
  · next hook installed =>
    have sameAnswer : hook (left.snapshot node :: left.monitor.pauses) =
        hook (right.snapshot node :: right.monitor.pauses) :=
      agrees.blind hook installed _ _ (agrees.shown node)
    dsimp only
    rw [sameAnswer]
    exact (agrees.notePause node _).obey _

/-- A node is pushed while the same frames are logged. -/
theorem push (agrees : left.AgreesOn cells right) (node : NodeId) :
    (left.push node).AgreesOn cells (right.push node) := by
  obtain ⟨current, seen, invoked, blind⟩ := agrees
  refine note ?_ rfl
  exact .varied current seen invoked blind

/-- A node is entered on both sides, with the pause there. -/
theorem enter (agrees : left.AgreesOn cells right) (node : NodeId) :
    (left.enter node).AgreesOn cells (right.enter node) := by
  have pushed := agrees.push node
  have breakpoints :
      (left.push node).monitor.breakpoints = (right.push node).monitor.breakpoints := by
    cases agrees
    rfl
  simp only [Machine.enter]
  rw [breakpoints]
  split
  · exact pushed.pause node
  · exact pushed

/-- A node is left on both sides. -/
theorem leave (agrees : left.AgreesOn cells right) (node : NodeId) :
    (left.leave node).AgreesOn cells (right.leave node) := by
  obtain ⟨current, seen, invoked, blind⟩ := agrees
  refine note ?_ rfl
  exact .varied current seen invoked blind

theorem openScope (agrees : left.AgreesOn cells right) :
    left.openScope.AgreesOn cells right.openScope := by
  obtain ⟨current, seen, invoked, blind⟩ := agrees
  exact .varied current seen invoked blind

theorem closeScope (agrees : left.AgreesOn cells right) :
    left.closeScope.AgreesOn cells right.closeScope := by
  obtain ⟨current, seen, invoked, blind⟩ := agrees
  exact .varied current seen invoked blind

/-- A frame is logged at the same height on both sides. -/
theorem logFrame (agrees : left.AgreesOn cells right) (scope : Scope) (entries : List Variable) :
    { left with monitor := left.monitor.logFrame scope entries }.AgreesOn cells
      { right with monitor := right.monitor.logFrame scope entries } := by
  obtain ⟨current, seen, invoked, blind⟩ := agrees
  exact .varied current seen invoked blind

theorem exitFrame (agrees : left.AgreesOn cells right) :
    left.exitFrame.AgreesOn cells right.exitFrame := by
  obtain ⟨current, seen, invoked, blind⟩ := agrees
  simp only [Machine.exitFrame, Monitor.dropFrame]
  split
  · exact .varied current seen invoked blind
  · exact .varied current seen invoked blind

end AgreesOn

/-- Outcomes that cannot be told apart, as far as they are outcomes at all. -/
inductive Matches (cells : Cell → Prop) :
    Outcome (Machine World) Result → Outcome (Machine World) Result → Prop where
  | done (result : Result) {left right : Machine World} (agrees : left.AgreesOn cells right) :
      Matches cells (.done result left) (.done result right)
  | failed (fault : Fault) {left right : Machine World} (agrees : left.AgreesOn cells right) :
      Matches cells (.failed fault left) (.failed fault right)
  | exhausted (left right : Machine World) : Matches cells (.exhausted left) (.exhausted right)

namespace Matches

variable {cells : Cell → Prop} {left right : Outcome (Machine World) Result}

/-- Matched ends have the same result. -/
theorem result?_eq (matched : Matches cells left right) : left.result? = right.result? := by
  cases matched <;> rfl

/-- They lead to states that agree. -/
theorem agrees (matched : Matches cells left right) {leftAfter rightAfter : Machine World}
    (leftEnded : left.final? = some leftAfter) (rightEnded : right.final? = some rightAfter) :
    leftAfter.AgreesOn cells rightAfter := by
  cases matched with
  | done result agrees =>
    cases leftEnded
    cases rightEnded
    exact agrees
  | failed fault agrees =>
    cases leftEnded
    cases rightEnded
    exact agrees
  | exhausted => cases leftEnded

end Matches

/-- Every cell. -/
def everywhere (_ : Cell) : Prop :=
  True

/-- Two computations that cannot be told apart, and restore what they change. -/
structure Indistinguishable (left right : Exec (Machine World) Result) : Prop where
  agree : ∀ {first second : Machine World}, first.AgreesOn everywhere second →
    Matches everywhere (left first) (right second)
  left : restoring.Kept left
  right : restoring.Kept right

namespace AgreesOn

variable {cells : Cell → Prop} {left right : Machine World} {activation : Activation}

/-- Inside an invocation the machines agree on its variables, whatever lies below. -/
theorem opened (owns : activation.ownsBindings = true)
    (total : ∀ cell, cells cell ∨ activation.layout.binds cell)
    (agrees : left.AgreesOn cells right) :
    (activation.opened left).AgreesOn everywhere (activation.opened right) := by
  have bound : { left with store := left.store.bind activation.layout }.AgreesOn everywhere
      { right with store := right.store.bind activation.layout } := by
    apply agrees.store
    intro cell _
    rw [Store.current?_bind, Store.current?_bind]
    split
    · rfl
    · next unbound => exact agrees.current? ((total cell).resolve_right unbound)
  have framed : (activation.framed left).AgreesOn everywhere (activation.framed right) := by
    simp only [Activation.framed, Activation.bind]
    simp only [owns, if_true]
    exact bound.logFrame activation.layout.owner activation.layout.debugInfo
  simp only [Activation.opened]
  split
  · exact framed.enter _
  · exact framed

/-- A scope with bindings of its own is refused on both sides, and takes its bindings back. -/
theorem refused (owns : activation.ownsBindings = true) (agrees : left.AgreesOn cells right)
    (limit : Nat) :
    (activation.refused limit left).AgreesOn cells (activation.refused limit right) := by
  simp only [Activation.refused, Activation.bind, Activation.unbind]
  simp only [owns, if_true]
  refine store (agrees.note rfl) ?_
  intro cell listed
  have undone (before : Store) :
      ((before.bind activation.layout).unbind activation.layout).current? cell =
        before.current? cell :=
    Store.current?_of_bindings (Store.bindings_unbind_bind before activation.layout cell)
  exact (undone left.store).trans ((agrees.current? listed).trans (undone right.store).symm)

end AgreesOn

/-- What was opened by entering a scope changed at most in the newest bindings. -/
theorem Restored.sameBelowTop {activation : Activation} {before after : Machine World}
    (inside : Restored (activation.opened before) after) :
    (activation.bind before).store.SameBelowTop after.store := by
  simp only [Activation.opened] at inside
  split at inside
  · next site _ =>
    exact (Restored.enter site (activation.framed before)).bindings.trans inside.bindings
  · exact inside.bindings

/-- Leaving an invocation gives back the bindings that its variables had before. -/
theorem Restored.bindings_exit {activation : Activation} (owns : activation.ownsBindings = true)
    {before after : Machine World} (inside : Restored (activation.opened before) after)
    (cell : Cell) :
    (activation.exit after).store.bindings cell =
      if activation.layout.binds cell then before.store.bindings cell
      else after.store.bindings cell := by
  have same := inside.sameBelowTop
  have store : (activation.exit after).store = after.store.unbind activation.layout := by
    simp only [Activation.exit, Activation.unbind]
    simp only [owns, if_true]
    split <;> rfl
  simp only [Activation.bind, owns, if_true] at same
  rw [store, same.bindings_unbind cell]

/-- After an invocation the machines agree where they did before, if they agreed inside. -/
theorem AgreesOn.exit {cells : Cell → Prop} {left right leftAfter rightAfter : Machine World}
    {activation : Activation} (owns : activation.ownsBindings = true)
    (agrees : left.AgreesOn cells right)
    (leftInside : Restored (activation.opened left) leftAfter)
    (rightInside : Restored (activation.opened right) rightAfter)
    (inside : leftAfter.AgreesOn everywhere rightAfter) :
    (activation.exit leftAfter).AgreesOn cells (activation.exit rightAfter) := by
  have current : ∀ cell, cells cell → (activation.exit leftAfter).store.current? cell =
      (activation.exit rightAfter).store.current? cell := by
    intro cell listed
    simp only [Store.current?]
    rw [leftInside.bindings_exit owns, rightInside.bindings_exit owns]
    split
    · exact agrees.current? listed
    · exact inside.current? trivial
  have stepped : (activation.exit leftAfter).AgreesOn (fun _ => False)
      (activation.exit rightAfter) := by
    have nowhere := inside.mono (fun cell (none : False) => none.elim)
    simp only [Activation.exit, Activation.unbind]
    simp only [owns, if_true]
    split
    · exact store (nowhere.leave _).exitFrame fun cell none => none.elim
    · exact store nowhere.exitFrame fun cell none => none.elim
  exact stepped.store current

/-- Two runs of an invocation from machines that agree outside of its scope. -/
theorem matches_within {cells : Cell → Prop} {activation : Activation}
    (owns : activation.ownsBindings = true)
    (total : ∀ cell, cells cell ∨ activation.layout.binds cell)
    {leftBody rightBody : Exec (Machine World) Result}
    (bodies : Indistinguishable leftBody rightBody) {left right : Machine World}
    (agrees : left.AgreesOn cells right) :
    Matches cells (activation.within leftBody left) (activation.within rightBody right) := by
  have sameRefusal : right.monitor.refuses activation.layout.owner =
      left.monitor.refuses activation.layout.owner := by
    cases agrees
    rfl
  rw [Activation.within_apply, Activation.within_apply, sameRefusal]
  split
  · next limit _ => exact .failed _ (agrees.refused owns limit)
  · have matched := bodies.agree (agrees.opened owns total)
    have leftKept := bodies.left (activation.opened left)
    have rightKept := bodies.right (activation.opened right)
    simp only [Exec.ensuring]
    generalize leftBody (activation.opened left) = leftEnd at matched leftKept ⊢
    generalize rightBody (activation.opened right) = rightEnd at matched rightKept ⊢
    cases matched with
    | done result inside => exact .done result (agrees.exit owns leftKept rightKept inside)
    | failed fault inside => exact .failed fault (agrees.exit owns leftKept.2 rightKept.2 inside)
    | exhausted leftAfter rightAfter => exact .exhausted leftAfter rightAfter

namespace Indistinguishable

variable {left right : Exec (Machine World) Result}

/-- What cannot be told apart cannot be in sequence. -/
theorem bind {leftNext rightNext : Result → Exec (Machine World) Next}
    (first : Indistinguishable left right)
    (next : ∀ result, Indistinguishable (leftNext result) (rightNext result)) :
    Indistinguishable (left >>= leftNext) (right >>= rightNext) where
  agree := by
    intro before other agrees
    have matched := first.agree agrees
    rw [Exec.bind_apply, Exec.bind_apply]
    generalize left before = leftEnd at matched ⊢
    generalize right other = rightEnd at matched ⊢
    cases matched with
    | done result inside => exact (next result).agree inside
    | failed fault inside => exact .failed fault inside
    | exhausted leftAfter rightAfter => exact .exhausted leftAfter rightAfter
  left := Contract.kept_bind first.left fun result => (next result).left
  right := Contract.kept_bind first.right fun result => (next result).right

/-- A failure on one side is the same failure on the other. -/
theorem attempt {leftNext rightNext : Except Fault Result → Exec (Machine World) Next}
    (body : Indistinguishable left right)
    (next : ∀ ended, Indistinguishable (leftNext ended) (rightNext ended)) :
    Indistinguishable (Exec.attempt left >>= leftNext) (Exec.attempt right >>= rightNext) where
  agree := by
    intro before other agrees
    have matched := body.agree agrees
    rw [Exec.bind_apply, Exec.bind_apply]
    simp only [Exec.attempt]
    generalize left before = leftEnd at matched ⊢
    generalize right other = rightEnd at matched ⊢
    cases matched with
    | done result inside => exact (next (.ok result)).agree inside
    | failed fault inside => exact (next (.error fault)).agree inside
    | exhausted leftAfter rightAfter => exact .exhausted leftAfter rightAfter
  left := Contract.kept_attempt body.left (fun result => (next (.ok result)).left)
    fun fault _ => (next (.error fault)).left
  right := Contract.kept_attempt body.right (fun result => (next (.ok result)).right)
    fun fault _ => (next (.error fault)).right

/-- A computation that does one thing is told apart from itself by what that does. -/
theorem self {body : Exec (Machine World) Result} (kept : restoring.Kept body)
    (agree : ∀ {first second : Machine World}, first.AgreesOn everywhere second →
      Matches everywhere (body first) (body second)) : Indistinguishable body body :=
  ⟨agree, kept, kept⟩

/-- A look finds the same on both sides. -/
theorem poll : Indistinguishable (Machine.poll : Exec (Machine World) Bool) Machine.poll := by
  apply self (restoring_of_quietly quietly_poll)
  intro first second agrees
  have looked := agrees.look
  rw [poll_apply, poll_apply, looked.shouldStop]
  exact .done _ looked

/-- A checkpoint stops both sides or none. -/
theorem checkpoint {leftStop rightStop leftGo rightGo : Exec (Machine World) Result}
    (stop : Indistinguishable leftStop rightStop) (go : Indistinguishable leftGo rightGo) :
    Indistinguishable
      (do
        let stops ← Machine.poll
        if stops then leftStop else leftGo)
      (do
        let stops ← Machine.poll
        if stops then rightStop else rightGo) := by
  apply poll.bind
  rintro (_ | _)
  · exact go
  · exact stop

/-- A variable reads alike, since the stores agree on its cell. -/
theorem read (cell : Cell) :
    Indistinguishable
      (do
        let machine ← (Exec.state : Exec (Machine World) (Machine World))
        return (machine.store.current? cell).getD .null)
      (do
        let machine ← Exec.state
        return (machine.store.current? cell).getD .null) := by
  apply self (Contract.kept_state fun _ => Contract.kept_pure _)
  intro first second agrees
  change Matches everywhere (.done ((first.store.current? cell).getD .null) first)
    (.done ((second.store.current? cell).getD .null) second)
  rw [agrees.current? (show everywhere cell from trivial)]
  exact .done _ agrees

/-- A variable is overwritten on both sides, or has no binding on either. -/
theorem write (site : WriteSite) (name : String) (cell : Cell) (value : Value) :
    Indistinguishable (Machine.write site name cell value : Exec (Machine World) Unit)
      (Machine.write site name cell value) := by
  apply self (restoring_of_quietly (quietly_write site name cell value))
  intro first second agrees
  simp only [Machine.write]
  have sameCell := agrees.current? (show everywhere cell from trivial)
  cases leftReplaced : first.store.replace? cell value with
  | none =>
    have rightReplaced : second.store.replace? cell value = none := by
      rw [Store.replace?_eq_none, ← sameCell]
      exact Store.replace?_eq_none.mp leftReplaced
    rw [rightReplaced]
    exact .failed _ (agrees.note rfl)
  | some leftStore =>
    cases rightReplaced : second.store.replace? cell value with
    | none =>
      rw [Store.replace?_eq_none, ← sameCell, ← @Store.replace?_eq_none _ _ value] at rightReplaced
      rw [rightReplaced] at leftReplaced
      cases leftReplaced
    | some rightStore =>
      apply Matches.done
      apply agrees.store
      intro other _
      rw [Store.current?_of_replace? leftReplaced, Store.current?_of_replace? rightReplaced,
        agrees.current? (show everywhere other from trivial)]

/-- Constructs get the same arguments and the same host. -/
theorem invoke (construct : Construct World) (arguments : List Value) :
    Indistinguishable (Machine.invoke construct arguments)
      (Machine.invoke construct arguments) := by
  apply self (restoring_of_quietly (quietly_invoke construct arguments))
  intro first second agrees
  have sameHost : second.host = first.host := by
    cases agrees
    rfl
  have noted : (first.note (.invoked construct.name arguments first.stopped)).AgreesOn everywhere
      (second.note (.invoked construct.name arguments first.stopped)) :=
    agrees.note rfl
  simp only [Machine.invoke]
  rw [sameHost, ← agrees.stopped]
  split
  · next value host _ => exact .done value ((noted.host host).noteMove _ _)
  · next message host _ => exact .failed _ ((noted.host host).noteMove _ _)

/-- Faults are routed by the error scopes and the monitor, which the machines have in common. -/
theorem hand (fault : Fault) :
    Indistinguishable (Machine.hand fault : Exec (Machine World) Unit) (Machine.hand fault) := by
  apply self (restoring_of_quietly (quietly_hand fault))
  intro first second agrees
  have sameTop : second.monitor.top? = first.monitor.top? := by
    cases agrees
    rfl
  have samePolicy : second.monitor.policy = first.monitor.policy := by
    cases agrees
    rfl
  simp only [Machine.hand]
  rw [agrees.sameScopes, sameTop]
  split
  · unfold Machine.handUncaught
    rw [sameTop, samePolicy]
    split
    · exact .failed _ agrees
    · dsimp only
      split
      · exact .failed _ agrees
      · split
        · exact .failed _ agrees
        · exact .done () (agrees.record _)
        · exact .done () ((agrees.record _).raise .policy)
  · split
    · exact .failed _ agrees
    · exact .done () (agrees.scopes _)

/-- A fault that is handed on is recorded alike. -/
theorem handFrom (statement : NodeId) (fault : Fault) :
    Indistinguishable (Machine.handFrom statement fault : Exec (Machine World) Unit)
      (Machine.handFrom statement fault) := by
  apply self (restoring_of_quietly (quietly_handFrom statement fault))
  intro first second agrees
  exact (hand fault).agree (agrees.note rfl)

/-- A statement is on both call stacks or on neither. -/
theorem tracked (program : Program World) (node : NodeId) (body : Indistinguishable left right) :
    Indistinguishable
      (do
        Exec.update (Machine.enter node)
        Exec.ensuring left (Machine.leave node))
      (do
        Exec.update (Machine.enter node)
        Exec.ensuring right (Machine.leave node)) where
  agree := by
    intro first second agrees
    have matched := body.agree (agrees.enter node)
    change Matches everywhere (Exec.ensuring left (Machine.leave node) (first.enter node))
      (Exec.ensuring right (Machine.leave node) (second.enter node))
    simp only [Exec.ensuring]
    generalize left (first.enter node) = leftEnd at matched ⊢
    generalize right (second.enter node) = rightEnd at matched ⊢
    cases matched with
    | done result inside => exact .done result (inside.leave node)
    | failed fault inside => exact .failed fault (inside.leave node)
    | exhausted leftAfter rightAfter => exact .exhausted leftAfter rightAfter
  left := (restoring_upheld program).tracked node body.left
  right := (restoring_upheld program).tracked node body.right

/-- An error scope opened on both sides records alike. -/
theorem protect (program : Program World) (body : Indistinguishable left right) :
    Indistinguishable (Machine.protect left) (Machine.protect right) where
  agree := by
    intro first second agrees
    have matched := body.agree agrees.openScope
    rw [Machine.protect_apply, Machine.protect_apply]
    generalize left first.openScope = leftEnd at matched ⊢
    generalize right second.openScope = rightEnd at matched ⊢
    cases matched with
    | done result inside =>
      dsimp only [Machine.recordedError?]
      rw [inside.sameScopes]
      exact .done _ inside.closeScope
    | failed fault inside => exact .failed fault inside.closeScope
    | exhausted leftAfter rightAfter => exact .exhausted leftAfter rightAfter
  left := (restoring_upheld program).protect body.left
  right := (restoring_upheld program).protect body.right

end Indistinguishable

/-- The evaluator cannot tell machines apart that agree on the newest bindings. -/
def agreement (program : Program World) : program.Congruence where
  Related := Indistinguishable
  Raises _ := True
  raises_ofCause _ := trivial
  pure result := ⟨fun agrees => .done result agrees, Contract.kept_pure result,
    Contract.kept_pure result⟩
  fail raised := ⟨fun agrees => .failed _ agrees, Contract.kept_fail raised,
    Contract.kept_fail raised⟩
  exhausted := ⟨fun _ => .exhausted _ _, Contract.kept_exhausted, Contract.kept_exhausted⟩
  bind := .bind
  attempt body done failed _ := body.attempt fun ended =>
    match ended with
    | .ok result => done result
    | .error fault => failed fault trivial
  checkpoint := .checkpoint
  read := .read
  write := .write
  invoke := .invoke
  hand _ := .hand _
  handFrom statement fault _ _ := .handFrom statement fault
  tracked node _ _ _ _ := .tracked program node
  protect := .protect program
  call site callee _ _ declared _ _ _ body :=
    { agree := fun agrees => matches_within rfl (fun _ => Or.inl trivial) body agrees
      left := (restoring_upheld program).call site callee declared body.left
      right := (restoring_upheld program).call site callee declared body.right }

/-- Whatever an invocation comes to, the bindings of its variables are what they were. -/
theorem bindings_within {activation : Activation} (owns : activation.ownsBindings = true)
    {body : Exec (Machine World) Result} (kept : restoring.Kept body)
    {before after : Machine World} (ended : (activation.within body before).final? = some after)
    {cell : Cell} (bound : activation.layout.binds cell) :
    after.store.bindings cell = before.store.bindings cell := by
  rw [Activation.within_apply] at ended
  split at ended
  · cases ended
    simp only [Activation.refused, Activation.bind, Activation.unbind]
    simp only [owns, if_true]
    exact Store.bindings_unbind_bind before.store activation.layout cell
  · have inside := kept (activation.opened before)
    simp only [Exec.ensuring] at ended
    cases bodyEnded : body (activation.opened before) with
    | done result reached =>
      rw [bodyEnded] at inside ended
      cases ended
      rw [Restored.bindings_exit owns inside, if_pos bound]
    | failed fault reached =>
      rw [bodyEnded] at inside ended
      cases ended
      rw [Restored.bindings_exit owns inside.2, if_pos bound]
    | exhausted reached =>
      rw [bodyEnded] at ended
      cases ended

end Machine

/-- Two runs of a call from stores that agree outside the called function's own variables cannot be
told apart, and neither leaves a trace in those variables. -/
theorem recursive_isolation (program : Program World) (fuel : Nat) (site callee : NodeId)
    (function : FunctionDeclaration) (values : List Value) (machine : Machine World)
    (blind : ∀ hook, machine.monitor.pauseHook = some hook → PauseHook.IsBlind hook)
    (left right : Store)
    (agree : ∀ cell, ¬ (program.tree.functionLayout callee).binds cell →
      left.current? cell = right.current? cell) :
    let run (store : Store) := program.activate (program.process fuel) site callee function values
      { machine with store }
    (run left).result? = (run right).result? ∧
    ∀ leftAfter rightAfter, (run left).final? = some leftAfter →
      (run right).final? = some rightAfter →
      leftAfter.invocations = rightAfter.invocations ∧
      leftAfter.monitor.errors = rightAfter.monitor.errors ∧
      leftAfter.scopes = rightAfter.scopes ∧
      leftAfter.stopped = rightAfter.stopped ∧
      (∀ cell, ¬ (program.tree.functionLayout callee).binds cell →
        leftAfter.store.current? cell = rightAfter.store.current? cell) ∧
      (∀ cell, (program.tree.functionLayout callee).binds cell →
        leftAfter.store.bindings cell = left.bindings cell ∧
        rightAfter.store.bindings cell = right.bindings cell) := by
  intro run
  have body : Machine.Indistinguishable
      (program.runFunction (program.process fuel) function values) _ :=
    (Machine.agreement program).runFunction ((Machine.agreement program).process fuel) function
      values
  have matched : Machine.Matches (fun cell => ¬ (program.tree.functionLayout callee).binds cell)
      (run left) (run right) := by
    refine Machine.matches_within rfl ?_ body (.varied agree rfl rfl blind)
    intro cell
    exact (Decidable.em _).symm
  refine ⟨matched.result?_eq, ?_⟩
  intro leftAfter rightAfter leftEnded rightEnded
  have agrees := matched.agrees leftEnded rightEnded
  refine ⟨agrees.invocations, agrees.errors, agrees.sameScopes.symm, agrees.stopped, ?_, ?_⟩
  · intro cell unbound
    exact agrees.current? unbound
  · intro cell bound
    exact ⟨Machine.bindings_within rfl body.left leftEnded bound,
      Machine.bindings_within rfl body.right rightEnded bound⟩

/-- A function that passes its variable to a construct and then leaves with it. -/
def echoingFunction : Program Unit where
  tree :=
    ((Builder.applyAll { }
      [.node (.statement (.declareFunction ⟨"f", [⟨1⟩], ⟨2⟩⟩)),
        .node (.statement (.declareVariable ⟨"n", .plain, none⟩)),
        .node (.statement (.block [⟨3⟩, ⟨4⟩])),
        .node (.expression (.construct ⟨"echo", 1, fun _ host => (.ok .null, host)⟩ [⟨5⟩])),
        .node (.statement (.leave (some ⟨5⟩))),
        .node (.expression (.read ⟨1⟩))]).getD { }).finish 0

/-- An outer invocation has left a value in the variable, or there is none. -/
theorem recursive_isolation_echo :
    let stale : Store := Store.push { } ⟨0, ⟨1⟩⟩ (.bool false)
    let machine : Machine Unit :=
      { host := { world := () }
        monitor := { breakpoints := [⟨3⟩], pauseHook := some fun _ => .resume } }
    let run (store : Store) := echoingFunction.activate (echoingFunction.process 4) ⟨9⟩ ⟨0⟩
      ⟨"f", [⟨1⟩], ⟨2⟩⟩ [.bool true] { machine with store }
    ∃ leftAfter rightAfter,
      run stale = .done (.bool true) leftAfter ∧ run { } = .done (.bool true) rightAfter ∧
      leftAfter.invocations = [("echo", [.bool true], false)] ∧
      leftAfter.invocations = rightAfter.invocations ∧
      leftAfter.store.bindings ⟨0, ⟨1⟩⟩ = [.bool false] ∧
      rightAfter.store.bindings ⟨0, ⟨1⟩⟩ = [] := by
  intro stale machine run
  have bound : (echoingFunction.tree.functionLayout ⟨0⟩).binds ⟨0, ⟨1⟩⟩ := by decide
  have agree : ∀ cell, ¬ (echoingFunction.tree.functionLayout ⟨0⟩).binds cell →
      stale.current? cell = Store.current? { } cell := by
    intro cell unbound
    have different : cell ≠ ⟨0, ⟨1⟩⟩ := by
      rintro rfl
      exact unbound bound
    simp only [Store.current?]
    rw [Store.bindings_push, if_neg different]
  have isolated := (recursive_isolation echoingFunction 4 ⟨9⟩ ⟨0⟩ ⟨"f", [⟨1⟩], ⟨2⟩⟩ [.bool true]
    machine (by rintro hook ⟨⟩ left right same; rfl) stale { } agree).2
  refine ⟨_, _, rfl, rfl, rfl, ?_⟩
  obtain ⟨invocations, -, -, -, -, bindings⟩ := isolated _ _ rfl rfl
  exact ⟨invocations, bindings _ bound⟩

end Treewalk
