import Treewalk.Proofs.ActivationSymmetry
import Treewalk.Proofs.TraceGrowth

/-!
# Guards

What may be noted can depend on a condition that the machine is in: which frames are logged, or
which variables are bound. A guard is such a condition together with what may be noted while it
holds. It may look at nothing but the frames and the number of bindings of each variable. Both are
what they were when a computation has finished, so a guard that holds at the start holds wherever
the computation goes on, and `Guard.contract` makes it a contract.

A scope has frames and bindings of its own, so a body may be guarded differently inside a scope than
the scope is from outside.
-/

namespace Treewalk

variable {World Result : Type}

/-- A condition, and what may be noted while it holds. -/
structure Guard (World : Type) where
  Holds : Machine World → Prop
  Allowed : Occurrence → Prop
  /-- The nodes that may be entered. -/
  Sites : NodeId → Prop := fun _ => True
  stable {before after : Machine World} (holds : Holds before)
    (frames : after.monitor.frames = before.monitor.frames)
    (depth : ∀ cell, after.store.depth cell = before.store.depth cell) : Holds after
  /-- What the operations of the machine note by themselves may be noted. -/
  allows {machine : Machine World} (holds : Holds machine) (occurrence : Occurrence)
    (noted : occurrence.NotedAmong Sites machine.monitor.frames) : Allowed occurrence

namespace Guard

open Machine

variable {guard inner : Guard World} {before after : Machine World}
  {body : Exec (Machine World) Result}

/-- A guard that held at the start holds when everything is restored. -/
theorem holds_of_restored (holds : guard.Holds before) (restored : before.Restored after) :
    guard.Holds after :=
  guard.stable holds restored.frames fun cell => (restored.bindings cell).1

/-- A guard still holds after a node was entered. -/
theorem holds_enter (holds : guard.Holds before) (node : NodeId) :
    guard.Holds (before.enter node) := by
  have pushed : guard.Holds (before.push node) := guard.stable holds rfl fun _ => rfl
  exact holds_of_restored pushed (Restored.enter node before)

/-- A guard that holds with the frame of a scope holds once its call site is entered. -/
theorem holds_opened {activation : Activation} (holds : guard.Holds (activation.framed before)) :
    guard.Holds (activation.opened before) := by
  simp only [Activation.opened]
  split
  · exact holds_enter holds _
  · exact holds

/-- Stacks and bindings are restored, and where the condition holds nothing else is noted than what
may be. -/
def contract (guard : Guard World) : Contract (Machine World) where
  Raised _ := True
  Finished before after :=
    before.Restored after ∧ (guard.Holds before → before.Later guard.Allowed after)
  Reached before after := guard.Holds before → before.Later guard.Allowed after
  refl machine := ⟨.refl machine, fun _ => .refl machine⟩
  trans earlier later :=
    ⟨earlier.1.trans later.1, fun holds =>
      (earlier.2 holds).trans (later.2 (holds_of_restored holds earlier.1))⟩
  reached_of_finished finished := finished.2
  reached_trans earlier later holds :=
    (earlier.2 holds).trans (later (holds_of_restored holds earlier.1))

/-- What restores everything and notes only what may be noted keeps to the guard. -/
theorem kept_of_later (restores : restoring.Kept body)
    (later : ∀ before, guard.Holds before → before.Later guard.Allowed (body before).state) :
    guard.contract.Kept body := by
  intro before
  have restored := restores before
  have gained := later before
  cases ended : body before with
  | done result after =>
    rw [ended] at restored gained
    exact ⟨restored, gained⟩
  | failed fault after =>
    rw [ended] at restored gained
    exact ⟨trivial, restored.2, gained⟩
  | exhausted after =>
    rw [ended] at gained
    exact gained

/-- A look at the stop signal notes nothing that the guard forbids. -/
theorem kept_poll : guard.contract.Kept (poll : Exec (Machine World) Bool) :=
  kept_of_later (restoring_of_quietly quietly_poll) fun before holds => by
    rw [poll_apply]
    exact .look (fun raised => guard.allows holds (.signalled .outside raised) trivial) before

/-- A failed write has to be allowed for; a successful one notes nothing. -/
theorem kept_write {site : WriteSite} {cell : Cell}
    (unbound : ∀ machine : Machine World, guard.Holds machine →
      machine.store.bindings cell = [] → guard.Allowed (.unbound site cell machine.store))
    (name : String) (value : Value) : guard.contract.Kept (write site name cell value) :=
  kept_of_later (restoring_of_quietly (quietly_write site name cell value)) fun before holds =>
    .write (unbound before holds) name value

/-- A construct notes its invocation and perhaps a move of the stop signal. -/
theorem kept_invoke (construct : Construct World) (arguments : List Value) :
    guard.contract.Kept (invoke construct arguments) :=
  kept_of_later (restoring_of_quietly (quietly_invoke construct arguments)) fun before holds =>
    .invoke before (guard.allows holds) construct arguments

/-- Handing a fault on notes at most that the policy raises the stop signal. -/
theorem kept_hand (fault : Fault) :
    guard.contract.Kept (hand fault : Exec (Machine World) Unit) :=
  kept_of_later (restoring_of_quietly (quietly_hand fault)) fun before holds =>
    .hand before (guard.allows holds) fault

/-- Handing a fault on from a statement notes that first. -/
theorem kept_handFrom (statement : NodeId) (fault : Fault) :
    guard.contract.Kept (handFrom statement fault : Exec (Machine World) Unit) :=
  kept_of_later (restoring_of_quietly (quietly_handFrom statement fault)) fun before holds =>
    .handFrom before (guard.allows holds) statement fault

/-- A statement may be entered if the guard lists its node. -/
theorem kept_tracked {node : NodeId} (site : guard.Sites node)
    (kept : guard.contract.Kept body) :
    guard.contract.Kept
      (do
        Exec.update (Machine.enter node)
        Exec.ensuring body (Machine.leave node)) := by
  refine Contract.kept_tracked node kept ?_ ?_
  · rintro before after ⟨restored, later⟩
    refine ⟨Restored.leave ((Restored.enter node before).trans restored), fun holds => ?_⟩
    have inside := holds_enter holds node
    have entered : before.Later guard.Allowed (before.enter node) :=
      .enter before (guard.allows holds) site
    exact (entered.trans (later inside)).trans
      (.leave after (guard.allows (holds_of_restored inside restored)) node)
  · intro before after later holds
    have entered : before.Later guard.Allowed (before.enter node) :=
      .enter before (guard.allows holds) site
    exact entered.trans (later (holds_enter holds node))

/-- Error scopes change nothing that a guard looks at. -/
theorem kept_protect (kept : guard.contract.Kept body) : guard.contract.Kept (protect body) := by
  have opened {before : Machine World} (holds : guard.Holds before) :
      guard.Holds before.openScope :=
    guard.stable holds rfl fun _ => rfl
  have unnoted {before after : Machine World} (trace : after.trace = before.trace)
      (monitor : after.monitor = before.monitor) : before.Later guard.Allowed after :=
    .of_same trace (by rw [monitor]) (by rw [monitor])
  have opening (before : Machine World) : before.Later guard.Allowed before.openScope :=
    unnoted rfl rfl
  refine Contract.kept_protect kept ?_ ?_
  · rintro before after ⟨restored, later⟩
    refine ⟨{ restored with }, fun holds => ?_⟩
    exact ((opening before).trans (later (opened holds))).trans (unnoted rfl rfl)
  · intro before after later holds
    exact (opening before).trans (later (opened holds))

/-- What runs inside a scope keeps to the guard of that scope. -/
theorem kept_within (activation : Activation) (kept : inner.contract.Kept body)
    (opens : ∀ before, guard.Holds before → inner.Holds (activation.framed before))
    (sites : ∀ site ∈ activation.callSite, inner.Sites site)
    (included : ∀ occurrence, inner.Allowed occurrence → guard.Allowed occurrence) :
    guard.contract.Kept (activation.within body) := by
  intro before
  have opened (holds : guard.Holds before) :
      before.Later guard.Allowed (activation.opened before) := by
    refine .opened activation before (fun occurrence noted => ?_) sites
    exact included occurrence (inner.allows (opens before holds) occurrence noted)
  have closes (after : Machine World)
      (finished : inner.contract.Finished (activation.opened before) after) :
      guard.contract.Finished before (activation.exit after) := by
    obtain ⟨restored, later⟩ := finished
    refine ⟨Restored.exit restored, fun holds => ?_⟩
    have inside := holds_opened (opens before holds)
    have left : after.Later inner.Allowed (activation.exit after) :=
      .exit after (inner.allows (holds_of_restored inside restored)) activation
    exact (opened holds).trans (((later inside).trans left).mono included)
  have fulfilled := kept (activation.opened before)
  rw [Activation.within_apply]
  split
  · exact ⟨trivial, .refused activation _ before, fun holds =>
      .refused before (guard.allows holds) activation _⟩
  · simp only [Exec.ensuring]
    cases ended : body (activation.opened before) with
    | done result after =>
      rw [ended] at fulfilled
      exact closes after fulfilled
    | failed fault after =>
      rw [ended] at fulfilled
      exact ⟨trivial, closes after fulfilled.2⟩
    | exhausted after =>
      rw [ended] at fulfilled
      exact fun holds =>
        (opened holds).trans ((fulfilled (holds_opened (opens before holds))).mono included)

end Guard

end Treewalk
