import Treewalk.Proofs.Recasting
import Treewalk.Proofs.ScriptCongruence
import Treewalk.Proofs.TraceGrowth

/-!
# Mirrored runs

Two runs that differ in the setup of the monitor only can be followed side by side: where the one is
in some state, the other is in its image. `Mirror.Mirrored` says that this holds to the end, unless
something happened on the way that is known to make a difference. How often it happened is counted,
and a run that counts nothing new has its image for a twin.

Breakpoints, pause hooks and limits on nested calls are asked in two operations of the machine.
A `Comparison` says what these two do, and from there on `Comparison.ofProgram` and
`Comparison.ofScripts` carry the image through the walk of every node and the run of every script.
-/

namespace Treewalk

variable {World State Result Next : Type}

/-- The states of one run seen from another. -/
structure Mirror (State : Type) where
  /-- The state of the other run. -/
  image : State → State
  /-- The states that are mirrored. -/
  Clear : State → Prop
  /-- How often something has happened that makes a difference. -/
  partings : State → Nat

namespace Mirror

variable {mirror : Mirror State}

/-- What a run may make of a state. -/
structure Onward (mirror : Mirror State) (before after : State) : Prop where
  clear : mirror.Clear before → mirror.Clear after
  partings : mirror.partings before ≤ mirror.partings after

namespace Onward

variable {first second third : State}

/-- Where nothing happens, there is no new difference. -/
theorem refl (state : State) : mirror.Onward state state :=
  ⟨id, Nat.le_refl _⟩

/-- Going onward can be followed along a run. -/
theorem trans (earlier : mirror.Onward first second) (later : mirror.Onward second third) :
    mirror.Onward first third :=
  ⟨fun clear => later.clear (earlier.clear clear), Nat.le_trans earlier.partings later.partings⟩

end Onward

/-- Wherever the first computation ends without a difference, the second ends with the image. -/
structure Mirrored (mirror : Mirror State) (left right : Exec State Result) : Prop where
  onward (before : State) : mirror.Onward before (left before).state
  same {before : State} (clear : mirror.Clear before)
    (unparted : mirror.partings (left before).state = mirror.partings before) :
    right (mirror.image before) = (left before).mapState mirror.image

namespace Mirrored

variable {left right : Exec State Result}

/-- What does the same to the image. -/
theorem of_commutes {body : Exec State Result}
    (onward : ∀ before, mirror.Onward before (body before).state)
    (commutes : ∀ before, mirror.Clear before →
      body (mirror.image before) = (body before).mapState mirror.image) :
    mirror.Mirrored body body :=
  ⟨onward, fun clear _ => commutes _ clear⟩

/-- A value is its own mirror image. -/
theorem pure (result : Result) :
    mirror.Mirrored (Pure.pure result : Exec State Result) (Pure.pure result) :=
  of_commutes .refl fun _ _ => rfl

/-- A failure is its own mirror image. -/
theorem fail (fault : Fault) :
    mirror.Mirrored (Exec.fail fault : Exec State Result) (Exec.fail fault) :=
  of_commutes .refl fun _ _ => rfl

/-- Being cut off is its own mirror image. -/
theorem exhausted : mirror.Mirrored (Exec.exhausted : Exec State Result) Exec.exhausted :=
  of_commutes .refl fun _ _ => rfl

/-- A change of the state is mirrored if it commutes with the image wherever that is clear. -/
theorem update {change : State → State} (onward : ∀ before, mirror.Onward before (change before))
    (commutes : ∀ before, mirror.Clear before →
      change (mirror.image before) = mirror.image (change before)) :
    mirror.Mirrored (Exec.update change) (Exec.update change) :=
  of_commutes onward fun before clear => congrArg (Outcome.done ()) (commutes before clear)

/-- A sequence is mirrored if its parts are: if the whole ends without a difference, so does the
first part. -/
theorem bind {leftNext rightNext : Result → Exec State Next} (first : mirror.Mirrored left right)
    (next : ∀ result, mirror.Mirrored (leftNext result) (rightNext result)) :
    mirror.Mirrored (left >>= leftNext) (right >>= rightNext) where
  onward before := by
    have onward := first.onward before
    rw [Exec.bind_apply]
    cases ended : left before with
    | done result middle =>
      rw [ended] at onward
      exact onward.trans ((next result).onward middle)
    | _ =>
      rw [ended] at onward
      exact onward
  same {before} clear unparted := by
    have onward := first.onward before
    rw [Exec.bind_apply] at unparted
    rw [Exec.bind_apply, Exec.bind_apply]
    cases ended : left before with
    | done result middle =>
      -- Partings only add up, so neither part of the run has any.
      rw [ended] at onward unparted
      have later := ((next result).onward middle).partings
      have level : mirror.partings middle = mirror.partings before :=
        Nat.le_antisymm (unparted ▸ later) onward.partings
      rw [first.same clear (by rw [ended]; exact level), ended]
      exact (next result).same (onward.clear clear) (unparted.trans level.symm)
    | _ =>
      rw [ended] at unparted
      rw [first.same clear (by rw [ended]; exact unparted), ended]
      rfl

/-- A failure is caught on both sides or on neither. -/
theorem attempt (body : mirror.Mirrored left right) :
    mirror.Mirrored (Exec.attempt left) (Exec.attempt right) where
  onward before := by
    have onward := body.onward before
    simp only [Exec.attempt]
    cases ended : left before with
    | _ =>
      rw [ended] at onward
      exact onward
  same {before} clear unparted := by
    simp only [Exec.attempt] at unparted ⊢
    cases ended : left before with
    | _ =>
      rw [ended] at unparted
      rw [body.same clear (by rw [ended]; exact unparted), ended]
      rfl

/-- Cleaning up is mirrored like any other change. -/
theorem ensuring {cleanup : State → State} (body : mirror.Mirrored left right)
    (onward : ∀ before, mirror.Onward before (cleanup before))
    (commutes : ∀ before, mirror.Clear before →
      cleanup (mirror.image before) = mirror.image (cleanup before)) :
    mirror.Mirrored (Exec.ensuring left cleanup) (Exec.ensuring right cleanup) where
  onward before := by
    have inside := body.onward before
    simp only [Exec.ensuring]
    cases ended : left before with
    | exhausted after =>
      rw [ended] at inside
      exact inside
    | _ =>
      rw [ended] at inside
      exact inside.trans (onward _)
  same {before} clear unparted := by
    have inside := body.onward before
    simp only [Exec.ensuring] at unparted ⊢
    cases ended : left before with
    | exhausted after =>
      rw [ended] at unparted
      rw [body.same clear (by rw [ended]; exact unparted), ended]
      rfl
    | done result after =>
      rw [ended] at inside unparted
      have level : mirror.partings after = mirror.partings before :=
        Nat.le_antisymm (unparted ▸ (onward after).partings) inside.partings
      rw [body.same clear (by rw [ended]; exact level), ended]
      exact congrArg (Outcome.done result) (commutes after (inside.clear clear))
    | failed fault after =>
      rw [ended] at inside unparted
      have level : mirror.partings after = mirror.partings before :=
        Nat.le_antisymm (unparted ▸ (onward after).partings) inside.partings
      rw [body.same clear (by rw [ended]; exact level), ended]
      exact congrArg (Outcome.failed fault) (commutes after (inside.clear clear))

/-- Both look at something that the image shows as it is. -/
theorem state {leftNext rightNext : State → Exec State Result}
    (next : ∀ current, mirror.Mirrored (leftNext current) (rightNext current))
    (apart : ∀ current, rightNext (mirror.image current) = rightNext current) :
    mirror.Mirrored (Exec.state >>= leftNext) (Exec.state >>= rightNext) where
  onward before := (next before).onward before
  same {before} clear unparted := by
    change rightNext (mirror.image before) (mirror.image before) = _
    rw [apart]
    exact (next before).same clear unparted

end Mirrored

end Mirror

/-- A recasting of the monitor, and what the two operations do that ask for what it changes. -/
structure Comparison (World : Type) extends Recasting where
  /-- The machines that are recast. -/
  Clear : Machine World → Prop
  /-- The occurrences that make a difference. -/
  parts : Occurrence → Bool
  clear_of_later {before after : Machine World} (later : before.Later (fun _ => True) after)
    (clear : Clear before) : Clear after
  enter (node : NodeId) {machine : Machine World} (clear : Clear machine) :
    (toRecasting.machine machine).enter node = toRecasting.machine (machine.enter node)
  /-- Frames are refused alike, or it makes a difference that this one is. -/
  refuses (scope : Scope) {machine : Machine World} (clear : Clear machine) :
    (toRecasting.machine machine).monitor.refuses scope = machine.monitor.refuses scope ∨
      ∃ limit, machine.monitor.refuses scope = some limit ∧ parts (.refused scope limit) = true

namespace Comparison

variable (comparison : Comparison World)

/-- Machines and what they are recast to. -/
def mirror : Mirror (Machine World) where
  image := comparison.toRecasting.machine
  Clear := comparison.Clear
  partings machine := machine.trace.countP comparison.parts

/-- The same around the machines. -/
def workspaceMirror : Mirror (Workspace World) where
  image := comparison.toRecasting.workspace
  Clear workspace := comparison.Clear workspace.machine
  partings workspace := workspace.machine.trace.countP comparison.parts

/-- A machine that a run leads to parts no less from its image. -/
theorem onward {before after : Machine World} (later : before.Later (fun _ => True) after) :
    comparison.mirror.Onward before after :=
  ⟨comparison.clear_of_later later, later.suffix.countP_le⟩

variable {comparison}

/-- What does the same to every recast machine. -/
theorem mirrored_of_recasts {body : Exec (Machine World) Result}
    (later : ∀ before, Machine.Later (fun _ => True) before (body before).state)
    (recasts : ∀ before, body (comparison.toRecasting.machine before) =
      (body before).mapState comparison.toRecasting.machine) :
    comparison.mirror.Mirrored body body :=
  .of_commutes (fun before => comparison.onward (later before)) fun before _ => recasts before

variable {left right : Exec (Machine World) Result}

/-- Entering and leaving a statement look the same in the mirror. -/
theorem mirrored_tracked (node : NodeId) (body : comparison.mirror.Mirrored left right) :
    comparison.mirror.Mirrored
      (do
        Exec.update (Machine.enter node)
        Exec.ensuring left (Machine.leave node))
      (do
        Exec.update (Machine.enter node)
        Exec.ensuring right (Machine.leave node)) := by
  apply Mirror.Mirrored.bind
  · exact .update (fun before => comparison.onward (.enter before Occurrence.freely trivial))
      fun _ clear => comparison.enter node clear
  · intro _
    exact body.ensuring (fun before => comparison.onward (.leave before Occurrence.freely node))
      fun before _ => comparison.leave node before

/-- An error scope is opened and closed on both sides. -/
theorem mirrored_protect (body : comparison.mirror.Mirrored left right) :
    comparison.mirror.Mirrored (Machine.protect left) (Machine.protect right) := by
  have unnoted {before after : Machine World} (trace : after.trace = before.trace)
      (monitor : after.monitor = before.monitor) : comparison.mirror.Onward before after :=
    comparison.onward (.of_same trace (by rw [monitor]) (by rw [monitor]))
  have opens : comparison.mirror.Mirrored (Exec.update Machine.openScope)
      (Exec.update Machine.openScope) :=
    .update (fun _ => unnoted rfl rfl) fun _ _ => rfl
  apply Mirror.Mirrored.ensuring
  · apply opens.bind
    intro _
    exact body.bind fun _ => .state (fun _ => .pure _) fun _ => rfl
  · exact fun _ => unnoted rfl rfl
  · exact fun _ _ => rfl

/-- Opening a scope may pause at its call site, which looks the same in the mirror. -/
theorem mirrored_opened (activation : Activation) :
    comparison.mirror.Mirrored (Exec.update activation.opened)
      (Exec.update activation.opened) := by
  apply Mirror.Mirrored.update
  · intro before
    exact comparison.onward (.opened activation before Occurrence.freely fun _ _ => trivial)
  · intro before clear
    have framed := comparison.framed activation before
    have stillClear := comparison.clear_of_later (.framed activation before) clear
    change activation.opened (comparison.toRecasting.machine before) =
      comparison.toRecasting.machine (activation.opened before)
    simp only [Activation.opened, framed]
    split
    · exact comparison.enter _ stillClear
    · rfl

/-- A scope is refused on both sides or on neither. -/
theorem mirrored_within (activation : Activation) (body : comparison.mirror.Mirrored left right) :
    comparison.mirror.Mirrored (activation.within left) (activation.within right) := by
  have inside : comparison.mirror.Mirrored
      (do
        Exec.update activation.opened
        Exec.ensuring left activation.exit)
      (do
        Exec.update activation.opened
        Exec.ensuring right activation.exit) := by
    apply (mirrored_opened activation).bind
    intro _
    have exits (before : Machine World) :
        comparison.mirror.Onward before (activation.exit before) :=
      comparison.onward (.exit before Occurrence.freely activation)
    exact body.ensuring exits
      fun before _ => comparison.exit activation before
  constructor
  · intro before
    rw [Activation.within_apply]
    split
    · exact comparison.onward (.refused before Occurrence.freely activation _)
    · exact inside.onward before
  · intro before clear unparted
    have image : comparison.mirror.image before = comparison.toRecasting.machine before := rfl
    rw [Activation.within_apply] at unparted
    rw [Activation.within_apply, Activation.within_apply, image]
    rcases comparison.refuses activation.layout.owner clear with alike | ⟨limit, refused, parts⟩
    · rw [alike]
      cases refuses : before.monitor.refuses activation.layout.owner with
      | some limit =>
        exact congrArg (Outcome.failed _) (comparison.refused activation limit before)
      | none =>
        rw [refuses] at unparted
        exact inside.same clear unparted
    · -- A refusal that makes a difference is counted.
      have noted : (activation.refused limit before).trace =
          .refused activation.layout.owner limit :: before.trace := by
        simp only [Activation.refused, Activation.unbind, Activation.bind]
        split <;> rfl
      rw [refused] at unparted
      simp only [Outcome.state, mirror, noted, List.countP_cons_of_pos parts] at unparted
      omega

/-- The frames around a body are logged on both sides. -/
theorem mirrored_withinFrames (layouts : List Layout)
    (body : comparison.mirror.Mirrored left right) :
    comparison.mirror.Mirrored (Activation.withinFrames layouts left)
      (Activation.withinFrames layouts right) := by
  induction layouts with
  | nil => exact body
  | cons layout rest inductionHypothesis => exact mirrored_within _ inductionHypothesis

/-- Noting something that the recast machine shows as it is. -/
theorem mirrored_noteHere {seen : Machine World → Occurrence}
    (apart : ∀ machine, seen (comparison.toRecasting.machine machine) = seen machine)
    (unpaused : ∀ machine, (seen machine).isPause = false) :
    comparison.mirror.Mirrored (Exec.update fun machine => machine.note (seen machine))
      (Exec.update fun machine => machine.note (seen machine)) := by
  apply Mirror.Mirrored.update
  · exact fun before => comparison.onward (.note trivial before)
  · intro before _
    change (comparison.toRecasting.machine before).note
      (seen (comparison.toRecasting.machine before)) = _
    rw [apart]
    exact comparison.note (unpaused before) before

/-- The walk of every node is mirrored. -/
def ofProgram (comparison : Comparison World) (program : Program World) : program.Congruence where
  Related left right := comparison.mirror.Mirrored left right
  Raises _ := True
  raises_ofCause _ := trivial
  pure := .pure
  fail _ := .fail _
  exhausted := .exhausted
  bind := .bind
  attempt body done failed _ := body.attempt.bind fun ended =>
    match ended with
    | .ok result => done result
    | .error fault => failed fault trivial
  checkpoint stop go := by
    apply (mirrored_of_recasts (fun _ => .look (fun _ => trivial) _) comparison.poll).bind
    rintro (_ | _)
    · exact go
    · exact stop
  read _ := .state (fun _ => .pure _) fun _ => rfl
  write site name cell value :=
    mirrored_of_recasts (fun _ => .write (fun _ => trivial) name value)
      (comparison.write site name cell value)
  invoke construct arguments :=
    mirrored_of_recasts (fun before => .invoke before Occurrence.freely construct arguments)
      (comparison.invoke construct arguments)
  hand _ :=
    mirrored_of_recasts (fun before => .hand before Occurrence.freely _) (comparison.hand _)
  handFrom statement _ _ _ :=
    mirrored_of_recasts (fun before => .handFrom before Occurrence.freely statement _)
      (comparison.handFrom statement _)
  tracked node _ _ _ _ := mirrored_tracked node
  protect := mirrored_protect
  call _ _ _ _ _ _ _ _ := mirrored_within _

/-- The mirror of workspaces is that of their machines. -/
theorem mirrored_onMachine (body : comparison.mirror.Mirrored left right) :
    comparison.workspaceMirror.Mirrored (Workspace.onMachine left)
      (Workspace.onMachine right) where
  onward before := by
    have onward := body.onward before.machine
    simp only [Workspace.onMachine, Exec.zoom]
    cases ended : left before.machine with
    | _ =>
      rw [ended] at onward
      exact ⟨onward.clear, onward.partings⟩
  same {before} clear unparted := by
    have machines : (comparison.workspaceMirror.image before).machine =
        comparison.mirror.image before.machine := rfl
    simp only [Workspace.onMachine, Exec.zoom, machines] at unparted ⊢
    cases ended : left before.machine with
    | _ =>
      rw [ended] at unparted
      rw [body.same clear (by rw [ended]; exact unparted), ended]
      rfl

section

variable {change : Workspace World → Workspace World}
  (apart : ∀ workspace machine,
    change { workspace with machine } = { change workspace with machine })

include apart

/-- What does not touch the machine goes onward. -/
theorem onward_of_apart (before : Workspace World) :
    comparison.workspaceMirror.Onward before (change before) := by
  have same := Workspace.machine_of_apart apart before
  exact ⟨fun clear => by simpa only [workspaceMirror, same] using clear,
    by simp only [workspaceMirror, same, Nat.le_refl]⟩

/-- What does not touch the machine commutes with the image. -/
theorem image_of_apart (before : Workspace World) :
    change (comparison.workspaceMirror.image before) =
      comparison.workspaceMirror.image (change before) := by
  simp only [workspaceMirror, Recasting.workspace]
  rw [apart, Workspace.machine_of_apart apart]

end

/-- The runs of every script are mirrored. -/
def ofScripts (comparison : Comparison World) (graph : ScriptGraph World) (fuel : Nat) :
    graph.Congruence fuel fuel where
  Related left right := comparison.workspaceMirror.Mirrored left right
  pure := .pure
  failFor _ := .fail _
  bind := .bind
  inspect next apart := .state next fun workspace => apart workspace _
  update apart := .update (onward_of_apart apart) fun before _ => image_of_apart apart before
  ensuring body apart := body.ensuring (onward_of_apart apart)
    fun before _ => image_of_apart apart before
  bindLibrary _ _ := .update
    (fun _ => ⟨comparison.clear_of_later (.of_same rfl rfl rfl), Nat.le_refl _⟩)
    fun _ _ => rfl
  declaring number status _ _ := by
    apply mirrored_onMachine
    apply mirrored_withinFrames
    apply mirrored_within
    apply (mirrored_noteHere (fun _ => rfl) fun _ => rfl).bind
    intro _
    let ofProgram := comparison.ofProgram (ScriptGraph.program (graph.script number) status)
    exact ofProgram.runDeclarations (fun _ => trivial) (ofProgram.process fuel) _
  rooting number status _ _ := by
    apply mirrored_onMachine
    apply mirrored_withinFrames
    apply mirrored_within
    apply (mirrored_noteHere (fun _ => rfl) fun _ => rfl).bind
    intro _
    exact (comparison.ofProgram (ScriptGraph.program (graph.script number) status)).process fuel _

end Comparison

end Treewalk
