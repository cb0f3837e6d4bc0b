import Treewalk.Activation

/-!
# Sightings

Whoever observes a run may care for one kind of occurrences only. `Machine.sightings` are the
occurrences of a kind that the trace holds. Most of what the operations of the machine note is a
matter of course: nodes that are entered and left, constructs that are invoked, and the like. A kind
that has nothing of this is not affected by these operations, one lemma for each of them.
-/

namespace Treewalk

variable {World : Type}

/-- What the operations of the machine note by themselves. How the failure of a statement is handed
on is not part of it, nor is the opening of a script or a library. -/
def Occurrence.isRoutine : Occurrence → Bool
  | .handed .. => false
  | .scriptOpened .. => false
  | .libraryOpened .. => false
  | _ => true

namespace Machine

/-- The occurrences of a kind, newest first. -/
def sightings (watched : Occurrence → Bool) (machine : Machine World) : List Occurrence :=
  machine.trace.filter watched

variable {watched : Occurrence → Bool}

/-- Watching the trace, one sees what is noted and watched for. -/
theorem sightings_note (occurrence : Occurrence) (machine : Machine World) :
    (machine.note occurrence).sightings watched =
      if watched occurrence then occurrence :: machine.sightings watched
      else machine.sightings watched :=
  List.filter_cons

/-- One sees nothing of what is not watched for. -/
theorem sightings_note_unwatched {occurrence : Occurrence}
    (unwatched : watched occurrence = false) (machine : Machine World) :
    (machine.note occurrence).sightings watched = machine.sightings watched := by
  rw [sightings_note, unwatched]
  rfl

/-- A signal that moves is seen only in the note about it. -/
theorem sightings_signal (raised : Bool) (machine : Machine World) :
    (machine.signal raised).sightings watched = machine.sightings watched := by
  simp only [signal]
  split <;> rfl

/-- Opening bindings notes nothing. -/
theorem sightings_bind (activation : Activation) (machine : Machine World) :
    (activation.bind machine).sightings watched = machine.sightings watched := by
  simp only [Activation.bind]
  split <;> rfl

/-- Taking bindings back notes nothing. -/
theorem sightings_unbind (activation : Activation) (machine : Machine World) :
    (activation.unbind machine).sightings watched = machine.sightings watched := by
  simp only [Activation.unbind]
  split <;> rfl

section

variable (aside : ∀ occurrence : Occurrence, occurrence.isRoutine = true →
  watched occurrence = false)

include aside

/-- The note of a moved signal is not watched for. -/
theorem sightings_noteMove (mover : SignalMover) (earlier : Bool) (machine : Machine World) :
    (machine.noteMove mover earlier).sightings watched = machine.sightings watched := by
  simp only [noteMove]
  split
  · rfl
  · exact sightings_note_unwatched (aside _ rfl) machine

/-- Neither raising the signal nor the note of it is watched for. -/
theorem sightings_raise (mover : SignalMover) (machine : Machine World) :
    (machine.raise mover).sightings watched = machine.sightings watched :=
  (sightings_noteMove aside mover _ _).trans (sightings_signal true machine)

/-- A move from outside is a matter of course. -/
theorem sightings_look (machine : Machine World) :
    machine.look.sightings watched = machine.sightings watched := by
  rw [look_eq]
  split
  · rfl
  · exact (sightings_noteMove aside .outside _ _).trans (sightings_signal _ _)

/-- A pause is remembered and noted, and neither is watched for. -/
theorem sightings_pause (node : NodeId) (machine : Machine World) :
    (machine.pause node).sightings watched = machine.sightings watched := by
  simp only [pause]
  split
  · rfl
  · next hook _ =>
    generalize hook _ = action
    have noted : (machine.notePause node action).sightings watched = machine.sightings watched :=
      sightings_note_unwatched (aside _ rfl) _
    cases action with
    | stop => exact (sightings_raise aside .pauseHook _).trans noted
    | resume => exact noted

/-- Entering a node notes the node and perhaps a pause, and neither is watched for. -/
theorem sightings_enter (node : NodeId) (machine : Machine World) :
    (machine.enter node).sightings watched = machine.sightings watched := by
  have pushed : (machine.push node).sightings watched = machine.sightings watched :=
    sightings_note_unwatched (aside _ rfl) _
  dsimp only [enter]
  split
  · exact (sightings_pause aside node _).trans pushed
  · exact pushed

/-- The note of a node that is left is not watched for. -/
theorem sightings_leave (node : NodeId) (machine : Machine World) :
    (machine.leave node).sightings watched = machine.sightings watched :=
  sightings_note_unwatched (aside _ rfl) _

/-- Opening a scope notes at most that its call site is entered, which is not watched for. -/
theorem sightings_opened (activation : Activation) (machine : Machine World) :
    (activation.opened machine).sightings watched = machine.sightings watched := by
  have framed : (activation.framed machine).sightings watched = machine.sightings watched :=
    sightings_bind activation machine
  simp only [Activation.opened]
  split
  · exact (sightings_enter aside _ _).trans framed
  · exact framed

/-- Leaving a scope notes at most that its call site is left, which is not watched for. -/
theorem sightings_exit (activation : Activation) (machine : Machine World) :
    (activation.exit machine).sightings watched = machine.sightings watched := by
  have dropped (stepped : Machine World) :
      (activation.unbind stepped.exitFrame).sightings watched = stepped.sightings watched :=
    sightings_unbind activation stepped.exitFrame
  simp only [Activation.exit, dropped]
  split
  · exact sightings_leave aside _ machine
  · rfl

/-- A refused scope adds only the note of the refusal, which is not watched for. -/
theorem sightings_refused (activation : Activation) (limit : Nat) (machine : Machine World) :
    (activation.refused limit machine).sightings watched = machine.sightings watched := by
  rw [Activation.refused, sightings_unbind, sightings_note_unwatched (aside _ rfl), sightings_bind]

/-- A failed write adds only a note that is not watched for. -/
theorem sightings_write (site : WriteSite) (name : String) (cell : Cell) (value : Value)
    (machine : Machine World) :
    (write site name cell value machine).state.sightings watched = machine.sightings watched := by
  simp only [write]
  split
  · rfl
  · exact sightings_note_unwatched (aside _ rfl) machine

/-- Invoking a construct adds notes of the invocation and of a moved signal, which are not watched
for. -/
theorem sightings_invoke (construct : Construct World) (arguments : List Value)
    (machine : Machine World) :
    (invoke construct arguments machine).state.sightings watched = machine.sightings watched := by
  have noted (host : Host World) :
      sightings watched
        { machine.note (.invoked construct.name arguments machine.stopped) with host } =
      machine.sightings watched := sightings_note_unwatched (aside _ rfl) machine
  simp only [invoke]
  split
  · exact (sightings_noteMove aside _ _ _).trans (noted _)
  · exact (sightings_noteMove aside _ _ _).trans (noted _)

/-- Handing a fault to the monitor notes at most a raised signal, which is not watched for. -/
theorem sightings_hand (fault : Fault) (machine : Machine World) :
    (hand fault machine).state.sightings watched = machine.sightings watched := by
  simp only [hand, handUncaught]
  split
  · split
    · rfl
    · split
      · rfl
      · split
        · rfl
        · rfl
        · exact sightings_raise aside .policy _
  · split <;> rfl

end

end Machine

end Treewalk
