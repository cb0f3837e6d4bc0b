import Treewalk.Proofs.Contract

/-!
# The stop signal in the trace

The trace tells every move of the stop signal and who made it. `SignalPath` replays the moves:
between two of them the signal stays where it is, and each of them changes it.
`Machine.Accounts` says of two machines that what the trace has gained leads from the signal of the
one to the signal of the other. One lemma for each operation of the machine shows that it does so,
and what the operation adds: most add no invocation of a construct and no move at all, entering a
node may let the pause hook raise the signal, routing a fault may let the policy do it, and a look
at the signal may find that it was moved from outside.
-/

namespace Treewalk

variable {World Result : Type}

namespace Occurrence

/-- The invocation of a construct: its name, its arguments, and whether the stop signal was up. -/
def invocation? : Occurrence → Option (String × List Value × Bool)
  | .invoked construct arguments stopped => some (construct, arguments, stopped)
  | _ => none

/-- A construct was invoked. -/
def isInvocation (occurrence : Occurrence) : Bool :=
  occurrence.invocation?.isSome

/-- Who moved the stop signal, if the occurrence is a move. -/
def mover? : Occurrence → Option SignalMover
  | .signalled mover _ => some mover
  | _ => none

/-- The stop signal went down. -/
def isReset : Occurrence → Bool
  | .signalled _ raised => !raised
  | _ => false

/-- No invocation of a construct, and no move of the stop signal but by some. -/
structure Confined (Movers : SignalMover → Prop) (occurrence : Occurrence) : Prop where
  uninvoked : occurrence.isInvocation = false
  movers : ∀ mover, occurrence.mover? = some mover → Movers mover

/-- What is confined to few movers is confined to more. -/
theorem Confined.mono {Fewer Movers : SignalMover → Prop} {occurrence : Occurrence}
    (confined : occurrence.Confined Fewer) (included : ∀ mover, Fewer mover → Movers mover) :
    occurrence.Confined Movers :=
  ⟨confined.uninvoked, fun mover moved => included mover (confined.movers mover moved)⟩

/-- Neither an invocation of a construct nor a move of the stop signal. -/
abbrev Silent (occurrence : Occurrence) : Prop :=
  occurrence.Confined fun _ => False

/-- What is silent moves nothing. -/
theorem Confined.unmoved {occurrence : Occurrence} (silent : occurrence.Silent) :
    occurrence.mover? = none := by
  cases moved : occurrence.mover? with
  | none => rfl
  | some mover => exact (silent.movers mover moved).elim

end Occurrence

/-- What happened, newest first, leads the stop signal from one position to another: moves that were
noted change it, and nothing else does. -/
inductive SignalPath : Bool → List Occurrence → Bool → Prop where
  | still (raised : Bool) : SignalPath raised [] raised
  | unmoved {first last : Bool} {occurrence : Occurrence} {earlier : List Occurrence}
      (path : SignalPath first earlier last) (unmoved : occurrence.mover? = none) :
      SignalPath first (occurrence :: earlier) last
  | moved {first raised : Bool} {mover : SignalMover} {earlier : List Occurrence}
      (path : SignalPath first earlier !raised) :
      SignalPath first (.signalled mover raised :: earlier) raised

/-- The stop signal never went down. -/
def Unreset (happened : List Occurrence) : Prop :=
  ∀ mover, .signalled mover false ∉ happened

/-- Only what is noted as a move down has to be looked for. -/
theorem unreset_iff {happened : List Occurrence} :
    Unreset happened ↔ ∀ occurrence ∈ happened, occurrence.isReset = false := by
  constructor
  · intro unreset occurrence member
    cases occurrence with
    | signalled mover raised =>
      cases raised with
      | true => rfl
      | false => exact absurd member (unreset mover)
    | _ => rfl
  · intro unreset mover member
    cases unreset _ member

instance (happened : List Occurrence) : Decidable (Unreset happened) :=
  decidable_of_iff' _ unreset_iff

/-- A stretch in which the signal is not lowered has no part in which it is. -/
theorem Unreset.append {earlier later : List Occurrence} (unreset : Unreset (later ++ earlier)) :
    Unreset later ∧ Unreset earlier :=
  ⟨fun mover member => unreset mover (List.mem_append_left earlier member),
    fun mover member => unreset mover (List.mem_append_right later member)⟩

/-- Not lowered with the newest occurrence, the signal is not lowered before it. -/
theorem Unreset.tail {occurrence : Occurrence} {earlier : List Occurrence}
    (unreset : Unreset (occurrence :: earlier)) : Unreset earlier :=
  fun mover member => unreset mover (List.mem_cons_of_mem occurrence member)

namespace SignalPath

variable {first middle last : Bool} {earlier later happened : List Occurrence}

/-- Paths of the signal are joined where it is the same. -/
theorem append (path : SignalPath first earlier middle) (next : SignalPath middle later last) :
    SignalPath first (later ++ earlier) last := by
  induction next with
  | still => exact path
  | unmoved _ unmoved inductionHypothesis => exact inductionHypothesis.unmoved unmoved
  | moved _ inductionHypothesis => exact inductionHypothesis.moved

/-- Without a move the signal is where it was. -/
theorem eq_of_unmoved (path : SignalPath first happened last)
    (unmoved : ∀ occurrence ∈ happened, occurrence.mover? = none) : last = first := by
  induction path with
  | still => rfl
  | unmoved _ _ inductionHypothesis =>
    exact inductionHypothesis fun other member => unmoved other (List.mem_cons_of_mem _ member)
  | moved => cases unmoved _ List.mem_cons_self

/-- Once up, a signal that never goes down is not moved any more. -/
theorem of_up (path : SignalPath true happened last) (unreset : Unreset happened) :
    last = true ∧ ∀ occurrence ∈ happened, occurrence.mover? = none := by
  induction path with
  | still => exact ⟨rfl, List.forall_mem_nil _⟩
  | unmoved _ unmoved inductionHypothesis =>
    obtain ⟨up, earlierUnmoved⟩ := inductionHypothesis unreset.tail
    refine ⟨up, fun other member => ?_⟩
    rcases List.mem_cons.mp member with rfl | older
    · exact unmoved
    · exact earlierUnmoved other older
  | @moved raised mover _ _ inductionHypothesis =>
    -- The move would have been down, since the signal was up.
    obtain ⟨up, -⟩ := inductionHypothesis unreset.tail
    cases raised with
    | true => cases up
    | false => exact absurd List.mem_cons_self (unreset mover)

/-- A signal that is down and never went down has not been moved. -/
theorem of_down (path : SignalPath first happened false) (unreset : Unreset happened) :
    ∀ occurrence ∈ happened, occurrence.mover? = none := by
  generalize ended : false = last at path
  induction path with
  | still => exact List.forall_mem_nil _
  | unmoved _ unmoved inductionHypothesis =>
    intro other member
    rcases List.mem_cons.mp member with rfl | older
    · exact unmoved
    · exact inductionHypothesis unreset.tail ended other older
  | @moved raised mover =>
    subst ended
    exact absurd List.mem_cons_self (unreset mover)

end SignalPath

namespace Machine

/-- The invocations of constructs, newest first. -/
def invocations (machine : Machine World) : List (String × List Value × Bool) :=
  machine.trace.filterMap Occurrence.invocation?

/-- What the trace has gained leads from the stop signal of the first machine to that of the second,
and something can be said about it. -/
def Accounts (before after : Machine World) (Gained : List Occurrence → Prop) : Prop :=
  ∃ added, after.trace = added ++ before.trace ∧
    SignalPath before.stopped added after.stopped ∧ Gained added

/-- All that the trace has gained is confined to some movers of the stop signal. -/
abbrev Confines (Movers : SignalMover → Prop) (before after : Machine World) : Prop :=
  before.Accounts after fun added => ∀ occurrence ∈ added, occurrence.Confined Movers

/-- The trace has gained neither invocations nor moves. -/
abbrev Silences (before after : Machine World) : Prop :=
  Confines (fun _ => False) before after

namespace Accounts

variable {first second third before after : Machine World}
  {Earlier Later Gained : List Occurrence → Prop}

/-- Accounts of two stretches are joined by what both have gained. -/
theorem trans (earlier : first.Accounts second Earlier) (later : second.Accounts third Later)
    (gained : ∀ old new, SignalPath first.stopped old second.stopped →
      SignalPath second.stopped new third.stopped → Earlier old → Later new →
      Gained (new ++ old)) : first.Accounts third Gained := by
  obtain ⟨old, oldTrace, oldPath, oldGained⟩ := earlier
  obtain ⟨new, newTrace, newPath, newGained⟩ := later
  refine ⟨new ++ old, ?_, oldPath.append newPath,
    gained old new oldPath newPath oldGained newGained⟩
  rw [newTrace, oldTrace, List.append_assoc]

/-- What has been gained may be described more loosely. -/
theorem mono (accounts : before.Accounts after Earlier)
    (gained : ∀ added, SignalPath before.stopped added after.stopped → Earlier added →
      Gained added) : before.Accounts after Gained := by
  obtain ⟨added, trace, path, holds⟩ := accounts
  exact ⟨added, trace, path, gained added path holds⟩

end Accounts

namespace Confines

variable {Movers Fewer : SignalMover → Prop} {first second third before after : Machine World}

/-- Where neither the trace nor the signal changes, nothing has to be accounted for. -/
theorem of_eq (trace : after.trace = before.trace) (stopped : after.stopped = before.stopped) :
    Confines Movers before after := by
  refine ⟨[], trace, ?_, List.forall_mem_nil _⟩
  rw [stopped]
  exact .still before.stopped

/-- Where nothing happens, nobody moves the signal. -/
theorem refl (machine : Machine World) : Confines Movers machine machine :=
  of_eq rfl rfl

/-- Two stretches confined to some movers are so together. -/
theorem trans (earlier : Confines Movers first second) (later : Confines Movers second third) :
    Confines Movers first third := by
  apply Accounts.trans earlier later
  intro old new _ _ oldConfined newConfined occurrence member
  rcases List.mem_append.mp member with late | early
  · exact newConfined occurrence late
  · exact oldConfined occurrence early

/-- Confinement to few movers is confinement to more. -/
theorem mono (confines : Confines Fewer before after)
    (included : ∀ mover, Fewer mover → Movers mover) : Confines Movers before after :=
  Accounts.mono confines fun _ _ confined occurrence member =>
    (confined occurrence member).mono included

/-- What leaves the signal alone is confined to any movers. -/
theorem silent (silences : Silences before after) : Confines Movers before after :=
  mono silences fun _ none => none.elim

/-- A silent stretch leaves the signal where it is. -/
theorem stopped_eq (silences : Silences before after) : after.stopped = before.stopped := by
  obtain ⟨added, -, path, silent⟩ := silences
  exact path.eq_of_unmoved fun occurrence member => (silent occurrence member).unmoved

/-- A silent note does not move the signal. -/
theorem note (machine : Machine World) {occurrence : Occurrence} (silent : occurrence.Silent) :
    Silences machine (machine.note occurrence) := by
  refine ⟨[occurrence], rfl, (SignalPath.still _).unmoved silent.unmoved, ?_⟩
  intro other member
  rw [List.mem_singleton.mp member]
  exact silent

/-- A change of the signal that is noted is accounted for. -/
theorem noteMove {changed : Machine World} (trace : changed.trace = before.trace)
    {mover : SignalMover} (listed : Movers mover) :
    Confines Movers before (changed.noteMove mover before.stopped) := by
  simp only [Machine.noteMove]
  split
  · next same => exact of_eq trace same
  · next different =>
    refine ⟨[.signalled mover changed.stopped], congrArg (_ :: ·) trace, ?_, ?_⟩
    · apply SignalPath.moved
      rw [Bool.eq_not_of_ne (Ne.symm different)]
      exact .still _
    · intro other member
      rw [List.mem_singleton.mp member]
      exact ⟨rfl, by rintro _ ⟨⟩; exact listed⟩

/-- Raising the signal is noted with its mover. -/
theorem raise (machine : Machine World) {mover : SignalMover} (listed : Movers mover) :
    Confines Movers machine (machine.raise mover) := by
  apply noteMove _ listed
  simp only [Machine.signal]
  split <;> rfl

/-- A look at the signal may find that it was moved from outside. -/
theorem look (machine : Machine World) : Confines (· = .outside) machine machine.look := by
  have counted : Silences machine machine.countLook := of_eq rfl rfl
  rw [look_eq]
  split
  · exact counted.silent
  · next raised _ =>
    refine counted.silent.trans (noteMove ?_ rfl)
    simp only [Machine.signal]
    split <;> rfl

/-- The hook may raise the signal by its answer. -/
theorem pause (node : NodeId) (machine : Machine World) :
    Confines (· = .pauseHook) machine (machine.pause node) := by
  simp only [Machine.pause]
  split
  · exact refl machine
  · next hook _ =>
    generalize hook _ = action
    have noted : Silences machine (machine.notePause node action) := by
      refine trans (of_eq ?_ ?_) (note _ ⟨rfl, by rintro _ ⟨⟩⟩) <;> rfl
    refine noted.silent.trans ?_
    cases action with
    | stop => exact raise _ rfl
    | resume => exact refl _

/-- Entering a node may let the pause hook raise the signal. -/
theorem enter (node : NodeId) (machine : Machine World) :
    Confines (· = .pauseHook) machine (machine.enter node) := by
  have pushed : Silences machine (machine.push node) := by
    refine trans (of_eq ?_ ?_) (note _ ⟨rfl, by rintro _ ⟨⟩⟩) <;> rfl
  dsimp only [Machine.enter]
  split
  · exact pushed.silent.trans (pause node _)
  · exact pushed.silent

/-- Leaving a node is noted, and the note is silent. -/
theorem leave (node : NodeId) (machine : Machine World) :
    Silences machine (machine.leave node) := by
  refine trans (of_eq ?_ ?_) (note _ ⟨rfl, by rintro _ ⟨⟩⟩) <;> rfl

/-- Dropping a frame is not even noted. -/
theorem exitFrame (machine : Machine World) : Silences machine machine.exitFrame := by
  simp only [Machine.exitFrame, Monitor.dropFrame]
  split
  · exact refl machine
  · exact of_eq rfl rfl

/-- Opening bindings does not move the signal. -/
theorem bind (activation : Activation) (machine : Machine World) :
    Silences machine (activation.bind machine) := by
  simp only [Activation.bind]
  split
  · exact of_eq rfl rfl
  · exact refl machine

/-- Taking bindings back does not move the signal. -/
theorem unbind (activation : Activation) (machine : Machine World) :
    Silences machine (activation.unbind machine) := by
  simp only [Activation.unbind]
  split
  · exact of_eq rfl rfl
  · exact refl machine

/-- Opening a scope moves the signal, if at all, by the pause at its call site. -/
theorem opened (activation : Activation) (machine : Machine World) :
    Confines (· = .pauseHook) machine (activation.opened machine) := by
  have framed : Silences machine (activation.framed machine) := by
    refine (bind activation machine).trans (of_eq rfl ?_)
    simp only [Activation.framed, Machine.stopped, Activation.monitor_bind]
    rfl
  simp only [Activation.opened]
  split
  · exact framed.silent.trans (enter _ _)
  · exact framed.silent

/-- Leaving a scope does not move the signal. -/
theorem exit (activation : Activation) (machine : Machine World) :
    Silences machine (activation.exit machine) := by
  simp only [Activation.exit]
  split
  · exact ((leave _ machine).trans (exitFrame _)).trans (unbind activation _)
  · exact (exitFrame machine).trans (unbind activation _)

/-- The note of a refusal is silent. -/
theorem refused (activation : Activation) (limit : Nat) (machine : Machine World) :
    Silences machine (activation.refused limit machine) :=
  ((bind activation machine).trans (note _ ⟨rfl, by rintro _ ⟨⟩⟩)).trans (unbind activation _)

/-- The note of a failed write is silent. -/
theorem write (site : WriteSite) (name : String) (cell : Cell) (value : Value)
    (machine : Machine World) :
    Silences machine (Machine.write site name cell value machine).state := by
  simp only [Machine.write]
  split
  · exact of_eq rfl rfl
  · exact note machine ⟨rfl, by rintro _ ⟨⟩⟩

/-- Routing a fault may let the policy raise the signal, unless an error scope is open. -/
theorem hand (fault : Fault) (machine : Machine World) :
    Confines (fun mover => mover = .policy ∧ machine.scopes = []) machine
      (Machine.hand fault machine).state := by
  simp only [Machine.hand, Machine.handUncaught]
  split
  · next unscoped =>
    split
    · exact refl machine
    · split
      · exact refl machine
      · split
        · exact refl machine
        · exact of_eq rfl rfl
        · have recorded (fault : Fault) : Silences machine
              { machine with monitor := machine.monitor.record fault } := of_eq rfl rfl
          exact (recorded _).silent.trans (raise _ ⟨rfl, unscoped⟩)
  · split
    · exact refl machine
    · exact of_eq rfl rfl

/-- A fault that is handed on moves the signal only outside of all error scopes, for the policy. -/
theorem handFrom (statement : NodeId) (fault : Fault) (machine : Machine World) :
    Confines (fun mover => mover = .policy ∧ machine.scopes = []) machine
      (Machine.handFrom statement fault machine).state :=
  (note machine ⟨rfl, by rintro _ ⟨⟩⟩).silent.trans (hand fault _)

end Confines

/-- The invocation of a construct is noted, and after it what the construct did to the signal. -/
theorem Accounts.invoke (construct : Construct World) (arguments : List Value)
    (machine : Machine World) :
    machine.Accounts (Machine.invoke construct arguments machine).state fun added =>
      ∃ moves, added = moves ++ [.invoked construct.name arguments machine.stopped] ∧
        ∀ occurrence ∈ moves, occurrence.Confined (· = .construct construct.name) := by
  have noted : machine.Accounts
      (machine.note (.invoked construct.name arguments machine.stopped))
      (· = [.invoked construct.name arguments machine.stopped]) :=
    ⟨_, rfl, (SignalPath.still _).unmoved rfl, rfl⟩
  have moved (host : Host World) :
      Confines (· = .construct construct.name)
        (machine.note (.invoked construct.name arguments machine.stopped))
        ({ machine.note (.invoked construct.name arguments machine.stopped) with host }.noteMove
          (.construct construct.name) machine.stopped) := by
    apply Confines.noteMove <;> rfl
  simp only [Machine.invoke]
  split
  · refine noted.trans (moved _) ?_
    rintro _ moves _ _ rfl confined
    exact ⟨moves, rfl, confined⟩
  · refine noted.trans (moved _) ?_
    rintro _ moves _ _ rfl confined
    exact ⟨moves, rfl, confined⟩

end Machine

end Treewalk
