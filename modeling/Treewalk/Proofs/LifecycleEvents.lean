import Treewalk.Proofs.ScriptCourses
import Treewalk.Proofs.Teardown

/-!
# Lifecycle events

A script runs once, and its run is heard of twice. Embedding code runs, initializes and closes
scripts, sets arguments and subscribes listeners, in any order: a `ScriptGraph.Timeline`.
`ScriptGraph.Effect` says what a single operation does to the events. The first run of a script
announces its start to whoever is on the host then, and its end to them and to those they enlisted
on the host when they heard of the start, however the run ended. A second run is refused and leaves
everything as it is. No other operation announces anything.

Identities of runs are given out in order, so what is heard of a run is heard while it lasts: this
is what `EventBoard.Extends` keeps along a timeline.
-/

namespace Treewalk

variable {World : Type}

namespace EventBoard

variable {first second third before after : EventBoard}

/-- What listeners hear of an event one after the other, newest first. -/
def heard (audience : List Listener) (event : Event) : List Delivery :=
  (audience.map fun listener => ⟨listener.name, event⟩).reverse

/-- What has been heard of a run, newest first. -/
def heardOf (board : EventBoard) (run : Nat) : List Delivery :=
  board.deliveries.filter (·.event.run == run)

/-- Listeners hear of an event one after the other. -/
theorem heard_append (earlier later : List Listener) (event : Event) :
    heard (earlier ++ later) event = heard later event ++ heard earlier event := by
  simp [heard]

/-- Whoever hears of an event hears of that event. -/
theorem event_of_mem_heard {audience : List Listener} {event : Event} {delivery : Delivery}
    (member : delivery ∈ heard audience event) : delivery.event = event := by
  obtain ⟨listener, -, rfl⟩ := List.mem_map.mp (List.mem_reverse.mp member)
  rfl

/-- A listener that subscribes is the last on its host. -/
theorem listeners_subscribe (board : EventBoard) (host other : Nat) (listener : Listener) :
    (board.subscribe host listener).listeners other =
      if other = host then board.listeners host ++ [listener] else board.listeners other :=
  Table.get_modify board.hosts host other _

/-- An audience has heard of an event, and meanwhile others may have joined the listeners. -/
structure Spread (event : Event) (audience : List Listener) (before after : EventBoard) : Prop where
  deliveries : after.deliveries = heard audience event ++ before.deliveries
  runs : after.runs = before.runs
  listeners : ∀ host, before.listeners host <+: after.listeners host

namespace Spread

variable {event : Event}

/-- Without listeners an event spreads nowhere. -/
theorem refl (event : Event) (board : EventBoard) : Spread event [] board board where
  deliveries := rfl
  runs := rfl
  listeners _ := List.prefix_refl _

/-- An event spreads to one group of listeners after the other. -/
theorem trans {earlier later : List Listener} (spread : Spread event earlier first second)
    (further : Spread event later second third) : Spread event (earlier ++ later) first third where
  deliveries := by
    rw [further.deliveries, spread.deliveries, heard_append, List.append_assoc]
  runs := further.runs.trans spread.runs
  listeners host := (spread.listeners host).trans (further.listeners host)

/-- Subscribing is not hearing. -/
theorem subscribe (event : Event) (board : EventBoard) (host : Nat) (listener : Listener) :
    Spread event [] board (board.subscribe host listener) where
  deliveries := rfl
  runs := rfl
  listeners other := by
    rw [listeners_subscribe]
    split
    · next same =>
      rw [same]
      exact List.prefix_append _ _
    · exact List.prefix_refl _

/-- A listener hears of the event and may enlist others. -/
theorem deliver (event : Event) (board : EventBoard) (listener : Listener) :
    Spread event [listener] board (board.deliver event listener) := by
  let noted : EventBoard := { board with deliveries := ⟨listener.name, event⟩ :: board.deliveries }
  have enlisted : Spread event [] noted (board.deliver event listener) := by
    apply List.foldlRecOn (motive := Spread event [] noted) _ _ (.refl event noted)
    intro current spread newcomer _
    exact spread.trans (.subscribe event current newcomer.1 newcomer.2)
  exact ⟨enlisted.deliveries, enlisted.runs, enlisted.listeners⟩

/-- Everybody on the host hears of an emitted event once, and nobody else does. -/
theorem emit (board : EventBoard) (host : Nat) (event : Event) :
    Spread event (board.listeners host) board (board.emit host event) := by
  suffices ∀ (audience : List Listener) (board : EventBoard),
      Spread event audience board (audience.foldl (EventBoard.deliver event) board) from
    this (board.listeners host) board
  intro audience
  induction audience with
  | nil => exact Spread.refl event
  | cons listener rest inductionHypothesis =>
    intro board
    exact (Spread.deliver event board listener).trans (inductionHypothesis _)

end Spread

/-- What has come to be heard is of runs that are new. -/
def Extends (before after : EventBoard) : Prop :=
  before.runs ≤ after.runs ∧
    ∃ events, after.deliveries = events ++ before.deliveries ∧
      ∀ delivery ∈ events, before.runs ≤ delivery.event.run ∧ delivery.event.run < after.runs

namespace Extends

/-- Nothing has come to be heard. -/
theorem of_same (deliveries : after.deliveries = before.deliveries)
    (runs : after.runs = before.runs) : before.Extends after :=
  ⟨runs.ge, [], deliveries, by simp⟩

/-- Boards that extend each other in turn extend each other. -/
theorem trans (earlier : first.Extends second) (later : second.Extends third) :
    first.Extends third := by
  obtain ⟨fewer, old, heardEarlier, oldRuns⟩ := earlier
  obtain ⟨more, new, heardLater, newRuns⟩ := later
  refine ⟨fewer.trans more, new ++ old, by rw [heardLater, heardEarlier, List.append_assoc], ?_⟩
  intro delivery member
  rcases List.mem_append.mp member with late | early
  · exact ⟨fewer.trans (newRuns delivery late).1, (newRuns delivery late).2⟩
  · exact ⟨(oldRuns delivery early).1, (oldRuns delivery early).2.trans_le more⟩

/-- Nothing more is heard of a run that is over. -/
theorem heardOf_eq (extended : before.Extends after) {run : Nat} (settled : run < before.runs) :
    after.heardOf run = before.heardOf run := by
  obtain ⟨-, events, deliveries, new⟩ := extended
  have others : events.filter (·.event.run == run) = [] := by
    apply List.filter_eq_nil_iff.mpr
    intro delivery member same
    have later := (new delivery member).1
    rw [beq_iff_eq.mp same] at later
    exact Nat.not_lt.mpr later settled
  rw [heardOf, deliveries, List.filter_append, others]
  rfl

end Extends

/-- Only runs whose identity has been given out have been heard of. -/
def Numbered (board : EventBoard) : Prop :=
  ∀ delivery ∈ board.deliveries, delivery.event.run < board.runs

/-- Later runs get later identities. -/
theorem Numbered.extended (numbered : before.Numbered) (extended : before.Extends after) :
    after.Numbered := by
  obtain ⟨more, events, deliveries, new⟩ := extended
  intro delivery member
  rw [deliveries] at member
  rcases List.mem_append.mp member with late | early
  · exact (new delivery late).2
  · exact (numbered delivery early).trans_le more

/-- What is heard, newest first, of a run of a script that starts with the given board. The end of
the run is heard of by those who hear of its start, and by the newcomers that have joined them on
the host when all of them have. -/
inductive Brackets (script : Script World) (before : EventBoard) : List Delivery → Prop where
  | unhosted (hostless : script.host = none) : Brackets script before []
  | hosted {host : Nat} {newcomers : List Listener} (onHost : script.host = some host)
      (joined : (before.freshRun.2.emit host ⟨.started, script.name, before.runs⟩).listeners host =
        before.listeners host ++ newcomers) :
      Brackets script before
        (heard (before.listeners host ++ newcomers) ⟨.finished, script.name, before.runs⟩ ++
          heard (before.listeners host) ⟨.started, script.name, before.runs⟩)

/-- The events of a run carry its identity. -/
theorem Brackets.run_eq {script : Script World} {events : List Delivery}
    (brackets : Brackets script before events) :
    ∀ delivery ∈ events, delivery.event.run = before.runs := by
  cases brackets with
  | unhosted => exact List.forall_mem_nil _
  | hosted onHost joined =>
    intro delivery member
    rcases List.mem_append.mp member with finished | started
    · rw [event_of_mem_heard finished]
    · rw [event_of_mem_heard started]

/-- A run with a new identity has been heard of. -/
structure Announced (script : Script World) (before after : EventBoard)
    (events : List Delivery) : Prop where
  brackets : Brackets script before events
  deliveries : after.deliveries = events ++ before.deliveries
  runs : after.runs = before.runs + 1

namespace Announced

variable {script : Script World} {events : List Delivery}

/-- A run that was announced extends the board. -/
theorem extended (announced : Announced script before after events) : before.Extends after := by
  refine ⟨announced.runs ▸ Nat.le_succ _, events, announced.deliveries, ?_⟩
  intro delivery member
  rw [announced.brackets.run_eq delivery member, announced.runs]
  exact ⟨Nat.le_refl _, Nat.lt_succ_self _⟩

/-- All that is heard of the run is what has been announced. -/
theorem heardOf_eq (announced : Announced script before after events)
    (numbered : before.Numbered) : after.heardOf before.runs = events := by
  have all : events.filter (·.event.run == before.runs) = events := by
    apply List.filter_eq_self.mpr
    intro delivery member
    exact beq_iff_eq.mpr (announced.brackets.run_eq delivery member)
  have none : before.deliveries.filter (·.event.run == before.runs) = [] := by
    apply List.filter_eq_nil_iff.mpr
    intro delivery member same
    exact (numbered delivery member).ne (beq_iff_eq.mp same)
  rw [heardOf, announced.deliveries, List.filter_append, all, none, List.append_nil]

end Announced

end EventBoard

namespace Workspace

open EventBoard

/-- The announcements of the two ends of a run, with nothing on the board in between. -/
theorem announced_of_ends (script : Script World) {before opened closed : Workspace World}
    (sameBoard : closed.board = opened.board)
    (started : opened = { before with board := before.board.freshRun.2 }.announce script
      ⟨.started, script.name, before.board.runs⟩) :
    ∃ events, Announced script before.board
      (closed.announce script ⟨.finished, script.name, before.board.runs⟩).board events := by
  subst started
  cases onHost : script.host with
  | none =>
    simp only [announce, onHost] at sameBoard ⊢
    rw [sameBoard]
    exact ⟨[], .unhosted onHost, rfl, rfl⟩
  | some host =>
    simp only [announce, onHost] at sameBoard ⊢
    have opening :=
      Spread.emit before.board.freshRun.2 host ⟨.started, script.name, before.board.runs⟩
    have closing := Spread.emit closed.board host ⟨.finished, script.name, before.board.runs⟩
    rw [sameBoard] at closing ⊢
    obtain ⟨newcomers, joined⟩ := opening.listeners host
    refine ⟨_, .hosted onHost joined.symm, ?_, closing.runs.trans opening.runs⟩
    rw [closing.deliveries, opening.deliveries, ← joined, List.append_assoc]
    rfl

/-- Nothing is announced, and no script is run. -/
structure Silent (before after : Workspace World) : Prop where
  board : after.board = before.board
  hasRun : ∀ number, (after.status number).hasRun = (before.status number).hasRun

/-- Silence can be followed along a run. -/
theorem Silent.trans {first second third : Workspace World} (earlier : first.Silent second)
    (later : second.Silent third) : first.Silent third where
  board := later.board.trans earlier.board
  hasRun number := (later.hasRun number).trans (earlier.hasRun number)

/-- Having run stays as it is when nothing else is changed about a script. -/
theorem hasRun_amend {number other : Nat} {change : ScriptStatus → ScriptStatus}
    {workspace : Workspace World} (spares : ∀ status, (change status).hasRun = status.hasRun) :
    ((workspace.amend number change).status other).hasRun = (workspace.status other).hasRun := by
  rw [status_amend]
  split
  · next same => rw [spares, same]
  · rfl

/-- Computations that announce nothing and run no script. -/
def silent : Contract (Workspace World) where
  Raised _ := True
  Finished := Silent
  Reached _ _ := True
  refl _ := ⟨rfl, fun _ => rfl⟩
  trans := Silent.trans
  reached_of_finished _ := trivial
  reached_trans _ _ := trivial

/-- The machine announces nothing. -/
theorem silent_onMachine {Result : Type} (body : Exec (Machine World) Result) :
    silent.Kept (onMachine body) := by
  intro before
  simp only [onMachine, Exec.zoom]
  cases body before.machine with
  | done result machine => exact ⟨rfl, fun _ => rfl⟩
  | failed fault machine => exact ⟨trivial, rfl, fun _ => rfl⟩
  | exhausted machine => trivial

end Workspace

namespace ScriptGraph

open Contract EventBoard Workspace

variable {graph : ScriptGraph World} {fuel number : Nat} {before after : Workspace World}

/-- Declaring a library announces nothing. -/
theorem silent_declare (fuel number : Nat) : silent.Kept (graph.declare fuel number) := by
  apply kept_rootLayout trivial
  intro layout _
  apply kept_bind
  · apply kept_update
    intro workspace
    exact ⟨rfl, fun _ => hasRun_amend fun _ => rfl⟩
  · intro _
    apply kept_state
    intro workspace
    exact silent_onMachine _

/-- Preparing a script announces nothing, libraries and all. -/
theorem silent_prepare (fuel number : Nat) (skipSelf : Bool) :
    silent.Kept (graph.prepare fuel number skipSelf) := by
  apply kept_prepare _ (silent_declare fuel)
  intro other workspace
  exact ⟨rfl, fun _ => hasRun_amend fun _ => rfl⟩

/-- Running a root block announces nothing; the events are around it. -/
theorem silent_runRoot (fuel number : Nat) : silent.Kept (graph.runRoot fuel number) := by
  apply kept_rootLayout trivial
  intro layout _
  apply kept_state
  intro workspace
  exact silent_onMachine _

/-- Closing a script announces nothing. -/
theorem silent_close (number : Nat) (workspace : Workspace World) :
    workspace.Silent (graph.close number workspace) := by
  apply close_preserves workspace.Silent ?_ number ⟨rfl, fun _ => rfl⟩
  intro released current silentSoFar
  refine silentSoFar.trans ⟨?_, ?_⟩
  · simp only [release]
    split <;> rfl
  · intro other
    rw [status_release]
    split
    · next same => rw [same]
    · rfl

/-- The run itself announces nothing; from its start on the script counts as run. -/
theorem silent_run (ended : (graph.run fuel number before).final? = some after) :
    (before.amend number fun status => { status with hasRun := true }).Silent after := by
  have running : silent.Kept
      (do
        let workspace ← Exec.state
        if (workspace.status number).initialized then graph.runRoot fuel number
        else
          graph.prepare fuel number true
          graph.runRoot fuel number) := by
    apply kept_state
    intro workspace
    split
    · exact silent_runRoot fuel number
    · exact kept_bind (silent_prepare fuel number true) fun _ => silent_runRoot fuel number
  exact (running _).finished ended

/-- A script that has not run yet runs between its two announcements. -/
theorem process_first (unrun : (before.status number).hasRun = false)
    (ended : (graph.process fuel number before).final? = some after) :
    ∃ events, Announced (graph.script number) before.board after.board events ∧
      ∀ other, (after.status other).hasRun = true ↔
        other = number ∨ (before.status other).hasRun = true := by
  let script := graph.script number
  let run := before.board.runs
  let opened := { before with board := before.board.freshRun.2 }.announce script
    ⟨.started, script.name, run⟩
  have split : graph.process fuel number before =
      Exec.ensuring (graph.run fuel number) (announce script ⟨.finished, script.name, run⟩)
        opened := by
    rw [process, Exec.bind_apply]
    simp only [Exec.state, unrun]
    rfl
  obtain ⟨closed, ran, rfl⟩ : ∃ closed, (graph.run fuel number opened).final? = some closed ∧
      after = closed.announce script ⟨.finished, script.name, run⟩ := by
    rw [split] at ended
    exact Exec.exists_of_ensuring_final? ended
  have quiet := silent_run ran
  have sameBoard : closed.board = opened.board := quiet.board
  obtain ⟨events, announced⟩ := announced_of_ends script sameBoard rfl
  refine ⟨events, announced, fun other => ?_⟩
  have status : opened.status other = before.status other := by
    simp only [opened, Workspace.status, statuses_announce]
  have marked := quiet.hasRun other
  rw [status_amend, status] at marked
  simp only [Workspace.status, statuses_announce] at marked ⊢
  rw [marked]
  split <;> simp_all

end ScriptGraph

/-- What embedding code does with scripts and hosts. -/
inductive Operation where
  | call (call : Call)
  | setArgument (number : Nat) (value : Value)
  | subscribe (host : Nat) (listener : Listener)

/-- To run a script. -/
abbrev Operation.process (number : Nat) : Operation :=
  .call (.process number)

/-- An operation that has been carried out. -/
structure Deed (World : Type) where
  operation : Operation
  before : Workspace World
  after : Workspace World

namespace ScriptGraph

open EventBoard Workspace

variable {graph : ScriptGraph World} {before after : Workspace World}

/-- What an operation that returns leads to. -/
inductive Carries (graph : ScriptGraph World) : Operation → Workspace World → Workspace World → Prop
    where
  | call {call : Call} {before after : Workspace World}
      (performed : graph.Performs call before after) : Carries graph (.call call) before after
  | setArgument (number : Nat) (value : Value) (before : Workspace World) :
      Carries graph (.setArgument number value) before
        (before.amend number fun status => { status with argument := some value })
  | subscribe (host : Nat) (listener : Listener) (before : Workspace World) :
      Carries graph (.subscribe host listener) before
        { before with board := before.board.subscribe host listener }

/-- What an operation means for what has been heard and for what has been run. -/
inductive Effect (graph : ScriptGraph World) : Operation → Workspace World → Workspace World → Prop
    where
  | first {number : Nat} {before after : Workspace World} {events : List Delivery}
      (unrun : (before.status number).hasRun = false)
      (announced : Announced (graph.script number) before.board after.board events)
      (marked : ∀ other, (after.status other).hasRun = true ↔
        other = number ∨ (before.status other).hasRun = true) :
      Effect graph (.process number) before after
  | again {number : Nat} {before : Workspace World}
      (ran : (before.status number).hasRun = true) : Effect graph (.process number) before before
  | other {operation : Operation} {before after : Workspace World}
      (runsNone : ∀ number, operation ≠ .process number)
      (deliveries : after.board.deliveries = before.board.deliveries)
      (runs : after.board.runs = before.board.runs)
      (hasRun : ∀ number, (after.status number).hasRun = (before.status number).hasRun) :
      Effect graph operation before after

/-- A call that is silent has no effect on the events. -/
theorem Effect.of_silent {operation : Operation} (runsNone : ∀ number, operation ≠ .process number)
    (silent : before.Silent after) : graph.Effect operation before after :=
  .other runsNone (congrArg EventBoard.deliveries silent.board)
    (congrArg EventBoard.runs silent.board) silent.hasRun

/-- What an operation carries out has one of the effects. -/
theorem Carries.effect {operation : Operation} (carried : graph.Carries operation before after) :
    graph.Effect operation before after := by
  cases carried with
  | call performed =>
    cases performed with
    | @process fuel number _ _ ended =>
      cases unrun : (before.status number).hasRun with
      | false =>
        obtain ⟨events, announced, marked⟩ := process_first unrun ended
        exact .first unrun announced marked
      | true =>
        rw [process_again unrun] at ended
        cases ended
        exact .again unrun
    | prepare ended =>
      exact .of_silent (by rintro _ ⟨⟩) ((silent_prepare _ _ _ _).finished ended)
    | close number _ => exact .of_silent (by rintro _ ⟨⟩) (silent_close number before)
  | setArgument number value _ =>
    exact .of_silent (by rintro _ ⟨⟩) ⟨rfl, fun _ => hasRun_amend fun _ => rfl⟩
  | subscribe host listener _ => exact .other (by rintro _ ⟨⟩) rfl rfl fun _ => rfl

/-- No operation takes back what was heard. -/
theorem Effect.extends_board {operation : Operation}
    (effect : graph.Effect operation before after) :
    before.board.Extends after.board := by
  cases effect with
  | first _ announced _ => exact announced.extended
  | again _ => exact .of_same rfl rfl
  | other _ deliveries runs _ => exact .of_same deliveries runs

/-- What has run after an operation had run before, or was run by it. -/
theorem Effect.hasRun_iff {operation : Operation} (effect : graph.Effect operation before after)
    (number : Nat) :
    (after.status number).hasRun = true ↔
      (before.status number).hasRun = true ∨ operation = .process number := by
  cases effect with
  | @first this _ _ _ _ _ marked =>
    have same : number = this ↔ Operation.process this = .process number :=
      ⟨by rintro rfl; rfl, by rintro ⟨⟩; rfl⟩
    rw [marked number, or_comm, same]
  | again ran =>
    constructor
    · exact Or.inl
    · rintro (before | same)
      · exact before
      · cases same
        exact ran
  | other runsNone _ _ hasRun =>
    rw [hasRun]
    simp [runsNone number]

/-- Operations carried out one after the other. In between, another machine may take over. -/
inductive Timeline (graph : ScriptGraph World) (start : Workspace World) :
    List (Deed World) → Workspace World → Prop where
  | start : Timeline graph start [] start
  | deed {deeds : List (Deed World)} {current after : Workspace World} {operation : Operation}
      (earlier : Timeline graph start deeds current) (machine : Machine World)
      (carried : graph.Carries operation { current with machine } after) :
      Timeline graph start (deeds ++ [⟨operation, { current with machine }, after⟩]) after

namespace Timeline

variable {start final : Workspace World} {deeds earlier later : List (Deed World)}
  {deed : Deed World}

/-- A timeline seen from one of its deeds. -/
theorem split (timeline : graph.Timeline start (earlier ++ deed :: later) final) :
    ∃ current machine, graph.Timeline start earlier current ∧
      deed.before = { current with machine } ∧
      graph.Carries deed.operation deed.before deed.after ∧
      graph.Timeline deed.after later final := by
  generalize same : earlier ++ deed :: later = deeds at timeline
  induction timeline generalizing later with
  | start => simp at same
  | @deed deeds current after operation before machine carried inductionHypothesis =>
    induction later using List.reverseRecOn with
    | nil =>
      obtain ⟨rfl, newest⟩ := List.append_inj' same rfl
      cases newest
      exact ⟨current, machine, before, rfl, carried, .start⟩
    | append_singleton rest last _ =>
      rw [← List.cons_append, ← List.append_assoc] at same
      obtain ⟨rfl, newest⟩ := List.append_inj' same rfl
      cases newest
      obtain ⟨ready, engine, past, handed, done, future⟩ := inductionHypothesis rfl
      exact ⟨ready, engine, past, handed, done, future.deed machine carried⟩

/-- A timeline takes back nothing that was heard. -/
theorem extends_board (timeline : graph.Timeline start deeds final) :
    start.board.Extends final.board := by
  induction timeline with
  | start => exact .of_same rfl rfl
  | deed _ _ carried inductionHypothesis =>
    exact inductionHypothesis.trans carried.effect.extends_board

/-- The scripts that have run are those that had run at the start and those that were run since. -/
theorem hasRun_iff (timeline : graph.Timeline start deeds final) (number : Nat) :
    (final.status number).hasRun = true ↔
      (start.status number).hasRun = true ∨ ∃ deed ∈ deeds, deed.operation = .process number := by
  induction timeline with
  | start => simp
  | deed _ _ carried inductionHypothesis =>
    rw [carried.effect.hasRun_iff number]
    simp only [Workspace.status] at inductionHypothesis ⊢
    rw [inductionHypothesis]
    simp [or_and_right, exists_or, or_assoc]

end Timeline

end ScriptGraph

/-- Scripts none of which has run yet are run, initialized as libraries, closed and given arguments,
and listeners subscribe to hosts, in any order. Running a script for the first time lets exactly
those that are on its host hear of the start of the run, then exactly these and whom they enlisted
there hear of its end, and whatever follows, nothing else is heard of that run. Running it again is
refused and changes nothing, and no other operation lets anything be heard. -/
theorem ScriptGraph.lifecycle_events_bracket_first_runs {graph : ScriptGraph World}
    {start final : Workspace World} {earlier later : List (Deed World)} {deed : Deed World}
    (unrun : ∀ number, (start.status number).hasRun = false) (numbered : start.board.Numbered)
    (timeline : graph.Timeline start (earlier ++ deed :: later) final) :
    (∀ number, deed.operation = .process number →
      (∀ other ∈ earlier, other.operation ≠ .process number) →
      ∃ events, EventBoard.Brackets (graph.script number) deed.before.board events ∧
        deed.after.board.deliveries = events ++ deed.before.board.deliveries ∧
        final.board.heardOf deed.before.board.runs = events) ∧
    (∀ number, deed.operation = .process number →
      (∃ other ∈ earlier, other.operation = .process number) →
      deed.after = deed.before ∧
        ∀ fuel, graph.process fuel number deed.before =
          .failed (.ofCause (.misuse (.alreadyRun (graph.script number).name))) deed.before) ∧
    ((∀ number, deed.operation ≠ .process number) →
      deed.after.board.deliveries = deed.before.board.deliveries) := by
  obtain ⟨operation, before, after⟩ := deed
  obtain ⟨current, machine, past, rfl, carried, future⟩ := timeline.split
  have ranBefore (number : Nat) : (current.status number).hasRun = true ↔
      ∃ other ∈ earlier, other.operation = .process number := by
    simpa [unrun number] using past.hasRun_iff number
  have numberedBefore : current.board.Numbered := numbered.extended past.extends_board
  have effect := carried.effect
  refine ⟨?first, ?again, ?other⟩
  case first =>
    rintro number rfl firstTime
    cases effect with
    | @first _ _ _ events _ announced _ =>
      refine ⟨events, announced.brackets, announced.deliveries, ?_⟩
      have settled : current.board.runs < after.board.runs := by
        rw [announced.runs]
        exact Nat.lt_succ_self _
      rw [future.extends_board.heardOf_eq settled]
      exact announced.heardOf_eq numberedBefore
    | again ran =>
      obtain ⟨other, member, same⟩ := (ranBefore number).mp ran
      exact absurd same (firstTime other member)
    | other runsNone => exact absurd rfl (runsNone number)
  case again =>
    rintro number rfl again
    have ran := (ranBefore number).mpr again
    cases effect with
    | first unrun _ _ => exact absurd (unrun.symm.trans ran) Bool.false_ne_true
    | again _ => exact ⟨rfl, fun fuel => process_again ran⟩
    | other runsNone => exact absurd rfl (runsNone number)
  case other =>
    intro runsNone
    cases effect with
    | first _ _ _ => exact absurd rfl (runsNone _)
    | again _ => rfl
    | other _ deliveries _ _ => exact deliveries

/-- Three scripts on one host, one of them a library that fails to be initialized. -/
def audibleDiamond : ScriptGraph Unit :=
  ⟨brokenDiamond.scripts.map fun script => { script with host := some 0 }⟩

/-- Somebody who enlists a friend on hearing of the first event. -/
def enlistingListener : Listener where
  name := "guest"
  enlists heard := if heard.length = 1 then [(0, { name := "friend" })] else []

/-- The run of the last script fails because its library does, and its end is heard of nonetheless,
by the friend too. Then the script is closed, the library is run on the same host, and the script is
run again, which is refused. All this adds nothing to what has been heard of the first run. -/
theorem lifecycle_events_of_failed_run :
    let start : Workspace Unit := { machine := { host := { world := () } } }
    let ready := { start with board := start.board.subscribe 0 enlistingListener }
    let first := (audibleDiamond.process 9 2 ready).state
    let closed := audibleDiamond.close 2 first
    let second := (audibleDiamond.process 9 1 closed).state
    let final := (audibleDiamond.process 9 2 second).state
    let script := (audibleDiamond.script 2).name
    (audibleDiamond.process 9 2 ready).result?.map Except.isOk = some false ∧
    final.board.heardOf 0 =
      [⟨"friend", .finished, script, 0⟩, ⟨"guest", .finished, script, 0⟩,
        ⟨"guest", .started, script, 0⟩] ∧
    EventBoard.Brackets (audibleDiamond.script 2) ready.board (final.board.heardOf 0) ∧
    final = second := by
  intro start ready first closed second final script
  have ran : audibleDiamond.Carries (.process 2) ready first :=
    .call (.processed (by decide +kernel))
  have ranLibrary : audibleDiamond.Carries (.process 1) closed second :=
    .call (.processed (by decide +kernel))
  have refused : audibleDiamond.Carries (.process 2) second final :=
    .call (.processed (by decide +kernel))
  let subscribed : Deed Unit := ⟨.subscribe 0 enlistingListener, start, ready⟩
  let between : List (Deed Unit) :=
    [⟨.call (.close 2), first, closed⟩, ⟨.process 1, closed, second⟩]
  have timeline : audibleDiamond.Timeline start
      ([subscribed] ++ ⟨.process 2, ready, first⟩ :: (between ++ [⟨.process 2, second, final⟩]))
      final :=
    ((((ScriptGraph.Timeline.start.deed start.machine
      (.subscribe 0 enlistingListener start)).deed ready.machine ran).deed first.machine
      (.call (.close 2 first))).deed closed.machine ranLibrary).deed second.machine refused
  have asOneMore : audibleDiamond.Timeline start
      (([subscribed] ++ ⟨.process 2, ready, first⟩ :: between) ++ [⟨.process 2, second, final⟩])
      final := timeline
  have unrun : ∀ number, (start.status number).hasRun = false := fun _ => rfl
  have numbered : start.board.Numbered := List.forall_mem_nil _
  have firstTime := (ScriptGraph.lifecycle_events_bracket_first_runs unrun numbered timeline).1
  have again := (ScriptGraph.lifecycle_events_bracket_first_runs unrun numbered asOneMore).2.1
  obtain ⟨events, brackets, -, heard⟩ := firstTime 2 rfl (by
    intro other member
    rw [List.mem_singleton.mp member]
    rintro ⟨⟩)
  have refusal := again 2 rfl ⟨⟨.process 2, ready, first⟩, by simp, rfl⟩
  have run : ready.board.runs = 0 := rfl
  rw [run] at heard
  exact ⟨by decide +kernel, by decide +kernel, heard ▸ brackets, refusal.1⟩

end Treewalk
