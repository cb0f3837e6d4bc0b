import Mathlib.Data.Finset.Card
import Mathlib.Logic.Relation
import Treewalk.Proofs.CallDepthLimits
import Treewalk.Proofs.Guards
import Treewalk.Proofs.ScopeCoverage

/-!
# Calls of bounded depth

Without loops, and with no node below itself, a walk goes on for ever only through calls. A limit on
nested calls bounds them, whatever becomes of the calls it refuses: a caught refusal may be followed
by any number of further calls, but each of them nests no deeper.

`Halts` says of a computation that it comes to an end on every machine with room for so many nested
calls. The rules of the evaluator are closed under it, and a call halts with one more level of room
than its inside. So two things shrink from a walk to the walks in it: with a child the height of the
node, which is bounded by the size of the tree, and with a call the room, after which the height may
be any.
-/

namespace Treewalk

variable {World Result Next : Type}

/-- Whether an instruction is a loop on a condition. -/
def Instruction.isLoop : Instruction World → Bool
  | .statement (.loop ..) => true
  | _ => false

namespace Tree

variable {tree : Tree World} {node child : NodeId}

/-- A node is a child of another one. -/
def Owns (tree : Tree World) (parent child : NodeId) : Prop :=
  child ∈ tree.children parent

/-- No node is below itself. -/
def IsAcyclic (tree : Tree World) : Prop :=
  ∀ node, ¬ Relation.TransGen tree.Owns node node

/-- Only nodes that the tree has own anything. -/
theorem Owns.known (owns : tree.Owns node child) : node.index < tree.nodes.size := by
  by_contra unknown
  have missing : tree.get? node = none := by simpa [Tree.get?] using unknown
  simp [Tree.Owns, Tree.children, missing] at owns

open Classical in
/-- Where the nodes are that can be reached from a node through children. -/
noncomputable def reach (tree : Tree World) (node : NodeId) : Finset Nat :=
  {index ∈ Finset.range tree.nodes.size | Relation.ReflTransGen tree.Owns node ⟨index⟩}

/-- How many nodes can be reached from a node through children. -/
noncomputable def height (tree : Tree World) (node : NodeId) : Nat :=
  (tree.reach node).card

/-- Indices in reach are those of the nodes below. -/
theorem mem_reach {index : Nat} : index ∈ tree.reach node ↔
    index < tree.nodes.size ∧ Relation.ReflTransGen tree.Owns node ⟨index⟩ := by
  simp [reach]

/-- A node has at most as many nodes below it as the tree has nodes. -/
theorem height_le (tree : Tree World) (node : NodeId) : tree.height node ≤ tree.nodes.size := by
  have known : tree.reach node ⊆ Finset.range tree.nodes.size := fun index member =>
    Finset.mem_range.mpr (mem_reach.mp member).1
  simpa [height] using Finset.card_le_card known

/-- In an acyclic tree a child has fewer nodes below it than its owner. -/
theorem height_lt_of_owns (acyclic : tree.IsAcyclic) (owns : tree.Owns node child) :
    tree.height child < tree.height node := by
  have fewer : tree.reach child ⊆ tree.reach node := fun index member =>
    mem_reach.mpr ((mem_reach.mp member).imp_right fun reaches => reaches.head owns)
  apply Finset.card_lt_card
  refine (Finset.ssubset_iff_of_subset fewer).mpr ⟨node.index, ?_, ?_⟩
  · exact mem_reach.mpr ⟨owns.known, .refl⟩
  · intro member
    exact acyclic node (.head' owns (mem_reach.mp member).2)

/-- A declared function runs in a scope of its own, so its frame counts. -/
theorem IsBuilt.isFunction_functionLayout (built : tree.IsBuilt) {callee : NodeId}
    {function : FunctionDeclaration} (declared : tree.functionAt? callee = some function) :
    (tree.functionLayout callee).owner.isFunction = true := by
  obtain ⟨directives, builder, key, -, rfl⟩ := built
  rw [(Builder.functionLayout_finish declared).2]
  rfl

end Tree

/-- The guard that forbids nothing. -/
def Guard.free : Guard World where
  Holds _ := True
  Allowed _ := True
  stable _ _ _ := trivial
  allows _ _ _ := trivial

open Guard in
/-- The free guard forbids nothing, so every program upholds it. -/
theorem Guard.free_upheld (program : Program World) : Guard.free.contract.Upheld program where
  raises_ofCause _ := trivial
  poll := kept_poll
  write _ name _ value := kept_write (fun _ _ _ => trivial) name value
  invoke := kept_invoke
  hand _ := kept_hand _
  handFrom statement _ _ _ := kept_handFrom statement _
  tracked _ _ _ kept := kept_tracked trivial kept
  protect kept := kept_protect kept
  call _ _ _ _ _ _ kept :=
    kept_within _ kept (fun _ _ => trivial) (fun _ _ => trivial) fun _ _ => trivial

/-- There is a limit on nested calls, and at most `room` more of them fit under it. -/
def Machine.HasRoom (limit room : Nat) (machine : Machine World) : Prop :=
  machine.monitor.maxCallDepth = some limit ∧ limit ≤ machine.monitor.callDepth + room

namespace Machine.HasRoom

variable {limit room : Nat} {before after : Machine World}

/-- What a computation leaves when it is done has the room that it started with. -/
theorem of_finished (roomy : before.HasRoom limit room)
    (finished : Guard.free.contract.Finished before after) : after.HasRoom limit room := by
  obtain ⟨restored, later⟩ := finished
  refine ⟨(later trivial).maxCallDepth.trans roomy.1, ?_⟩
  rw [restored.callDepth]
  exact roomy.2

/-- Pausing at a node takes up no room. -/
theorem enter (roomy : before.HasRoom limit room) (node : NodeId) :
    (before.enter node).HasRoom limit room := by
  have later : before.Later (fun _ => True) (before.enter node) :=
    .enter before Occurrence.freely trivial
  refine ⟨later.maxCallDepth.trans roomy.1, ?_⟩
  rw [(Restored.enter node before).callDepth]
  exact roomy.2

/-- The frame of a function takes up one level. -/
theorem opened (roomy : before.HasRoom limit (room + 1)) {activation : Activation}
    (counts : activation.layout.owner.isFunction = true) :
    (activation.opened before).HasRoom limit room := by
  have framed : (activation.framed before).HasRoom limit room := by
    obtain ⟨limited, fits⟩ := roomy
    refine ⟨limited, ?_⟩
    simp only [Activation.framed, Monitor.logFrame, counts, if_true]
    omega
  simp only [Activation.opened]
  split
  · exact framed.enter _
  · exact framed

end Machine.HasRoom

/-- Handing a fault on always returns. -/
theorem Machine.hand_ends (fault : Fault) (machine : Machine World) :
    (Machine.hand fault machine).final?.isSome := by
  rcases Machine.hand_cases fault machine with ⟨_, -, ended⟩ | ⟨_, ended, -⟩ <;> rw [ended] <;> rfl

/-- A computation that comes to an end wherever at most `room` more nested calls fit, and gives the
room back. -/
structure Halts (limit room : Nat) (body : Exec (Machine World) Result) : Prop where
  kept : Guard.free.contract.Kept body
  ends : ∀ machine, machine.HasRoom limit room → (body machine).final?.isSome

namespace Halts

variable {limit room : Nat} {body : Exec (Machine World) Result}

/-- A value is there at once. -/
theorem pure (result : Result) :
    Halts limit room (Pure.pure result : Exec (Machine World) Result) :=
  ⟨Contract.kept_pure result, fun _ _ => rfl⟩

theorem fail (fault : Fault) : Halts limit room (Exec.fail fault : Exec (Machine World) Result) :=
  ⟨Contract.kept_fail trivial, fun _ _ => rfl⟩

/-- A sequence halts if the first part does, and the rest from wherever it leads. -/
theorem bind {first : Exec (Machine World) Result} {next : Result → Exec (Machine World) Next}
    (firstHalts : Halts limit room first) (nextHalts : ∀ result, Halts limit room (next result)) :
    Halts limit room (first >>= next) := by
  refine ⟨Contract.kept_bind firstHalts.kept fun result => (nextHalts result).kept, ?_⟩
  intro machine roomy
  have kept := firstHalts.kept machine
  have ended := firstHalts.ends machine roomy
  rw [Exec.bind_apply]
  cases outcome : first machine with
  | done result after =>
    rw [outcome] at kept
    exact (nextHalts result).ends after (roomy.of_finished kept)
  | failed fault after => rfl
  | exhausted after =>
    rw [outcome] at ended
    exact ended

/-- Reading the state takes no time. -/
theorem state {next : Machine World → Exec (Machine World) Result}
    (nextHalts : ∀ machine, Halts limit room (next machine)) :
    Halts limit room (Exec.state >>= next) :=
  ⟨Contract.kept_state fun machine => (nextHalts machine).kept,
    fun machine roomy => (nextHalts machine).ends machine roomy⟩

/-- Catching faults ends whenever the body does, and nothing is caught that is not a fault. -/
theorem attempt (halts : Halts limit room body) : Halts limit room (Exec.attempt body) := by
  refine ⟨fun machine => ?_, fun machine roomy => ?_⟩
  · have kept := halts.kept machine
    simp only [Exec.attempt]
    cases outcome : body machine with
    | done result after =>
      rw [outcome] at kept
      exact kept
    | failed fault after =>
      rw [outcome] at kept
      exact kept.2
    | exhausted after =>
      rw [outcome] at kept
      exact kept
  · have ended := halts.ends machine roomy
    simp only [Exec.attempt]
    cases outcome : body machine with
    | done result after => rfl
    | failed fault after => rfl
    | exhausted after =>
      rw [outcome] at ended
      exact ended

/-- Cleaning up ends what has ended. -/
theorem ends_ensuring {cleanup : Machine World → Machine World} {machine : Machine World}
    (ended : (body machine).final?.isSome) :
    (Exec.ensuring body cleanup machine).final?.isSome := by
  simp only [Exec.ensuring]
  cases outcome : body machine with
  | done result after => rfl
  | failed fault after => rfl
  | exhausted after =>
    rw [outcome] at ended
    exact ended

/-- A statement on the call stack halts if its body does. -/
theorem tracked (node : NodeId) (halts : Halts limit room body) :
    Halts limit room
      (do
        Exec.update (Machine.enter node)
        Exec.ensuring body (Machine.leave node)) := by
  refine ⟨Guard.kept_tracked trivial halts.kept, fun machine roomy => ?_⟩
  exact ends_ensuring (halts.ends _ (roomy.enter node))

/-- An error scope around a body does not keep it from halting. -/
theorem protect (halts : Halts limit room body) : Halts limit room (Machine.protect body) := by
  refine ⟨Guard.kept_protect halts.kept, fun machine roomy => ?_⟩
  have opened : machine.openScope.HasRoom limit room := roomy
  have ended := halts.ends _ opened
  rw [Machine.protect_apply]
  cases outcome : body machine.openScope with
  | done result after => rfl
  | failed fault after => rfl
  | exhausted after =>
    rw [outcome] at ended
    exact ended

/-- A call that does not fit is refused, and its inside may be endless. -/
theorem within_full {activation : Activation} (counts : activation.layout.owner.isFunction = true)
    (kept : Guard.free.contract.Kept body) : Halts limit 0 (activation.within body) := by
  refine ⟨Guard.kept_within activation kept (fun _ _ => trivial) (fun _ _ => trivial)
    fun _ _ => trivial, ?_⟩
  rintro machine ⟨limited, full⟩
  have refused : machine.monitor.refuses activation.layout.owner = some limit := by
    simpa [Monitor.refuses, limited, counts] using full
  rw [Activation.within_apply, refused]
  rfl

/-- The inside of a call has one level of room less. -/
theorem within_roomy {activation : Activation} (counts : activation.layout.owner.isFunction = true)
    (halts : Halts limit room body) : Halts limit (room + 1) (activation.within body) := by
  refine ⟨Guard.kept_within activation halts.kept (fun _ _ => trivial) (fun _ _ => trivial)
    fun _ _ => trivial, ?_⟩
  intro machine roomy
  rw [Activation.within_apply]
  split
  · rfl
  · exact ends_ensuring (halts.ends _ (roomy.opened counts))

end Halts

namespace Program

variable {program : Program World} {limit room : Nat}

/-- The rules of the evaluator are closed under coming to an end; the other side is left open. -/
def halting (program : Program World) (limit room : Nat) : Rules program where
  Related left _ := Halts limit room left
  Raises _ := True
  raises_ofCause _ := trivial
  pure := .pure
  fail _ := .fail _
  bind := .bind
  attempt body done failed _ := by
    refine .bind body.attempt fun result => ?_
    cases result with
    | ok result => exact done result
    | error fault => exact failed fault trivial
  checkpoint stop go := by
    apply Halts.bind ⟨Guard.kept_poll, fun machine _ => by rw [Machine.poll_apply]; rfl⟩
    rintro (_ | _)
    · exact go
    · exact stop
  read _ := .state fun _ => .pure _
  write site name cell value := by
    refine ⟨(Guard.free_upheld program).write site name cell value, fun machine _ => ?_⟩
    simp only [Machine.write]
    split <;> rfl
  invoke construct arguments := by
    refine ⟨(Guard.free_upheld program).invoke construct arguments, fun machine _ => ?_⟩
    simp only [Machine.invoke]
    split <;> rfl
  hand _ := ⟨Guard.kept_hand _, fun machine _ => Machine.hand_ends _ machine⟩
  handFrom statement fault _ _ :=
    ⟨Guard.kept_handFrom statement fault, fun _ _ => Machine.hand_ends fault _⟩
  tracked node _ _ _ _ halts := halts.tracked node
  protect halts := halts.protect

/-- With so much fuel every walk from a node comes to an end: enough to go down from it, and for
each level of room to go down from anywhere. -/
def haltingFuel (tree : Tree World) (room : Nat) (height : Nat) : Nat :=
  room * (tree.nodes.size + 1) + height + 1

/-- A call halts if its inside does with one level of room less, and without room in any case. -/
theorem halts_call (built : program.tree.IsBuilt) {fuel : Nat} {site callee : NodeId}
    (inside : ∀ fewer, room = fewer + 1 → ∀ node, Halts limit fewer (program.process fuel node)) :
    (program.halting limit room).Calls (program.process fuel) (program.process fuel) site
      callee := by
  intro function declared values
  have counts := built.isFunction_functionLayout declared
  cases room with
  | zero =>
    let kept := (Guard.free_upheld program).congruence
    exact .within_full counts (kept.runFunction (kept.process fuel) function values)
  | succ fewer =>
    have walks (node : NodeId) :
        (program.halting limit fewer).Walks (program.process fuel) (program.process fuel) node :=
      inside fewer rfl node
    exact .within_roomy counts <| (program.halting limit fewer).runFunction
      (fun _ _ _ _ node _ => walks node) (walks function.body) values

/-- The induction is on the fuel. A child is lower than its parent, and the inside of a call, which
may be as high as anything, has less room. -/
theorem process_halts (built : program.tree.IsBuilt) (acyclic : program.tree.IsAcyclic)
    (loopless : ∀ node ∈ program.tree.nodes, node.instruction.isLoop = false) {fuel : Nat}
    {node : NodeId} (enough : haltingFuel program.tree room (program.tree.height node) ≤ fuel) :
    Halts limit room (program.process fuel node) := by
  induction fuel generalizing room node with
  | zero => cases enough
  | succ fuel inductionHypothesis =>
    apply (program.halting limit room).step node
    · intro child owns
      have lower := Tree.height_lt_of_owns acyclic owns
      apply inductionHypothesis
      simp only [haltingFuel] at enough ⊢
      omega
    · intro condition body found
      obtain ⟨present, atNode, loop⟩ := Tree.exists_of_instruction found
      have unlike := loopless present (Array.mem_of_getElem? atNode)
      rw [loop] at unlike
      cases unlike
    · intro callee arguments _
      apply halts_call built
      rintro fewer rfl inner
      have bounded := program.tree.height_le inner
      apply inductionHypothesis
      simp only [haltingFuel, Nat.add_mul] at enough ⊢
      omega

/-- A bound on the depth of nested calls makes programs without loops terminate. -/
theorem bounded_calls_terminate (program : Program World) (built : program.tree.IsBuilt)
    (acyclic : program.tree.IsAcyclic)
    (loopless : ∀ node ∈ program.tree.nodes, node.instruction.isLoop = false)
    (machine : Machine World) {limit : Nat} (limited : machine.monitor.maxCallDepth = some limit)
    (node : NodeId) {fuel : Nat}
    (enough : (limit - machine.monitor.callDepth + 1) * (program.tree.nodes.size + 1) ≤ fuel) :
    (program.process fuel node machine).final?.isSome ∧
      (program.eval fuel node machine).final?.isSome := by
  obtain ⟨room, fits⟩ : ∃ room, room = limit - machine.monitor.callDepth := ⟨_, rfl⟩
  have roomy : machine.HasRoom limit room := ⟨limited, by omega⟩
  rw [← fits] at enough
  have walk :
      (program.halting limit room).Walks (program.process fuel) (program.process fuel) node := by
    have bounded := program.tree.height_le node
    apply process_halts built acyclic loopless
    simp only [haltingFuel, Nat.add_mul] at enough ⊢
    omega
  exact ⟨walk.ends machine roomy, ((program.halting limit room).evaluate walk).ends machine roomy⟩

end Program

/-- In a tree whose nodes stand before their children no node is below itself. -/
theorem Tree.isAcyclic_of_ascending {tree : Tree World}
    (ascends : ∀ index < tree.nodes.size, ∀ child ∈ tree.children ⟨index⟩, index < child.index) :
    tree.IsAcyclic := by
  intro node below
  have ascending {first second : NodeId} (below : Relation.TransGen tree.Owns first second) :
      first.index < second.index := by
    induction below with
    | single owns => exact ascends _ owns.known _ owns
    | tail _ owns inductionHypothesis =>
      exact inductionHypothesis.trans (ascends _ owns.known _ owns)
  exact (ascending below).false

/-- A function that calls itself under protection, and once more when that fails. -/
def stubbornRecursion : List (Directive Unit) :=
  [.node (.statement (.declareFunction ⟨"stubborn", [], ⟨1⟩⟩)),
    .node (.statement (.block [⟨2⟩])),
    .node (.statement (.errorBlock
      { body := ⟨3⟩, onError := some ⟨4⟩, onSuccess := none, cleanup := none, cause := none })),
    .node (.statement (.block [⟨5⟩])),
    .node (.statement (.block [⟨6⟩])),
    .node (.expression (.call ⟨0⟩ [])),
    .node (.expression (.call ⟨0⟩ [])),
    .node (.expression (.call ⟨0⟩ []))]

/-- Refused calls are caught and followed by further calls that are refused, and that ends. -/
theorem bounded_calls_terminate_stubborn :
    let program : Program Unit :=
      { tree := ((Builder.applyAll { } stubbornRecursion).getD { }).finish 0 }
    let machine : Machine Unit :=
      { host := { world := () }
        monitor := { maxCallDepth := some 3, policy := .recordAndContinue } }
    let ended := program.process 36 ⟨7⟩ machine
    ended.state.refusals.length = 8 ∧ ended.final?.isSome := by
  intro program machine ended
  have built : program.tree.IsBuilt := ⟨stubbornRecursion, _, 0, rfl, rfl⟩
  have acyclic : program.tree.IsAcyclic := Tree.isAcyclic_of_ascending (by decide)
  have loopless : ∀ node ∈ program.tree.nodes, node.instruction.isLoop = false := by decide
  exact ⟨by decide +kernel, (program.bounded_calls_terminate built acyclic loopless machine rfl ⟨7⟩
    (by decide)).1⟩

end Treewalk
