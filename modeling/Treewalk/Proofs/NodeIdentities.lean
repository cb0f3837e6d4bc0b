import Mathlib.Data.List.Induction
import Treewalk.Tree.Builder

/-!
# Identities of nodes

A builder gives each node the next position of its arena as its identity. Whatever directives come
before, the identity is none of those given so far, and whatever directives follow, in the finished
tree it names the node as it was given, with the definition and the line that came last.

The identities run out one node late. A node is refused when more than `NodeId.capacity` nodes are
there, but the position `NodeId.capacity` is the one that is set aside for "no node", so the node
given just before the first refusal gets an identity that is not meant to name one.
-/

namespace Treewalk

variable {World : Type}

namespace Directive

/-- The instruction that a directive gives an identity to. -/
def given? : Directive World → Option (Instruction World)
  | .node instruction => some instruction
  | .root statements => some (.statement (.block statements))
  | .define _ _ _ => none
  | .line _ _ => none

/-- The parameters and the body that a directive gives to a function. -/
def definition? (node : NodeId) : Directive World → Option (List NodeId × NodeId)
  | .define function parameters body => if function = node then some (parameters, body) else none
  | _ => none

/-- The position that a directive gives to a node. -/
def position? (node : NodeId) : Directive World → Option Position
  | .line target number => if target = node then some ⟨number⟩ else none
  | _ => none

/-- What the last directive says that says something. -/
def latest? {Answer : Type} (says? : Directive World → Option Answer)
    (directives : List (Directive World)) : Option Answer :=
  directives.reverse.findSome? says?

/-- A node after a directive. -/
def revise (node : NodeId) (directive : Directive World) (found : Node World) : Node World where
  instruction :=
    match directive.definition? node with
    | some (parameters, body) => Builder.redefine parameters body found.instruction
    | none => found.instruction
  position := (directive.position? node).or found.position

/-- A node as it was given, with the definition and the position that came last. -/
def revised (node : NodeId) (directives : List (Directive World))
    (instruction : Instruction World) : Node World where
  instruction :=
    match latest? (·.definition? node) directives with
    | some (parameters, body) => Builder.redefine parameters body instruction
    | none => instruction
  position := latest? (·.position? node) directives

/-- The last directive has the last word, if it has anything to say. -/
theorem latest?_concat {Answer : Type} (says? : Directive World → Option Answer)
    (directives : List (Directive World)) (directive : Directive World) :
    latest? says? (directives ++ [directive]) =
      (says? directive).or (latest? says? directives) := by
  rw [latest?, List.reverse_concat, List.findSome?_cons]
  cases says? directive <;> rfl

end Directive

namespace Builder

/-- Defining a function again overwrites the earlier definition. -/
theorem redefine_redefine (parameters earlier : List NodeId) (body formerBody : NodeId)
    (instruction : Instruction World) :
    redefine parameters body (redefine earlier formerBody instruction) =
      redefine parameters body instruction := by
  cases instruction with
  | statement content => cases content <;> rfl
  | expression content => rfl

/-- Revising by one directive after another leaves what came last. -/
theorem foldl_revise (node : NodeId) (instruction : Instruction World)
    (directives : List (Directive World)) :
    directives.foldl (fun found directive => directive.revise node found) { instruction } =
      Directive.revised node directives instruction := by
  induction directives using List.reverseRecOn with
  | nil => rfl
  | append_singleton earlier directive inductionHypothesis =>
    rw [List.foldl_append, List.foldl_cons, List.foldl_nil, inductionHypothesis]
    simp only [Directive.revise, Directive.revised, Directive.latest?_concat]
    congr 1
    cases directive.definition? node with
    | none => rfl
    | some definition =>
      cases Directive.latest? (·.definition? node) earlier with
      | none => rfl
      | some former => exact redefine_redefine _ _ _ _ _

/-- What gives a node leaves the others as they are. -/
theorem revise_of_given {directive : Directive World} {instruction : Instruction World}
    (gives : directive.given? = some instruction) (node : NodeId) (found : Node World) :
    directive.revise node found = found := by
  cases directive with
  | node _ => rfl
  | root _ => rfl
  | define _ _ _ => cases gives
  | line _ _ => cases gives

/-- The ends of a directive: a node is appended, there is no room for it, or the nodes that are
there are revised. -/
inductive Applied (builder : Builder World) (directive : Directive World) :
    Option (Option NodeId × Builder World) → Prop where
  | allocated {instruction : Instruction World} {next : Builder World}
      (gives : directive.given? = some instruction)
      (room : builder.nodes.size ≤ NodeId.capacity)
      (nodes : next.nodes = builder.nodes.push { instruction }) :
      Applied builder directive (some (some ⟨builder.nodes.size⟩, next))
  | refused (gives : directive.given?.isSome = true)
      (full : NodeId.capacity < builder.nodes.size) :
      Applied builder directive none
  | amended {next : Builder World} (gives : directive.given? = none)
      (size : next.nodes.size = builder.nodes.size)
      (revises : ∀ node : NodeId,
        next.nodes[node.index]? = builder.nodes[node.index]?.map (directive.revise node)) :
      Applied builder directive (some (none, next))

/-- Amending a node changes it and no other. -/
theorem getElem?_amend (builder : Builder World) (target node : NodeId)
    (change : Node World → Node World) :
    (builder.amend target change).nodes[node.index]? =
      builder.nodes[node.index]?.map (if target = node then change else id) := by
  rw [amend, Array.getElem?_modify]
  by_cases same : target = node
  · rw [if_pos (congrArg NodeId.index same), if_pos same]
  · rw [if_neg fun index => same (congrArg NodeId.mk index), if_neg same, Option.map_id, id]

section

variable {builder : Builder World} {directive : Directive World}

/-- Giving a node appends it if there is room, whatever else is noted of it. -/
theorem applied_allocate {instruction : Instruction World}
    (gives : directive.given? = some instruction)
    (register : NodeId → Builder World → Builder World)
    (keeps : ∀ node next, (register node next).nodes = next.nodes) :
    builder.Applied directive
      ((builder.allocate instruction).map fun (node, next) => (some node, register node next)) := by
  unfold allocate
  split
  · next room => exact .allocated gives room (keeps _ _)
  · next full => exact .refused (Option.isSome_of_mem gives) (Nat.not_le.mp full)

/-- Amending the node that a directive is about is revising every node by the directive. -/
theorem applied_amend (gives : directive.given? = none) {target : NodeId}
    {change : Node World → Node World}
    (revises : ∀ node, directive.revise node = if target = node then change else id) :
    builder.Applied directive (some (none, builder.amend target change)) := by
  refine .amended gives Array.size_modify fun node => ?_
  rw [getElem?_amend, revises]

end

/-- Applying a directive allocates a node, amends one, or is refused. -/
theorem applied (builder : Builder World) (directive : Directive World) :
    builder.Applied directive (builder.apply directive) := by
  cases directive with
  | node instruction => exact applied_allocate rfl (fun _ next => next) fun _ _ => rfl
  | root statements =>
    let register (node : NodeId) (next : Builder World) : Builder World :=
      { next with roots := next.roots ++ [node] }
    exact applied_allocate rfl register fun _ _ => rfl
  | define function parameters body =>
    refine applied_amend rfl fun node => funext fun found => ?_
    by_cases same : function = node <;> simp [Directive.revise, Directive.definition?,
      Directive.position?, same]
  | line target number =>
    refine applied_amend rfl fun node => funext fun found => ?_
    by_cases same : target = node <;> simp [Directive.revise, Directive.definition?,
      Directive.position?, same]

/-- A directive revises the nodes that are there already. -/
theorem getElem?_apply {builder next : Builder World} {directive : Directive World}
    {given : Option NodeId} (done : builder.apply directive = some (given, next)) {node : NodeId}
    (known : node.index < builder.nodes.size) :
    next.nodes[node.index]? = builder.nodes[node.index]?.map (directive.revise node) := by
  have applied := builder.applied directive
  rw [done] at applied
  cases applied with
  | allocated gives room nodes =>
    have unrevised : directive.revise node = id := funext (revise_of_given gives node)
    rw [nodes, Array.getElem?_push_lt known, unrevised, Option.map_id,
      Array.getElem?_eq_getElem known, id]
  | amended gives size revises => exact revises node

/-- All directives together revise a node one after another. -/
theorem getElem?_applyAll {builder final : Builder World} {directives : List (Directive World)}
    (done : builder.applyAll directives = some final) (node : NodeId) {found : Node World}
    (there : builder.nodes[node.index]? = some found) :
    final.nodes[node.index]? =
      some (directives.foldl (fun found directive => directive.revise node found) found) := by
  induction directives generalizing builder found with
  | nil =>
    cases done
    exact there
  | cons directive rest inductionHypothesis =>
    obtain ⟨⟨given, next⟩, first, remaining⟩ := Option.bind_eq_some_iff.mp done
    have revised := getElem?_apply first (Array.getElem?_eq_some_iff.mp there).1
    rw [there] at revised
    exact inductionHypothesis remaining revised

/-- The identities that directives give, in order, up to the first refusal. -/
def identities (builder : Builder World) : List (Directive World) → List NodeId
  | [] => []
  | directive :: rest =>
    match builder.apply directive with
    | some (given, next) => given.toList ++ next.identities rest
    | none => []

/-- Together with those of the nodes that were there, the identities that are given are the
positions of the arena in order. -/
theorem identities_applyAll {builder final : Builder World} {directives : List (Directive World)}
    (done : builder.applyAll directives = some final) :
    (List.range builder.nodes.size).map NodeId.mk ++ builder.identities directives =
      (List.range final.nodes.size).map NodeId.mk := by
  induction directives generalizing builder with
  | nil =>
    cases done
    exact List.append_nil _
  | cons directive rest inductionHypothesis =>
    obtain ⟨⟨given, next⟩, first, remaining⟩ := Option.bind_eq_some_iff.mp done
    have later := inductionHypothesis remaining
    have applied := builder.applied directive
    rw [first] at applied
    simp only [identities, first]
    cases applied with
    | allocated gives room nodes =>
      rw [nodes, Array.size_push, List.range_succ, List.map_append] at later
      simpa using later
    | amended gives size revises =>
      rw [size] at later
      exact later

/-- A call of the builder after any others, and before any others. It is refused exactly when it
gives a node and more nodes are there than the capacity. The identity that it gives is new. In the
finished tree it names the node as it was given, with the definition and the line that came last.
It is meant to name a node exactly when fewer nodes were there than the capacity. -/
theorem node_identities {earlier : List (Directive World)} {builder : Builder World}
    (reached : Builder.applyAll { } earlier = some builder) (directive : Directive World) :
    (builder.apply directive = none ↔
      directive.given?.isSome = true ∧ NodeId.capacity < builder.nodes.size) ∧
    ∀ node next, builder.apply directive = some (some node, next) →
      (node.isValid = true ↔ builder.nodes.size < NodeId.capacity) ∧
      node ∉ Builder.identities { } earlier ∧
      ∃ instruction, directive.given? = some instruction ∧
        ∀ later final key, next.applyAll later = some final →
          (final.finish key).get? node = some (Directive.revised node later instruction) := by
  have dense : Builder.identities { } earlier = (List.range builder.nodes.size).map NodeId.mk :=
    identities_applyAll reached
  have applied := builder.applied directive
  constructor
  · revert applied
    generalize builder.apply directive = outcome
    intro applied
    cases applied with
    | allocated gives room nodes =>
      exact iff_of_false nofun fun full => Nat.not_lt.mpr room full.2
    | refused gives full => exact iff_of_true rfl ⟨gives, full⟩
    | amended gives size revises =>
      refine iff_of_false nofun fun full => ?_
      rw [gives] at full
      cases full.1
  · intro node next given
    rw [given] at applied
    cases applied with
    | @allocated instruction _ gives room nodes =>
      refine ⟨?_, ?_, instruction, gives, fun later final key done => ?_⟩
      · simp only [NodeId.isValid, NodeId.invalid, bne_iff_ne, ne_eq, NodeId.mk.injEq]
        omega
      · rw [dense]
        simp
      · have there : next.nodes[builder.nodes.size]? = some { instruction } := by
          rw [nodes]
          exact Array.getElem?_push_size
        rw [← foldl_revise]
        exact getElem?_applyAll done ⟨builder.nodes.size⟩ there

/-- A function that is declared, defined twice and given a line. -/
theorem node_identities_redefined :
    let earlier : List (Directive Unit) := [.node (.expression (.literal .null))]
    let declared : FunctionDeclaration := ⟨"f", [], .invalid⟩
    let later : List (Directive Unit) :=
      [.define ⟨1⟩ [⟨3⟩] ⟨2⟩, .line ⟨1⟩ 7, .define ⟨1⟩ [] ⟨0⟩, .node (.statement .breakLoop)]
    ∃ builder next final,
      Builder.applyAll { } earlier = some builder ∧
      builder.apply (.node (.statement (.declareFunction declared))) = some (some ⟨1⟩, next) ∧
      next.applyAll later = some final ∧
      (⟨1⟩ : NodeId).isValid = true ∧ ⟨1⟩ ∉ Builder.identities { } earlier ∧
      (final.finish 0).get? ⟨1⟩ = some
        { instruction := .statement (.declareFunction ⟨"f", [], ⟨0⟩⟩), position := some ⟨7⟩ } := by
  intro earlier declared later
  refine ⟨_, _, _, rfl, rfl, rfl, ?_⟩
  have identities := node_identities (show Builder.applyAll { } earlier = some _ from rfl)
    (.node (.statement (.declareFunction declared)))
  obtain ⟨valid, unused, instruction, given, named⟩ := identities.2 ⟨1⟩ _ rfl
  cases given
  exact ⟨valid.mpr (by decide), unused, named later _ 0 rfl⟩

/-- As many nodes as there is room for are all given. -/
theorem exists_applyAll_replicate (instruction : Instruction World) (count : Nat)
    (builder : Builder World) (room : builder.nodes.size + count ≤ NodeId.capacity + 1) :
    ∃ final, builder.applyAll (List.replicate count (.node instruction)) = some final ∧
      final.nodes.size = builder.nodes.size + count := by
  induction count generalizing builder with
  | zero => exact ⟨builder, rfl, rfl⟩
  | succ count inductionHypothesis =>
    let next : Builder World := { builder with nodes := builder.nodes.push { instruction } }
    have size : next.nodes.size = builder.nodes.size + 1 := Array.size_push _
    have first : builder.apply (.node instruction) = some (some ⟨builder.nodes.size⟩, next) := by
      rw [apply, allocate, if_pos (by omega)]
      rfl
    obtain ⟨final, rest, total⟩ := inductionHypothesis next (by omega)
    refine ⟨final, ?_, by omega⟩
    rw [List.replicate_succ, applyAll, first]
    exact rest

/-- With as many nodes as the capacity, one more is not refused, and its identity is the one that
stands for no node. -/
theorem invalid_identity_at_capacity :
    let instruction : Instruction Unit := .expression (.literal .null)
    ∃ builder next,
      Builder.applyAll { } (List.replicate NodeId.capacity (.node instruction)) = some builder ∧
      builder.nodes.size = NodeId.capacity ∧
      builder.apply (.node instruction) = some (some .invalid, next) ∧
      NodeId.invalid.isValid = false := by
  intro instruction
  obtain ⟨builder, built, size⟩ := exists_applyAll_replicate instruction NodeId.capacity { }
    (by simp)
  have full : builder.nodes.size = NodeId.capacity := size.trans (Nat.zero_add _)
  refine ⟨builder, { builder with nodes := builder.nodes.push { instruction } }, built, full, ?_,
    by decide⟩
  rw [apply, allocate, if_pos (Nat.le_of_eq full), full]
  rfl

end Builder

end Treewalk
