import Treewalk.Tree

/-!
# Building trees

A builder takes directives one by one. Nodes are numbered in the order they are given and may refer
forward, to nodes given later. Finishing settles the scopes: each script root and each function
gets the layout of the variables that its own part of the arena declares.
-/

namespace Treewalk

/-- An arena under construction. -/
structure Builder (World : Type) where
  nodes : Array (Node World) := #[]
  /-- Registered script roots, oldest first. -/
  roots : List NodeId := []

/-- One step of building a tree. -/
inductive Directive (World : Type) where
  /-- Give the next identity to a node. -/
  | node (instruction : Instruction World)
  /-- Give the next identity to a block and register it as the root of a script. -/
  | root (statements : List NodeId)
  /-- Set parameters and body of a function. -/
  | define (function : NodeId) (parameters : List NodeId) (body : NodeId)
  /-- Set the source line of a node. -/
  | line (node : NodeId) (line : Nat)

namespace Builder

variable {World : Type}

/-- Append a node under the next identity; refused once identities have run out. -/
def allocate (builder : Builder World) (instruction : Instruction World) :
    Option (NodeId × Builder World) :=
  if builder.nodes.size ≤ NodeId.capacity then
    some (⟨builder.nodes.size⟩, { builder with nodes := builder.nodes.push { instruction } })
  else none

/-- Change a node in place; an identity that names no node is ignored. -/
def amend (builder : Builder World) (node : NodeId) (change : Node World → Node World) :
    Builder World :=
  { builder with nodes := builder.nodes.modify node.index change }

/-- A function declaration with other parameters and another body; other instructions stay. -/
def redefine (parameters : List NodeId) (body : NodeId) : Instruction World → Instruction World
  | .statement (.declareFunction declaration) =>
    .statement (.declareFunction { declaration with parameters, body })
  | other => other

/-- Carry out a directive; the identity is that of the node it gave, if it gave one. -/
def apply (builder : Builder World) :
    Directive World → Option (Option NodeId × Builder World)
  | .node instruction =>
    (builder.allocate instruction).map fun (node, next) => (some node, next)
  | .root statements =>
    (builder.allocate (.statement (.block statements))).map fun (node, next) =>
      (some node, { next with roots := next.roots ++ [node] })
  | .define function parameters body =>
    some (none, builder.amend function fun node =>
      { node with instruction := redefine parameters body node.instruction })
  | .line node line =>
    some (none, builder.amend node fun found => { found with position := some ⟨line⟩ })

/-- Carry out directives in order. -/
def applyAll (builder : Builder World) : List (Directive World) → Option (Builder World)
  | [] => some builder
  | directive :: rest => (builder.apply directive).bind fun (_, next) => next.applyAll rest

/-- The instruction of a node. -/
def instruction? (builder : Builder World) (node : NodeId) : Option (Instruction World) :=
  (builder.nodes[node.index]?).map (·.instruction)

/-- The owned children of a node; none for an unknown one. -/
def children (builder : Builder World) (node : NodeId) : List NodeId :=
  ((builder.instruction? node).map (·.children)).getD []

/-- The children that belong to the same scope as a node: functions keep theirs to themselves. -/
def scopeChildren (builder : Builder World) (node : NodeId) : List NodeId :=
  if ((builder.instruction? node).bind (·.declaredFunction?)).isSome then []
  else builder.children node

/-- The nodes of one scope in preorder, each at its first occurrence. `pending` is what is left to
visit, nearest first; every round visits one new node, so as many rounds as there are nodes do. -/
def scopePreorder (builder : Builder World) : Nat → List NodeId → List NodeId → List NodeId
  | 0, _, _ => []
  | rounds + 1, visited, pending =>
    let settled (node : NodeId) : Bool :=
      visited.contains node || (builder.instruction? node).isNone
    match pending.dropWhile settled with
    | [] => []
    | node :: rest =>
      node :: builder.scopePreorder rounds (node :: visited) (builder.scopeChildren node ++ rest)

/-- A declaration of the arena: its site and what it declares. -/
abbrev Site := NodeId × VariableDeclaration

/-- The variables declared in the scope with the given root or function node, in source order. -/
def scopeSites (builder : Builder World) (node : NodeId) : List Site :=
  (builder.scopePreorder builder.nodes.size [] (builder.children node)).filterMap fun site =>
    ((builder.instruction? site).bind (·.declaredVariable?)).map fun declaration =>
      (site, declaration)

/-- The declared functions, in the order of their identities. -/
def functions (builder : Builder World) : List NodeId :=
  ((List.range builder.nodes.size).map NodeId.mk).filter fun node =>
    ((builder.instruction? node).bind (·.declaredFunction?)).isSome

/-- The scopes of the arena with the variables they declare: script roots as registered, then
functions. -/
def scopes (builder : Builder World) : List (Scope × List Site) :=
  builder.roots.map (fun root => (.script root, builder.scopeSites root)) ++
    builder.functions.map fun function => (.function function, builder.scopeSites function)

/-- The scope that owns a declaration: of several that reach it, the last one. -/
def ownerAmong (scopes : List (Scope × List Site)) (declaration : NodeId) : Scope :=
  match scopes.reverse.find? fun scope => scope.2.any (·.1 == declaration) with
  | some scope => scope.1
  | none => .detached

/-- Settle the scopes and freeze the arena. -/
def finish (builder : Builder World) (key : Nat) : Tree World :=
  let scopes := builder.scopes
  let bound (site : Site) : Variable := ⟨⟨key, site.1⟩, site.2.name, ownerAmong scopes site.1⟩
  { key
    nodes := builder.nodes
    layouts := scopes.map fun scope => .ofVariables scope.1 (scope.2.map bound) }

end Builder

end Treewalk
