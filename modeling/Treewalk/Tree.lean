import Treewalk.Fault
import Treewalk.Tree.Layout
import Treewalk.Tree.Node

/-!
# Trees

A tree is a finished arena: its nodes never change, and the layout of each of its scopes is known.
A script and all of its libraries live in one tree, so that a call in one can name a function of
another. The key tells trees apart: declarations of two trees never share bindings.
-/

namespace Treewalk

/-- A finished arena of nodes. -/
structure Tree (World : Type) where
  key : Nat
  nodes : Array (Node World)
  /-- Script roots in the order they were registered, then functions. -/
  layouts : List Layout

namespace Tree

variable {World : Type}

/-- The node with an identity. -/
def get? (tree : Tree World) (node : NodeId) : Option (Node World) :=
  tree.nodes[node.index]?

/-- What a node does, or the fault of an identity that names no node. -/
def instruction (tree : Tree World) (node : NodeId) : Except Fault (Instruction World) :=
  match tree.get? node with
  | some found => .ok found.instruction
  | none => .error (.ofCause (.unknownNode node))

/-- The owned children of a node; none for an unknown one. -/
def children (tree : Tree World) (node : NodeId) : List NodeId :=
  ((tree.get? node).map (·.instruction.children)).getD []

/-- The source position of a node. -/
def position? (tree : Tree World) (node : NodeId) : Option Position :=
  (tree.get? node).bind (·.position)

/-- The variable declared at a node. -/
def variableAt? (tree : Tree World) (node : NodeId) : Option VariableDeclaration :=
  (tree.get? node).bind (·.instruction.declaredVariable?)

/-- The function declared at a node. -/
def functionAt? (tree : Tree World) (node : NodeId) : Option FunctionDeclaration :=
  (tree.get? node).bind (·.instruction.declaredFunction?)

/-- The statements of a block; none for anything else. -/
def statements (tree : Tree World) (node : NodeId) : List NodeId :=
  ((tree.get? node).map (·.instruction.statements)).getD []

/-- The layout of a scope. -/
def layout? (tree : Tree World) (owner : Scope) : Option Layout :=
  tree.layouts.find? (·.owner == owner)

/-- The layout of a registered script root. -/
def rootLayout? (tree : Tree World) (root : NodeId) : Option Layout :=
  tree.layout? (.script root)

/-- The layout of a function. -/
def functionLayout (tree : Tree World) (function : NodeId) : Layout :=
  (tree.layout? (.function function)).getD .empty

/-- The cell of a declaration of the tree. -/
def cell (tree : Tree World) (declaration : NodeId) : Cell :=
  ⟨tree.key, declaration⟩

/-- The scope that owns a declaration: of several that list it, the last one. -/
def owner (tree : Tree World) (declaration : NodeId) : Scope :=
  match tree.layouts.reverse.find? (·.contains declaration) with
  | some layout => layout.owner
  | none => .detached

section

variable {tree : Tree World} {node : NodeId} {instruction : Instruction World}

/-- An instruction is found at a node that is present. -/
theorem exists_of_instruction (found : tree.instruction node = .ok instruction) :
    ∃ present, tree.get? node = some present ∧ present.instruction = instruction := by
  simp only [Tree.instruction] at found
  split at found
  · next present atNode => exact ⟨present, atNode, by simpa using found⟩
  · cases found

theorem children_of_instruction (found : tree.instruction node = .ok instruction) :
    tree.children node = instruction.children := by
  obtain ⟨present, atNode, rfl⟩ := exists_of_instruction found
  simp [Tree.children, atNode]

theorem statements_of_instruction (found : tree.instruction node = .ok instruction) :
    tree.statements node = instruction.statements := by
  obtain ⟨present, atNode, rfl⟩ := exists_of_instruction found
  simp [Tree.statements, atNode]

/-- The statements of a block are its children. -/
theorem statements_subset_children : tree.statements node ⊆ tree.children node := by
  simp only [Tree.statements, Tree.children]
  cases tree.get? node with
  | none => exact fun _ member => member
  | some present =>
    intro statement member
    simp only [Option.map_some, Option.getD_some, Instruction.statements] at member ⊢
    split at member
    · next block => simpa [block, Instruction.children, Statement.children] using member
    · cases member

/-- What a node declares is a matter of its instruction. -/
theorem variableAt?_of_instruction (found : tree.instruction node = .ok instruction) :
    tree.variableAt? node = instruction.declaredVariable? := by
  obtain ⟨present, atNode, rfl⟩ := exists_of_instruction found
  simp [variableAt?, atNode]

theorem functionAt?_of_instruction (found : tree.instruction node = .ok instruction) :
    tree.functionAt? node = instruction.declaredFunction? := by
  obtain ⟨present, atNode, rfl⟩ := exists_of_instruction found
  simp [functionAt?, atNode]

/-- Only the declaration of a variable declares one. -/
theorem instruction_of_variableAt? {declaration : VariableDeclaration}
    (declared : tree.variableAt? node = some declaration) :
    tree.instruction node = .ok (.statement (.declareVariable declaration)) := by
  obtain ⟨found, atNode, declares⟩ := Option.bind_eq_some_iff.mp declared
  simp only [Tree.instruction, atNode]
  simp only [Instruction.declaredVariable?] at declares
  split at declares
  · next content => simp_all
  · cases declares

/-- Only the declaration of a function declares one. -/
theorem instruction_of_functionAt? {declaration : FunctionDeclaration}
    (declared : tree.functionAt? node = some declaration) :
    tree.instruction node = .ok (.statement (.declareFunction declaration)) := by
  obtain ⟨found, atNode, declares⟩ := Option.bind_eq_some_iff.mp declared
  simp only [Tree.instruction, atNode]
  simp only [Instruction.declaredFunction?] at declares
  split at declares
  · next content => simp_all
  · cases declares

end

end Tree

end Treewalk
