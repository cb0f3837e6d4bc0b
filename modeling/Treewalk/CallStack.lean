import Treewalk.NodeId

/-!
# Call stacks

The call stack lists the nodes that have been entered and not left, newest first. Its depth is kept
beside the list, because every frame records it; the two never disagree, and a stack is determined
by its nodes.
-/

namespace Treewalk

/-- The nodes that have been entered and not left, newest first. -/
structure CallStack where
  nodes : List NodeId := []
  depth : Nat := nodes.length
  depth_eq : depth = nodes.length := by rfl

namespace CallStack

/-- No node has been entered. -/
def empty : CallStack := { }

/-- The number of nodes follows from the nodes, so these make up a call stack. -/
@[ext] theorem ext {left right : CallStack} (nodes : left.nodes = right.nodes) :
    left = right := by
  obtain ⟨leftNodes, leftDepth, leftDepth_eq⟩ := left
  obtain ⟨rightNodes, rightDepth, rightDepth_eq⟩ := right
  subst nodes
  subst leftDepth_eq
  subst rightDepth_eq
  rfl

/-- Enter a node. -/
def push (stack : CallStack) (node : NodeId) : CallStack :=
  ⟨node :: stack.nodes, stack.depth + 1, by simp [stack.depth_eq]⟩

/-- Leave the newest node, if there is one. -/
def pop (stack : CallStack) : CallStack :=
  ⟨stack.nodes.tail, stack.depth - 1, by simp [stack.depth_eq]⟩

/-- The newest node. -/
def top? (stack : CallStack) : Option NodeId :=
  stack.nodes.head?

/-- The nodes from the outermost in. -/
def oldestFirst (stack : CallStack) : List NodeId :=
  stack.nodes.reverse

/-- A node that is pushed goes on top. -/
@[simp] theorem nodes_push (stack : CallStack) (node : NodeId) :
    (stack.push node).nodes = node :: stack.nodes :=
  rfl

/-- With nothing on the stack, nothing is taken off. -/
@[simp] theorem nodes_pop (stack : CallStack) : stack.pop.nodes = stack.nodes.tail :=
  rfl

/-- Leaving undoes entering. -/
@[simp] theorem pop_push (stack : CallStack) (node : NodeId) : (stack.push node).pop = stack :=
  ext rfl

end CallStack

end Treewalk
