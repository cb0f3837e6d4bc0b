import Treewalk.Text.Quoted

/-!
# Identities

A node is named by its position in its tree, a script by its text. One node identity is set aside
for "no node": it is the largest a 32-bit word can hold, and a missing function body carries it.
-/

namespace Treewalk

/-- The name of a node: its position in the tree's arena. -/
structure NodeId where
  index : Nat
deriving DecidableEq, Repr

namespace NodeId

/-- The largest position a node identity can carry. -/
def capacity : Nat := 4294967295

/-- The identity that stands for "no node". -/
def invalid : NodeId := ⟨capacity⟩

instance : Inhabited NodeId := ⟨invalid⟩

/-- Whether the identity is meant to name a node. -/
def isValid (node : NodeId) : Bool :=
  node != invalid

/-- How messages name a node. -/
def display (node : NodeId) : String :=
  "#" ++ toString node.index

/-- How diagnostics name a node. -/
def describe (node : NodeId) : String :=
  if node.isValid then "InstrId(" ++ toString node.index ++ ")" else "InstrId::INVALID"

end NodeId

/-- The name of a script: its path or address. -/
structure ScriptName where
  text : String
deriving DecidableEq, Repr, Inhabited

namespace ScriptName

/-- How diagnostics name a script. -/
def describe (name : ScriptName) : String :=
  "ScriptId(" ++ Text.quoted name.text ++ ")"

/-- Script names are ordered by their code points. -/
def order (left right : ScriptName) : Ordering :=
  compare left.text right.text

end ScriptName

/-- Where a node stands in its source. -/
structure Position where
  /-- Lines count from one. -/
  line : Nat
deriving DecidableEq, Repr

/-- How messages name a position. -/
def Position.display (position : Position) : String :=
  "line " ++ toString position.line

/-- The order in which two ids come in ascending listings. -/
def NodeId.le (left right : NodeId) : Bool :=
  left.index ≤ right.index

end Treewalk
