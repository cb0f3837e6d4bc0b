import Treewalk.Script

/-!
# Paths to nodes

A path leads from a script to a node along ownership: from a script to the statements of its root
block and to its libraries, from a node to its children. The search is breadth first, so the path
it finds is a shortest one. Scripts are told apart by their names; of several with one name, the
first that the search meets stands for all.
-/

namespace Treewalk

/-- A place on a path. -/
inductive PathElement where
  | script (name : ScriptName)
  | node (node : NodeId)
deriving DecidableEq, Repr

/-- A path that grows at its end: the last place and those before it, nearest first. -/
structure Trail where
  last : PathElement
  before : List PathElement
deriving DecidableEq, Repr

namespace Trail

/-- The places of a trail from its start. -/
def places (trail : Trail) : List PathElement :=
  (trail.last :: trail.before).reverse

/-- Go one place further. -/
def extend (trail : Trail) (place : PathElement) : Trail :=
  ⟨place, trail.last :: trail.before⟩

@[simp] theorem places_extend (trail : Trail) (place : PathElement) :
    (trail.extend place).places = trail.places ++ [place] := by
  simp [places, extend]

end Trail

namespace ScriptGraph

/-- The scripts that a search has met, by name. -/
abbrev KnownScripts := List (ScriptName × Nat)

/-- How far a search has come. -/
structure Search where
  known : KnownScripts
  /-- The places that were put on the fringe, those that have left it included. -/
  visited : List PathElement
  /-- The trails to go on from, oldest first. -/
  fringe : List Trail

variable {World : Type}

/-- Remember a script, unless one of its name is known. -/
def KnownScripts.insert (known : KnownScripts) (name : ScriptName) (number : Nat) :
    KnownScripts :=
  if (known.lookup name).isSome then known else known ++ [(name, number)]

/-- The places one step on from a place, and the scripts known once they are listed. -/
def expand (graph : ScriptGraph World) (tree : Tree World) (known : KnownScripts) :
    PathElement → List PathElement × KnownScripts
  | .node node => ((tree.children node).map .node, known)
  | .script name =>
    match known.lookup name with
    | none => ([], known)
    | some number =>
      let script := graph.script number
      let libraries := script.libraries.map fun library => ((graph.script library).name, library)
      ((tree.statements script.root).map .node ++ libraries.map fun library => .script library.1,
        libraries.foldl (fun names library => names.insert library.1 library.2) known)

/-- The places one step on that have not been visited, each once. -/
def fresh (graph : ScriptGraph World) (tree : Tree World) (search : Search)
    (place : PathElement) : List PathElement :=
  let places := (graph.expand tree search.known place).1
  (places.filter fun next => !search.visited.contains next).eraseDups

/-- Follow a trail one step in every direction that was not taken yet. -/
def follow (graph : ScriptGraph World) (tree : Tree World) (trail : Trail) (search : Search) :
    Search :=
  let fresh := graph.fresh tree search trail.last
  { known := (graph.expand tree search.known trail.last).2
    visited := search.visited ++ fresh
    fringe := search.fringe ++ fresh.map trail.extend }

/-- Search from the fringe, oldest trail first, with at most so many rounds. Every round takes one
trail off the fringe. Nothing is answered when the rounds do not suffice. -/
def searchPath (graph : ScriptGraph World) (tree : Tree World) (goal : PathElement) :
    Nat → Search → Option (List PathElement)
  | 0, _ => none
  | rounds + 1, search =>
    match search.fringe with
    | [] => some []
    | trail :: fringe =>
      if trail.last = goal then some trail.places
      else graph.searchPath tree goal rounds (graph.follow tree trail { search with fringe })

/-- Everything that a node of the tree or the root block of a script lists, as often as it does. -/
def listedPlaces (graph : ScriptGraph World) (tree : Tree World) : List PathElement :=
  let below := tree.nodes.toList.flatMap fun node => node.instruction.children.map .node
  let listed := graph.scripts.toList.flatMap fun script =>
    (tree.statements script.root).map PathElement.node ++
      script.libraries.map fun library => .script (graph.script library).name
  below ++ listed

/-- The search from a script before its first round. -/
def searchFrom (graph : ScriptGraph World) (number : Nat) : Search :=
  let start := PathElement.script (graph.script number).name
  { known := [((graph.script number).name, number)], visited := [start], fringe := [⟨start, []⟩] }

/-- How many rounds a search from a script may take. A place is put on the fringe at most once, so
the start, all listed places and the end bound the rounds. -/
def searchRounds (graph : ScriptGraph World) (number : Nat) : Nat :=
  2 + (graph.listedPlaces (graph.script number).tree).length

/-- A shortest path from a script to a node of its tree; empty when there is none. -/
def pathTo (graph : ScriptGraph World) (number : Nat) (node : NodeId) : List PathElement :=
  let answer := graph.searchPath (graph.script number).tree (.node node)
    (graph.searchRounds number) (graph.searchFrom number)
  answer.getD []

end ScriptGraph

end Treewalk
