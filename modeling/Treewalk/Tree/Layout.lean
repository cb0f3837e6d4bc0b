import Treewalk.NodeId

/-!
# Scope layouts

A scope is the top level of a script or the body of a function. Its layout lists the variables that
every invocation of the scope binds, in the order in which they are bound, and apart from that the
variables that frames of the scope record for whoever looks at a run.
-/

namespace Treewalk

/-- The scope whose invocations bind a declaration. -/
inductive Scope where
  /-- The top level of the script with the given root block. -/
  | script (root : NodeId)
  /-- The function with the given declaration. -/
  | function (declaration : NodeId)
  /-- No scope at all. -/
  | detached
deriving DecidableEq, Repr

/-- Whether invocations of the scope count as calls. -/
def Scope.isFunction : Scope → Bool
  | .function _ => true
  | _ => false

/-- The place that holds the bindings of a declaration: the tree and the declaration in it. -/
structure Cell where
  tree : Nat
  declaration : NodeId
deriving DecidableEq, Repr

/-- A variable as a scope binds it. -/
structure Variable where
  cell : Cell
  name : String
  owner : Scope
deriving DecidableEq, Repr

namespace Variable

/-- The declaration site that names a variable. -/
def declaration (entry : Variable) : NodeId :=
  entry.cell.declaration

/-- The variable declared at a site, among the variables of one scope. -/
def declaredAt? (entries : List Variable) (site : NodeId) : Option Variable :=
  entries.find? (·.declaration == site)

/-- Variables in ascending order of their declaration sites. -/
def ascending (entries : List Variable) : List Variable :=
  entries.mergeSort fun left right => left.declaration.le right.declaration

end Variable

/-- The layout of one scope: what its invocations bind, and what their frames record. -/
structure Layout where
  owner : Scope
  /-- The variables that an invocation binds, in binding order. -/
  entries : List Variable
  /-- The variables that a frame records, one for each declaration site. -/
  debugInfo : List Variable
deriving DecidableEq, Repr

namespace Layout

/-- The layout of a scope that binds nothing. -/
def empty : Layout :=
  ⟨.detached, [], []⟩

/-- Bind one more variable, and record it in place of what was recorded for its site. -/
def add (layout : Layout) (entry : Variable) : Layout :=
  { layout with
    entries := layout.entries ++ [entry]
    debugInfo := layout.debugInfo.filter (·.declaration != entry.declaration) ++ [entry] }

/-- The layout of a scope that binds the variables in this order. -/
def ofVariables (owner : Scope) (listed : List Variable) : Layout :=
  listed.foldl add ⟨owner, [], []⟩

/-- Whether frames of the scope record a declaration. -/
def contains (layout : Layout) (declaration : NodeId) : Bool :=
  (Variable.declaredAt? layout.debugInfo declaration).isSome

/-- A layout that is built from variables keeps the owner it is given. -/
@[simp] theorem owner_ofVariables (owner : Scope) (listed : List Variable) :
    (ofVariables owner listed).owner = owner := by
  have kept : ∀ layout : Layout, (listed.foldl add layout).owner = layout.owner := by
    induction listed with
    | nil => exact fun layout => rfl
    | cons entry rest inductionHypothesis => exact fun layout => inductionHypothesis _
  exact kept _

/-- The entries are the variables in the order in which they were listed. -/
@[simp] theorem entries_ofVariables (owner : Scope) (listed : List Variable) :
    (ofVariables owner listed).entries = listed := by
  have appended : ∀ layout : Layout,
      (listed.foldl add layout).entries = layout.entries ++ listed := by
    induction listed with
    | nil => exact fun layout => (List.append_nil _).symm
    | cons entry rest inductionHypothesis =>
      intro layout
      rw [List.foldl_cons, inductionHypothesis, add, List.append_assoc, List.singleton_append]
  exact appended _

end Layout

end Treewalk
