import Treewalk.Table
import Treewalk.Tree.Layout
import Treewalk.Value

/-!
# Bindings

Every declaration has a stack of bindings, one for each live invocation of its scope. The store
keeps these stacks, newest binding first. `Store.bindings` is the view that matters: a cell that was
never bound and one whose bindings are all gone look the same through it.
-/

namespace Treewalk

/-- The binding stacks of all declarations, newest binding first. -/
structure Store where
  table : Table Cell (List Value) := { }

namespace Store

/-- The bindings of a cell, newest first. -/
def bindings (store : Store) (cell : Cell) : List Value :=
  store.table.get cell

/-- Give a cell the bindings listed, newest first. -/
def set (store : Store) (cell : Cell) (values : List Value) : Store :=
  ⟨store.table.set cell values⟩

/-- Open a binding. -/
def push (store : Store) (cell : Cell) (value : Value) : Store :=
  store.set cell (value :: store.bindings cell)

/-- Close the newest binding, if there is one. -/
def pop (store : Store) (cell : Cell) : Store :=
  store.set cell (store.bindings cell).tail

/-- Overwrite the newest binding; a cell without one cannot be written. -/
def replace? (store : Store) (cell : Cell) (value : Value) : Option Store :=
  match store.bindings cell with
  | [] => none
  | _ :: older => some (store.set cell (value :: older))

/-- The newest binding. -/
def current? (store : Store) (cell : Cell) : Option Value :=
  (store.bindings cell).head?

/-- The binding `offset` places below the newest. -/
def peek? (store : Store) (cell : Cell) (offset : Nat) : Option Value :=
  (store.bindings cell)[offset]?

/-- The oldest binding. -/
def oldest? (store : Store) (cell : Cell) : Option Value :=
  (store.bindings cell).getLast?

/-- How many bindings are open. -/
def depth (store : Store) (cell : Cell) : Nat :=
  (store.bindings cell).length

/-- Open a null binding for each variable of a scope. -/
def bind (store : Store) (layout : Layout) : Store :=
  layout.entries.foldl (fun bound entry => bound.push entry.cell .null) store

/-- Close one binding of each variable of a scope, newest first. -/
def unbind (store : Store) (layout : Layout) : Store :=
  layout.entries.reverse.foldl (fun bound entry => bound.pop entry.cell) store

/-- Setting a cell changes what is bound there and nowhere else. -/
@[simp] theorem bindings_set (store : Store) (cell other : Cell) (values : List Value) :
    (store.set cell values).bindings other =
      if other = cell then values else store.bindings other :=
  Table.get_set store.table cell other values

/-- A value that is pushed is the newest one of its cell, and other cells do not notice. -/
@[simp] theorem bindings_push (store : Store) (cell other : Cell) (value : Value) :
    (store.push cell value).bindings other =
      if other = cell then value :: store.bindings cell else store.bindings other :=
  bindings_set store cell other _

/-- The newest value of a cell is dropped, if there is one. -/
@[simp] theorem bindings_pop (store : Store) (cell other : Cell) :
    (store.pop cell).bindings other =
      if other = cell then (store.bindings cell).tail else store.bindings other :=
  bindings_set store cell other _

end Store

end Treewalk
