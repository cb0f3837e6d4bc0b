import Treewalk.Text.Quoted
import Treewalk.Value

/-!
# Constructs

A construct is a leaf of the language: it takes a fixed number of values and answers with one or
fails with a message. It sees the world outside the scripts, and the stop signal shared by all that
run in that world; it sees neither bindings nor the call stack.
-/

namespace Treewalk

/-- What constructs act on: a world of the embedding code's choice and the shared stop signal. -/
structure Host (World : Type) where
  world : World
  /-- The shared stop signal is up. -/
  halted : Bool := false

/-- A native function that scripts can call. -/
structure Construct (World : Type) where
  name : String
  /-- How many arguments it takes. -/
  arity : Nat
  invoke : List Value → Host World → Except String Value × Host World

namespace Construct

variable {World : Type}

/-- How diagnostics show a construct that stands in a tree. -/
def label (construct : Construct World) : String :=
  "<construct " ++ construct.name ++ "/" ++ toString construct.arity ++ ">"

/-- How diagnostics show a construct on its own. -/
def describe (construct : Construct World) : String :=
  "FnConstruct \x7b name: " ++ Text.quoted construct.name ++ ", arity: " ++
    toString construct.arity ++ ", .. \x7d"

end Construct

end Treewalk
