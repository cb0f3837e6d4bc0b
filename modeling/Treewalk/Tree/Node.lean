import Treewalk.Construct
import Treewalk.NodeId
import Treewalk.Operator

/-!
# Nodes

A compiled script is a flat arena of nodes that name each other by identity. A parent owns its
children; a read, the target of an assignment and the function of a call only refer to a
declaration and are no children. Statements answer with a flow and expressions with a value, yet
either may stand where the other is expected.
-/

namespace Treewalk

/-- How a declaration gets its first value. -/
inductive DeclarationMode where
  /-- From its initializer. -/
  | plain
  /-- From the script's argument when there is one, otherwise from its initializer. -/
  | argument
deriving DecidableEq, Repr

/-- The declaration of a variable. -/
structure VariableDeclaration where
  /-- A label for people; it need not be unique. -/
  name : String
  mode : DeclarationMode
  initializer : Option NodeId
deriving DecidableEq, Repr

/-- The declaration of a function. -/
structure FunctionDeclaration where
  name : String
  /-- Declarations whose initializer is the default value, in order. -/
  parameters : List NodeId
  body : NodeId
deriving DecidableEq, Repr

/-- A protected body and what follows it. -/
structure ErrorBlock where
  body : NodeId
  onError : Option NodeId
  onSuccess : Option NodeId
  cleanup : Option NodeId
  /-- The declaration that receives the caught error as an object. -/
  cause : Option NodeId
deriving DecidableEq, Repr

/-- A node that is processed for its effect. -/
inductive Statement where
  | block (statements : List NodeId)
  | declareVariable (declaration : VariableDeclaration)
  | declareFunction (declaration : FunctionDeclaration)
  | branch (condition consequent : NodeId) (alternative : Option NodeId)
  | loop (condition body : NodeId)
  | foreach (target iterable body : NodeId)
  | breakLoop
  | continueLoop
  | leave (value : Option NodeId)
  | errorBlock (parts : ErrorBlock)
deriving DecidableEq, Repr

/-- A node that is evaluated for its value. -/
inductive Expression (World : Type) where
  | literal (value : Value)
  | list (items : List NodeId)
  | read (declaration : NodeId)
  | assign (target value : NodeId)
  | binary (operator : Operator) (left right : NodeId)
  | call (function : NodeId) (arguments : List NodeId)
  | construct (construct : Construct World) (arguments : List NodeId)

/-- What a node does. -/
inductive Instruction (World : Type) where
  | statement (content : Statement)
  | expression (content : Expression World)

/-- A node of the arena. -/
structure Node (World : Type) where
  instruction : Instruction World
  position : Option Position := none

/-- The owned children of a statement, in processing order. -/
def Statement.children : Statement → List NodeId
  | .block statements => statements
  | .declareVariable declaration => declaration.initializer.toList
  | .declareFunction declaration => declaration.parameters ++ [declaration.body]
  | .branch condition consequent alternative => condition :: consequent :: alternative.toList
  | .loop condition body => [condition, body]
  | .foreach target iterable body => [target, iterable, body]
  | .breakLoop => []
  | .continueLoop => []
  | .leave value => value.toList
  | .errorBlock parts =>
    parts.body :: (parts.onError.toList ++ parts.onSuccess.toList ++ parts.cleanup.toList ++
      parts.cause.toList)

/-- The owned children of an expression, in processing order. -/
def Expression.children {World : Type} : Expression World → List NodeId
  | .literal _ => []
  | .list items => items
  | .read _ => []
  | .assign _ value => [value]
  | .binary _ left right => [left, right]
  | .call _ arguments => arguments
  | .construct _ arguments => arguments

namespace Instruction

variable {World : Type}

/-- The owned children, in processing order. -/
def children : Instruction World → List NodeId
  | .statement content => content.children
  | .expression content => content.children

/-- The declared variable, if the instruction declares one. -/
def declaredVariable? : Instruction World → Option VariableDeclaration
  | .statement (.declareVariable declaration) => some declaration
  | _ => none

/-- The declared function, if the instruction declares one. -/
def declaredFunction? : Instruction World → Option FunctionDeclaration
  | .statement (.declareFunction declaration) => some declaration
  | _ => none

/-- The statements, if the instruction is a block. -/
def statements : Instruction World → List NodeId
  | .statement (.block statements) => statements
  | _ => []

/-- Declarations are what a library contributes. -/
def isDeclaration (instruction : Instruction World) : Bool :=
  instruction.declaredVariable?.isSome || instruction.declaredFunction?.isSome

/-- Whether a block puts the statement on the call stack: function declarations are inert. -/
def isTracked (instruction : Instruction World) : Bool :=
  instruction.declaredFunction?.isNone

end Instruction

end Treewalk
