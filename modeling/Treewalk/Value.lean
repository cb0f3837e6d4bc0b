/-!
# Values

`Value` is what declarations hold, constructs exchange and functions return. Integers are 64-bit
words and numbers with a fraction are IEEE doubles; the two are different values even when they
denote the same number, and only an operator may compare them numerically.

An object is kept as its entries in ascending key order with no key twice. `Value.ofEntries` is the
one way to build one, so the order never depends on the order in which entries were given.
-/

namespace Treewalk

/-- A value of the script language. -/
inductive Value where
  /-- The absent value; every declaration starts out with it. -/
  | null
  | bool (flag : Bool)
  | int (number : Int64)
  | float (number : Float)
  | str (text : String)
  | list (items : List Value)
  /-- Entries in ascending key order, no key twice. -/
  | object (entries : List (String × Value))
deriving Inhabited

namespace Value

/-- The kinds a value can be of; error messages name them. -/
inductive Kind where
  | null
  | bool
  | int
  | float
  | string
  | list
  | object
deriving DecidableEq, Repr

/-- The name a message gives to a kind. -/
def Kind.name : Kind → String
  | .null => "null"
  | .bool => "bool"
  | .int => "int"
  | .float => "float"
  | .string => "string"
  | .list => "list"
  | .object => "object"

/-- The kind of a value. -/
def kind : Value → Kind
  | .null => .null
  | .bool _ => .bool
  | .int _ => .int
  | .float _ => .float
  | .str _ => .string
  | .list _ => .list
  | .object _ => .object

/-- Truth as conditions see it: null, false, zero, not-a-number and everything empty are false. -/
def isTruthy : Value → Bool
  | .null => false
  | .bool flag => flag
  | .int number => number != 0
  | .float number => !(number == 0.0) && !number.isNaN
  | .str text => !text.isEmpty
  | .list items => !items.isEmpty
  | .object entries => !entries.isEmpty

/-- Whether the value is the absent one. -/
def isNull : Value → Bool
  | .null => true
  | _ => false

/-- The integer, if the value is one. -/
def int? : Value → Option Int64
  | .int number => some number
  | _ => none

/-- The numeric view: an integer widens to the nearest double. -/
def number? : Value → Option Float
  | .int number => some (Float.ofInt number.toInt)
  | .float number => some number
  | _ => none

/-- The text, if the value is one. -/
def text? : Value → Option String
  | .str text => some text
  | _ => none

/-- The items, if the value is a list. -/
def items? : Value → Option (List Value)
  | .list items => some items
  | _ => none

/-- The value under a key of an object. -/
def field? (key : String) : Value → Option Value
  | .object entries => entries.lookup key
  | _ => none

/-- Put an entry among entries in ascending key order, over an earlier one with its key. -/
def insertEntry (key : String) (value : Value) :
    List (String × Value) → List (String × Value)
  | [] => [(key, value)]
  | (otherKey, otherValue) :: rest =>
    if key < otherKey then (key, value) :: (otherKey, otherValue) :: rest
    else if key = otherKey then (key, value) :: rest
    else (otherKey, otherValue) :: insertEntry key value rest

/-- The object with the given entries; of two entries with one key the later stays. -/
def ofEntries (entries : List (String × Value)) : Value :=
  .object (entries.foldl (fun sorted entry => insertEntry entry.1 entry.2 sorted) [])

mutual

/-- Structural sameness. An integer is never the same as a float, not-a-number is not the same as
itself at any depth, and the two zeros are the same. -/
def same : Value → Value → Bool
  | .null, .null => true
  | .bool left, .bool right => left == right
  | .int left, .int right => left == right
  | .float left, .float right => left == right
  | .str left, .str right => left == right
  | .list left, .list right => sameItems left right
  | .object left, .object right => sameEntries left right
  | _, _ => false

/-- Sameness of lists, item by item. -/
def sameItems : List Value → List Value → Bool
  | [], [] => true
  | left :: lefts, right :: rights => same left right && sameItems lefts rights
  | _, _ => false

/-- Sameness of objects, entry by entry in key order. -/
def sameEntries : List (String × Value) → List (String × Value) → Bool
  | [], [] => true
  | (leftKey, left) :: lefts, (rightKey, right) :: rights =>
    leftKey == rightKey && same left right && sameEntries lefts rights
  | _, _ => false

end

end Value

end Treewalk
