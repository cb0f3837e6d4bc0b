import Treewalk.Value
import Treewalk.Decimal.Shortest

/-!
# Values as text

The text of a value for people: strings as they are, lists in square brackets, objects in braces
with their entries in key order. It is a display, not a syntax: two values may share a text.
-/

namespace Treewalk.Value

/-- A double as text: the shortest digits that read back as it, never with an exponent, no point
after a whole number, and the sign of zero kept. -/
def displayFloat (number : Float) : String :=
  if number.isNaN then "NaN"
  else
    let bits := number.toBits.toNat
    let magnitude := bits % (exponentPlace * fractionPlace)
    let sign := if bits = magnitude then "" else "-"
    if magnitude = 0 then sign ++ "0"
    else if magnitude / fractionPlace = exponentPlace - 1 then sign ++ "inf"
    else sign ++ (BinaryNumber.ofBits magnitude).shortest.positional

mutual

/-- The text of a value. -/
def display : Value → String
  | .null => "null"
  | .bool flag => if flag then "true" else "false"
  | .int number => toString number.toInt
  | .float number => displayFloat number
  | .str text => text
  | .list items => "[" ++ displayItems items ++ "]"
  | .object entries => "\x7b" ++ displayEntries entries ++ "\x7d"

/-- The texts of list items, a comma and a blank between two. -/
def displayItems : List Value → String
  | [] => ""
  | [item] => display item
  | item :: rest => display item ++ ", " ++ displayItems rest

/-- The texts of object entries, a comma and a blank between two. -/
def displayEntries : List (String × Value) → String
  | [] => ""
  | [(key, value)] => key ++ ": " ++ display value
  | (key, value) :: rest => key ++ ": " ++ display value ++ ", " ++ displayEntries rest

end

end Treewalk.Value
