/-!
# Shortest decimals

A positive binary number `mantissa * 2 ^ exponent` stands for every real that rounds to it. This
module finds the decimal with the fewest digits among those reals, and of several with that many
digits the one nearest to the number itself; an exact tie goes to the larger one.

Everything is exact arithmetic on natural numbers. Reals are measured in quarters of the last
binary place, because both ends of the rounding interval are whole numbers of quarters.
-/

namespace Treewalk

/-- A decimal number `digits * 10 ^ exponent`. -/
structure Decimal where
  digits : Nat
  exponent : Int
deriving DecidableEq, Repr

/-- A positive binary number with the interval of reals that round to it. -/
structure BinaryNumber where
  mantissa : Nat
  exponent : Int
  /-- The number is the smallest of its binade, so its lower neighbour is only half as far. -/
  narrowBelow : Bool
deriving DecidableEq, Repr

namespace BinaryNumber

/-- The number in quarters of its last place. -/
def quarters (number : BinaryNumber) : Nat :=
  4 * number.mantissa

/-- The lower end of the rounding interval, in quarters. -/
def lowQuarters (number : BinaryNumber) : Nat :=
  if number.narrowBelow then number.quarters - 1 else number.quarters - 2

/-- The upper end of the rounding interval, in quarters. -/
def highQuarters (number : BinaryNumber) : Nat :=
  number.quarters + 2

/-- Both ends round to the number exactly when its mantissa is even. -/
def closed (number : BinaryNumber) : Bool :=
  number.mantissa % 2 == 0

/-- The factor that turns quarters into whole multiples of the unit shared with `10 ^ place`. -/
def quarterScale (number : BinaryNumber) (place : Int) : Nat :=
  Nat.pow 2 (number.exponent - 2).toNat * Nat.pow 10 (-place).toNat

/-- One step of the grid of multiples of `10 ^ place`, in the unit of `quarterScale`. -/
def gridStep (number : BinaryNumber) (place : Int) : Nat :=
  Nat.pow 2 (2 - number.exponent).toNat * Nat.pow 10 place.toNat

/-- Whether `count` steps of the grid of `10 ^ place` lie in the rounding interval. -/
def covers (number : BinaryNumber) (place : Int) (count : Nat) : Bool :=
  let scale := number.quarterScale place
  let position := count * number.gridStep place
  let low := number.lowQuarters * scale
  let high := number.highQuarters * scale
  if number.closed then low ≤ position && position ≤ high
  else low < position && position < high

/-- The point of the grid of `10 ^ place` that stands for the number, if one does: the nearer of its
two neighbours on the grid, the upper one on a tie. -/
def gridPoint? (number : BinaryNumber) (place : Int) : Option Decimal :=
  let scaled := number.quarters * number.quarterScale place
  let step := number.gridStep place
  let below := scaled / step
  let above := below + 1
  let upperNearer := step ≤ 2 * (scaled % step)
  if number.covers place below && number.covers place above then
    some ⟨if upperNearer then above else below, place⟩
  else if number.covers place below then some ⟨below, place⟩
  else if number.covers place above then some ⟨above, place⟩
  else none

/-- Search ever finer grids, starting from `10 ^ place`; `grids` bounds how many are tried. -/
def firstGridPoint (number : BinaryNumber) : Nat → Int → Decimal
  | 0, place =>
    ⟨number.quarters * number.quarterScale place / number.gridStep place, place⟩
  | grids + 1, place =>
    match number.gridPoint? place with
    | some point => point
    | none => number.firstGridPoint grids (place - 1)

/-- A power of ten above the number: the place of its leading digit, plus one. Doubles are larger
than `10 ^ (-400)`, so scaling by that power loses no leading digit. -/
def leadingPlace (number : BinaryNumber) : Int :=
  let scaled := number.quarters * number.quarterScale (-400) / number.gridStep (-400)
  (Nat.toDigits 10 scaled).length - 400

/-- The shortest decimal that rounds to the number; seventeen digits always suffice. -/
def shortest (number : BinaryNumber) : Decimal :=
  number.firstGridPoint 18 number.leadingPlace

end BinaryNumber

/-- The digits of a decimal written out without an exponent. -/
def Decimal.positional (number : Decimal) : String :=
  let digits := Nat.toDigits 10 number.digits
  let zeros (count : Nat) : List Char := List.replicate count '0'
  match number.exponent with
  | .ofNat trailing => String.ofList (digits ++ zeros trailing)
  | .negSucc fraction =>
    let places := fraction + 1
    let padded := zeros (places + 1 - digits.length) ++ digits
    let whole := padded.length - places
    String.ofList (padded.take whole ++ '.' :: padded.drop whole)

/-- One more than the largest fraction field of a double. -/
def fractionPlace : Nat := 4503599627370496

/-- One more than the largest exponent field of a double, all ones for what is not finite. -/
def exponentPlace : Nat := 2048

/-- The binary number that a positive finite double with these bits stands for. -/
def BinaryNumber.ofBits (bits : Nat) : BinaryNumber :=
  let fraction := bits % fractionPlace
  let biased := bits / fractionPlace % exponentPlace
  if biased = 0 then ⟨fraction, -1074, false⟩
  else ⟨fractionPlace + fraction, Int.ofNat biased - 1075, fraction == 0 && biased != 1⟩

end Treewalk
