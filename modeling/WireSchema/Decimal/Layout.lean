import WireSchema.Decimal.Shortest

/-! # Decimal text of a double

A `Layout` fixes how the shortest decimal of a double is set: which exponents are written
positionally, whether a whole number keeps a fraction, and where a tie goes.

* `Layout.write` sets a decimal.
* `Layout.format` sets a double.
-/

namespace WireSchema.Decimal

/-- The choices that a textual form of doubles makes. -/
structure Layout where
  /-- Where a double halfway between two shortest decimals goes. -/
  tie : Tie
  /-- The positions of the decimal point, counted from the first digit, that are written
      positionally; `none` stands for all of them. -/
  positional : Option (Int × Int)
  /-- Whether a whole number ends in `.0`. -/
  wholeFraction : Bool

namespace Layout

/-- Whether a decimal with its point at `position` is written positionally. -/
def isPositional (layout : Layout) (position : Int) : Bool :=
  match layout.positional with
  | none => true
  | some (first, last) => first ≤ position && position ≤ last

/-- The end of a whole number. -/
def wholeEnd (layout : Layout) : List Char :=
  if layout.wholeFraction then ['.', '0'] else []

/-- Writes digits with the decimal point after `position` of them. -/
def writePositional (layout : Layout) (digits : List Char) (position : Int) : List Char :=
  if position ≤ 0 then ['0', '.'] ++ List.replicate (-position).toNat '0' ++ digits
  else if digits.length ≤ position.toNat then
    digits ++ List.replicate (position.toNat - digits.length) '0' ++ layout.wholeEnd
  else digits.take position.toNat ++ ['.'] ++ digits.drop position.toNat

/-- Writes digits with one of them before the point, and a signed exponent. -/
def writeScientific (digits : List Char) (position : Int) : List Char :=
  let fraction := match digits.drop 1 with
    | [] => []
    | more => '.' :: more
  let sign := if position - 1 < 0 then '-' else '+'
  digits.take 1 ++ fraction ++ ['e', sign] ++ Nat.toDigits 10 (position - 1).natAbs

/-- Sets a positive decimal. -/
def write (layout : Layout) (d : Decimal) : List Char :=
  let digits := Nat.toDigits 10 d.digits
  let position := digits.length + d.exponent
  if layout.isPositional position then layout.writePositional digits position
  else writeScientific digits position

/-- Puts the sign in front of a number. -/
def signed (negative : Bool) (cs : List Char) : List Char :=
  if negative then '-' :: cs else cs

def format (layout : Layout) (x : Float) : String :=
  match Reading.ofFloat x with
  | .notANumber => "NaN"
  | .infinite negative => String.ofList (signed negative ['i', 'n', 'f'])
  | .zero negative => String.ofList (signed negative ('0' :: layout.wholeEnd))
  | .finite negative significand exponent narrow =>
    String.ofList
      (signed negative (layout.write (shortest layout.tie significand exponent narrow)))

end Layout

end WireSchema.Decimal
