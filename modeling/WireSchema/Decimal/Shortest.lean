/-! # Shortest decimals

A double stands for every real number that rounds to it.  Of the decimals in that interval,
messages and literals show the one with the fewest digits, and of several such the one
nearest to the double itself.

* `Reading` is what the bits of a double say, with a finite one as `m * 2 ^ q`.
* `Decimal` is a whole number of digits times a power of ten.
* `Interval.shortest` tries one digit, two digits, … and takes the first grid of decimals
  that has a point in the interval.  All arithmetic is exact, on natural numbers.
-/

namespace WireSchema.Decimal

/-! ## Reading a double -/

/-- What the bits of a double say. -/
inductive Reading where
  | notANumber
  | infinite (negative : Bool)
  | zero (negative : Bool)
  /-- The value `significand * 2 ^ exponent`.  `narrow` holds when the next smaller double is
      only half as far away as the next larger one. -/
  | finite (negative : Bool) (significand : Nat) (exponent : Int) (narrow : Bool)
  deriving DecidableEq, Repr

/-- Takes the sign, exponent and fraction fields of a double apart. -/
def Reading.ofFloat (x : Float) : Reading :=
  let bits := x.toBits.toNat
  let negative := bits / Nat.pow 2 63 == 1
  let biased : Nat := bits / Nat.pow 2 52 % Nat.pow 2 11
  let fraction := bits % Nat.pow 2 52
  if biased = 2047 then
    if fraction = 0 then .infinite negative else .notANumber
  else if biased = 0 then
    if fraction = 0 then .zero negative else .finite negative fraction (-1074) false
  else
    .finite negative (Nat.pow 2 52 + fraction) ((biased : Int) - 1075) (fraction == 0 && biased > 1)

/-! ## The interval of a double -/

/-- The decimal `digits * 10 ^ exponent`. -/
structure Decimal where
  digits : Nat
  exponent : Int
  deriving DecidableEq, Repr

/-- Which of two decimals is taken when a double lies exactly halfway between them. -/
inductive Tie where
  | up
  | even
  deriving DecidableEq, Repr

/-- The real numbers that round to a double, in units of `up / down`: from `low` over the
    double itself, `middle`, to `high`.  The ends belong to it if `closed` holds. -/
structure Interval where
  low : Nat
  middle : Nat
  high : Nat
  up : Nat
  down : Nat
  closed : Bool

/-- The interval of the double `significand * 2 ^ exponent`, in quarters of its unit. -/
def Interval.around (significand : Nat) (exponent : Int) (narrow : Bool) : Interval where
  low := 4 * significand - (if narrow then 1 else 2)
  middle := 4 * significand
  high := 4 * significand + 2
  up := Nat.pow 2 (exponent - 2).toNat
  down := Nat.pow 2 (2 - exponent).toNat
  closed := significand % 2 == 0

/-- The number of decimal digits of a positive number, and one for zero. -/
def digitCount (n : Nat) : Nat :=
  (Nat.toDigits 10 n).length

namespace Interval

/-- The position `k` of the decimal point: the double lies between `10 ^ (k - 1)`, included,
    and `10 ^ k`, excluded. -/
def pointPosition (i : Interval) : Int :=
  let num := i.middle * i.up
  if i.down ≤ num then digitCount (num / i.down)
  -- Below one, the digits of the inverse are counted, where a power of ten counts as less.
  else 1 - (digitCount ((i.down + num - 1) / num - 1) : Int)

/-- Whether the decimal `c * 10 ^ s` lies in the interval. -/
def containsDecimal (i : Interval) (s : Int) (c : Nat) : Bool :=
  let grid := Nat.pow 10 s.toNat * i.down
  let unit := i.up * Nat.pow 10 (-s).toNat
  if i.closed then i.low * unit ≤ c * grid && c * grid ≤ i.high * unit
  else i.low * unit < c * grid && c * grid < i.high * unit

/-- The multiple of `10 ^ s` that lies in the interval and is nearest to the double, if one of
    the double's two neighbours on that grid lies in the interval. -/
def onGrid? (i : Interval) (tie : Tie) (s : Int) : Option Nat :=
  let grid := Nat.pow 10 s.toNat * i.down
  let exact := i.middle * (i.up * Nat.pow 10 (-s).toNat)
  let below := exact / grid
  match i.containsDecimal s below, i.containsDecimal s (below + 1) with
  | false, false => none
  | true, false => some below
  | false, true => some (below + 1)
  | true, true =>
    -- Both neighbours read back as the double; the remainder tells which one is nearer.
    let twice := 2 * (exact % grid)
    if twice < grid then some below
    else if grid < twice then some (below + 1)
    else
      match tie with
      | .up => some (below + 1)
      | .even => some (if below % 2 = 0 then below else below + 1)

/-- The shortest decimal of the interval.  Seventeen digits always suffice for a double. -/
def shortest (i : Interval) (tie : Tie) : Decimal :=
  let k := i.pointPosition
  let found := (List.range 17).findSome? fun (n : Nat) =>
    let s := k - ((n : Int) + 1)
    (i.onGrid? tie s).map fun c => (⟨c, s⟩ : Decimal)
  found.getD ⟨0, 0⟩

end Interval

/-! ## Canonical digits -/

/-- Cuts zeros off the end of the digits, at most `fuel` of them. -/
def Decimal.cutZeros : Nat → Decimal → Decimal
  | 0, d => d
  | fuel + 1, d =>
    if d.digits % 10 = 0 then cutZeros fuel ⟨d.digits / 10, d.exponent + 1⟩ else d

/-- The shortest decimal of the double `significand * 2 ^ exponent`, without zeros at the end
    of its digits. -/
def shortest (tie : Tie) (significand : Nat) (exponent : Int) (narrow : Bool) : Decimal :=
  ((Interval.around significand exponent narrow).shortest tie).cutZeros 17

end WireSchema.Decimal
