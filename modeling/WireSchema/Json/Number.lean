import WireSchema.Json.Malformed

/-! # Numbers

A number without fraction and exponent is an integer if it fits into 64 bits; every other
number is a double.  A double is computed from at most as many leading digits as fit into
64 bits, by one multiplication with or division by a power of ten where that power is a
double, and by repeated division where it is smaller.

* `Numeral` is a number as it is written.
* `Numeral.value` is what it stands for.
* `readNumber` reads one.
-/

namespace WireSchema.Json

/-- The value of a number in a document. -/
inductive Number where
  /-- An integer from `-2 ^ 63` up to `2 ^ 64 - 1`. -/
  | integer (n : Int)
  | float (x : Float)
  /-- A number beyond the largest double. -/
  | outOfRange
  deriving DecidableEq

/-! ## Numerals -/

/-- A number as it is written: its digits before the point, after it, and in the exponent. -/
structure Numeral where
  negative : Bool
  whole : List Nat
  fraction : Option (List Nat)
  exponent : Option (Bool × List Nat)

/-- The digits that fit into 64 bits, and how many are left out. -/
def takeWhole (significand : Nat) : List Nat → Nat × Nat
  | [] => (significand, 0)
  | d :: ds =>
    if significand * 10 + d < 2 ^ 64 then takeWhole (significand * 10 + d) ds
    else (significand, ds.length + 1)

/-- Appends the digits that still fit into 64 bits, and tells how many they are. -/
def takeFraction (significand : Nat) : List Nat → Nat × Nat
  | [] => (significand, 0)
  | d :: ds =>
    if significand * 10 + d < 2 ^ 64 then
      let (all, count) := takeFraction (significand * 10 + d) ds
      (all, count + 1)
    -- From here on digits no longer change the value, not even a later one that would fit.
    else (significand, 0)

/-- The number that decimal digits stand for. -/
def ofDigits (digits : List Nat) : Nat :=
  digits.foldl (fun n d => n * 10 + d) 0

/-- The largest power of ten that is used in one step. -/
def maxPower : Nat := 308

/-- A power of ten, as the double nearest to it. -/
def power (n : Nat) : Float :=
  Float.ofScientific 1 false n

/-- Multiplies a double by a power of ten, unless the result is beyond all doubles. -/
def raise? (x : Float) (n : Nat) : Option Float :=
  if n ≤ maxPower then
    let product := x * power n
    if product.isInf then none else some product
  -- Zero stays zero, however large the power.
  else if x == 0 then some x
  else none

/-- Divides a double by the `n`-th power of ten, in `steps` divisions by the largest power
    and a last one by what remains; a result of zero ends the division early. -/
def lowerBy (x : Float) : (steps n : Nat) → Float
  | 0, n => x / power n
  | steps + 1, n => if x == 0 then x else lowerBy (x / power maxPower) steps (n - maxPower)

/-- Divides a double by a power of ten. -/
def lower (x : Float) (n : Nat) : Float :=
  lowerBy x ((n - 1) / maxPower) n

/-- The double `significand * 10 ^ exponent`, if there is one. -/
def scale? (significand : Nat) (exponent : Int) : Option Float :=
  let x := significand.toUInt64.toFloat
  if 0 ≤ exponent then raise? x exponent.toNat else some (lower x exponent.natAbs)

namespace Numeral

/-- The leading digits that fit into 64 bits, with the power of ten they are counted in. -/
def scientific (n : Numeral) : Nat × Int :=
  let (whole, left) := takeWhole 0 n.whole
  let (significand, taken) := takeFraction whole (n.fraction.getD [])
  let exponent : Int :=
    match n.exponent with
    | none => 0
    | some (false, digits) => ofDigits digits
    | some (true, digits) => -(ofDigits digits : Int)
  (significand, (left : Int) - taken + exponent)

/-- The double that a numeral stands for. -/
def float (n : Numeral) : Number :=
  let (significand, exponent) := n.scientific
  match scale? significand exponent with
  | none => .outOfRange
  | some x => .float (if n.negative then -x else x)

/-- What a numeral stands for.  Minus zero is a double. -/
def value (n : Numeral) : Number :=
  let magnitude := ofDigits n.whole
  if n.fraction.isSome || n.exponent.isSome then n.float
  else if n.negative then
    -- An integer has no minus zero, so that `-0` has to be a double.
    if 0 < magnitude ∧ magnitude ≤ Nat.pow 2 63 then .integer (-(magnitude : Int)) else n.float
  else if magnitude < Nat.pow 2 64 then .integer magnitude
  else n.float

end Numeral

/-! ## Reading -/

def digit? (c : Char) : Option Nat :=
  if '0' ≤ c ∧ c ≤ '9' then some (c.toNat - 0x30) else none

/-- The digits that a text starts with, and what follows them. -/
def readDigits : List Char → List Nat × List Char
  | [] => ([], [])
  | c :: cs =>
    match digit? c with
    | none => ([], c :: cs)
    | some d =>
      let (ds, rest) := readDigits cs
      (d :: ds, rest)

/-- A digit is missing in front of `cs`.  At the end of the text, a number that is wanted is
    reported as cut off. -/
def missingDigit (cs : List Char) : Fault :=
  if cs.isEmpty then ⟨.endInValue, .invalidNumber⟩ else .plain .invalidNumber

def readDigits1 (cs : List Char) : Except Fault (List Nat × List Char) :=
  match readDigits cs with
  | ([], _) => .error (missingDigit cs)
  | read => .ok read

/-- Reads the digits before the point: a zero is followed by no other digit. -/
def readWhole (cs : List Char) : Except Fault (List Nat × List Char) := do
  let (digits, rest) ← readDigits1 cs
  if digits.head? = some 0 ∧ 1 < digits.length then throw (.plain .invalidNumber)
  return (digits, rest)

/-- Reads a point and the digits after it, if there is a point. -/
def readFraction : List Char → Except Fault (Option (List Nat) × List Char)
  | '.' :: cs => do
    let (digits, rest) ← readDigits1 cs
    return (some digits, rest)
  | cs => .ok (none, cs)

/-- Reads the sign of an exponent; `true` stands for minus. -/
def readSign : List Char → Bool × List Char
  | '+' :: cs => (false, cs)
  | '-' :: cs => (true, cs)
  | cs => (false, cs)

/-- Reads an exponent, if there is one. -/
def readExponent (cs : List Char) : Except Fault (Option (Bool × List Nat) × List Char) :=
  match cs with
  | [] => .ok (none, [])
  | c :: rest =>
    if c = 'e' ∨ c = 'E' then do
      let (negative, rest) := readSign rest
      let (digits, rest) ← readDigits1 rest
      return (some (negative, digits), rest)
    else .ok (none, cs)

/-- Reads a number from its first character on, and gives what follows it. -/
def readNumber (cs : List Char) : Except Fault (Number × List Char) := do
  let (negative, cs) := match cs with
    | '-' :: rest => (true, rest)
    | _ => (false, cs)
  let (whole, cs) ← readWhole cs
  let (fraction, cs) ← readFraction cs
  let (exponent, cs) ← readExponent cs
  let numeral : Numeral := ⟨negative, whole, fraction, exponent⟩
  return (numeral.value, cs)

end WireSchema.Json
