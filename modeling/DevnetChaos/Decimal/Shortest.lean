/-!
# Shortest decimals

The shortest decimal that a binary floating-point number of 64 bits is the nearest to, by exact
integer arithmetic.

A finite number is a significand times a power of two, and the reals that round to it form an
interval around it, whose ends belong to it when the significand is even.  On a decimal grid the
only candidates are the two neighbours of the number.  The coarsest grid with a candidate inside
the interval wins, and of two candidates the nearer one.  Which of two equally near ones is taken
is a decision of the output format.

Main definitions:

- `Reading.ofFloat`: what the bits of a number stand for.
- `Tie`: the choice between two equally near decimals.
- `Binary.shortest`: digits and exponent of the shortest decimal.
-/

namespace DevnetChaos.Decimal

/-- The decimal number `digits * 10 ^ exponent`; zero has no digits to strip, any other number does
not end in the digit 0. -/
structure Numeral where
  digits : Nat
  exponent : Int
  deriving DecidableEq, Repr

/-- A finite binary number `significand * 2 ^ exponent` with its sign.  `isPower` says that the
number below it is nearer than the number above it. -/
structure Binary where
  negative : Bool
  significand : Nat
  exponent : Int
  isPower : Bool
  deriving DecidableEq, Repr

/-- What the 64 bits of a floating-point number stand for. -/
inductive Reading where
  | notANumber
  | infinite (negative : Bool)
  | finite (value : Binary)
  deriving DecidableEq, Repr

/-- Splits 64 bits into sign, exponent and fraction. -/
def Reading.ofBits (bits : Nat) : Reading :=
  let negative := bits / Nat.pow 2 63 % 2 == 1
  let biased : Nat := bits / Nat.pow 2 52 % Nat.pow 2 11
  let fraction := bits % Nat.pow 2 52
  if biased == 2047 then
    if fraction == 0 then .infinite negative else .notANumber
  else if biased == 0 then
    .finite ⟨negative, fraction, -1074, false⟩
  else
    .finite
      ⟨negative, Nat.pow 2 52 + fraction, Int.ofNat biased - 1075, fraction == 0 && biased > 1⟩

/-- Reads a floating-point number from its bits. -/
def Reading.ofFloat (x : Float) : Reading :=
  .ofBits x.toBits.toNat

/-- Number of decimal digits; zero has none. -/
def digitCount (n : Nat) : Nat :=
  if n == 0 then 0 else (Nat.toDigits 10 n).length

/-- Strips the zeros at the end of a digit string, at most `fuel` of them. -/
def stripZeros : Nat → Nat → Int → Numeral
  | 0, digits, exponent => ⟨digits, exponent⟩
  | fuel + 1, digits, exponent =>
      if digits != 0 && digits % 10 == 0 then stripZeros fuel (digits / 10) (exponent + 1)
      else ⟨digits, exponent⟩

/-- The choice between two equally near decimals, both below or both above zero. -/
inductive Tie where
  /-- The one whose last digit is even. -/
  | toEven
  /-- The one that is farther from zero. -/
  | awayFromZero
  deriving DecidableEq, Repr

/-- Whether `below` is taken when `below + 1` is as near. -/
def Tie.takesBelow : Tie → Nat → Bool
  | toEven, below => below % 2 == 0
  | awayFromZero, _ => false

namespace Binary

/-- All grids are finer than `10 ^ -unitDigits`. -/
def unitDigits : Nat := 345

/-- The power of two that makes every bound of an interval whole. -/
def unitBits : Nat := 1076

/-- The interval of the reals that round to a number, and the number, in units of
`2 ^ -unitBits * 10 ^ -unitDigits`. -/
structure Interval where
  low : Nat
  middle : Nat
  high : Nat
  closed : Bool
  deriving DecidableEq, Repr

/-- The interval of a finite number: half a step up, and half a step of the size below down. -/
def interval (b : Binary) : Interval :=
  let unit := Nat.pow 2 (b.exponent - 2 + (unitBits : Int)).toNat * Nat.pow 10 unitDigits
  ⟨(4 * b.significand - (if b.isPower then 1 else 2)) * unit, 4 * b.significand * unit,
    (4 * b.significand + 2) * unit, b.significand % 2 == 0⟩

/-- Whether a point lies in the interval. -/
def Interval.holds (i : Interval) (point : Nat) : Bool :=
  if i.closed then i.low ≤ point && point ≤ i.high else i.low < point && point < i.high

/-- The multiple of `step` inside the interval that is nearest to its middle, if there is one. -/
def Interval.nearest? (i : Interval) (tie : Tie) (step : Nat) : Option Nat :=
  let below := i.middle / step
  let gapBelow := i.middle - below * step
  let gapAbove := (below + 1) * step - i.middle
  match i.holds (below * step), i.holds ((below + 1) * step) with
  | true, true =>
      let takeBelow := gapBelow < gapAbove || (gapBelow == gapAbove && tie.takesBelow below)
      some (if takeBelow then below else below + 1)
  | true, false => some below
  | false, true => some (below + 1)
  | false, false => none

/-- The step of the grid of the multiples of `10 ^ exponent`, in units of intervals. -/
def gridStep (exponent : Int) : Nat :=
  Nat.pow 10 (exponent + (unitDigits : Int)).toNat * Nat.pow 2 unitBits

/-- Searches grids of falling step, from `exponent` downwards, for the first with a hit. -/
def search (i : Interval) (tie : Tie) : Nat → Int → Numeral
  | 0, exponent => ⟨i.middle / gridStep exponent, exponent⟩
  | fuel + 1, exponent =>
      match i.nearest? tie (gridStep exponent) with
      | some digits => stripZeros (digitCount digits) digits exponent
      | none => search i tie fuel (exponent - 1)

/-- The shortest decimal nearest to a finite number.  Seventeen digits always suffice. -/
def shortest (b : Binary) (tie : Tie) : Numeral :=
  if b.significand == 0 then ⟨0, 0⟩
  else
    let i := b.interval
    let width := (digitCount (i.middle / Nat.pow 2 unitBits) : Int) - (unitDigits : Int)
    search i tie 17 (width - 1)

end Binary
end DevnetChaos.Decimal
