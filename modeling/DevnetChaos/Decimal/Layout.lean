import DevnetChaos.Decimal.Shortest

/-!
# Layout of decimals

How the shortest digits of a floating-point number are set out as text.  The digits are a matter
of arithmetic; which of two equally near decimals is written, where the point goes, when an exponent
is written and how whole numbers end are decisions of an output format, and are gathered in one
record.

Main definitions:

- `Layout`: the decisions of a format.
- `Layout.document`: numbers in documents and parameters, always marked as fractional.
- `Layout.message`: numbers in messages, never with an exponent.
- `Layout.render`: the text of a number.
-/

namespace DevnetChaos.Decimal

/-- The decisions of a number format. -/
structure Layout where
  /-- Which of two equally near decimals is written. -/
  tie : Tie
  /-- Whether a number is written without an exponent, from the number of digits in front of its
  point, which is negative for zeros behind it. -/
  positional : Int → Bool
  /-- What follows the digits of a whole number. -/
  wholeEnd : String
  notANumber : String
  infinite : String
  negativeInfinite : String

namespace Layout

/-- Values in documents: of two equally near decimals the even one, an exponent below `1e-5` and
from `1e16` on, and whole numbers end in `.0`. -/
def document : Layout where
  tie := .toEven
  positional := fun point => -5 < point && point ≤ 16
  wholeEnd := ".0"
  notANumber := ".nan"
  infinite := ".inf"
  negativeInfinite := "-.inf"

/-- Values in messages: of two equally near decimals the one farther from zero, all digits, and
nothing after a whole number. -/
def message : Layout where
  tie := .awayFromZero
  positional := fun _ => true
  wholeEnd := ""
  notANumber := "NaN"
  infinite := "inf"
  negativeInfinite := "-inf"

/-- A run of zeros. -/
def zeros (n : Nat) : String := String.ofList (List.replicate n '0')

/-- The text of a number without its sign. -/
def renderNumeral (layout : Layout) (d : Numeral) : String :=
  if d.digits == 0 then "0" ++ layout.wholeEnd
  else
    let digits := Nat.toDigits 10 d.digits
    let point : Int := digits.length + d.exponent
    if layout.positional point then
      if 0 ≤ d.exponent then
        String.ofList digits ++ zeros d.exponent.toNat ++ layout.wholeEnd
      else if 0 < point then
        String.ofList (digits.take point.toNat) ++ "." ++ String.ofList (digits.drop point.toNat)
      else "0." ++ zeros (-point).toNat ++ String.ofList digits
    else
      let tail := digits.drop 1
      String.ofList (digits.take 1) ++ (if tail.isEmpty then "" else "." ++ String.ofList tail)
        ++ "e" ++ toString (point - 1)

/-- The text of a number. -/
def render (layout : Layout) (x : Float) : String :=
  match Reading.ofFloat x with
  | .notANumber => layout.notANumber
  | .infinite negative => if negative then layout.negativeInfinite else layout.infinite
  | .finite b => (if b.negative then "-" else "") ++ layout.renderNumeral (b.shortest layout.tie)

end Layout
end DevnetChaos.Decimal
