import DevnetChaos.Decimal.Shortest
import DevnetChaos.Text.Digits

/-!
# Reading decimals

Floating-point numbers from their decimal texts.

Main definitions:

- `nearest`: the number nearest to a decimal.
- `floatOfText?`: the grammar of decimal fractions, with a sign, an exponent and the words `inf`,
  `infinity` and `nan` in any letter case.
-/

namespace DevnetChaos.Decimal

open Text

/-- The floating-point number nearest to `digits * 10 ^ exponent`.  Beyond four hundred places the
answer is infinite or zero, whatever the digits, so that no huge power is ever computed. -/
def nearest (digits : Nat) (exponent : Int) : Float :=
  if digits == 0 then 0.0
  else
    let point : Int := digitCount digits + exponent
    if 400 < point then Float.ofBits 0x7FF0000000000000
    else if point < -400 then 0.0
    else if 0 ≤ exponent then Float.ofScientific digits false exponent.toNat
    else Float.ofScientific digits true (-exponent).toNat

/-- A sign at the front of a text: whether it is a minus, and the rest. -/
def splitSign : List Char → Bool × List Char
  | '-' :: rest => (true, rest)
  | '+' :: rest => (false, rest)
  | cs => (false, cs)

/-- The exponent after an `e`: nothing, or an optional sign and a run of digits. -/
def exponentOf? : List Char → Option Int
  | [] => some 0
  | c :: rest =>
      if c == 'e' || c == 'E' then
        let (negative, digits) := splitSign rest
        (natOfDigits? digits).map fun n => if negative then -(n : Int) else (n : Int)
      else none

/-- An unsigned decimal fraction: digits with at most one point among them, then an exponent. -/
def fractionOf? (cs : List Char) : Option (Nat × Int) :=
  let whole := cs.takeWhile isDigit
  let rest := cs.dropWhile isDigit
  let (places, tail) : List Char × List Char := match rest with
    | '.' :: r => (r.takeWhile isDigit, r.dropWhile isDigit)
    | r => ([], r)
  if whole.isEmpty && places.isEmpty then none
  else (exponentOf? tail).map fun e =>
    (foldDigits 0 (whole ++ places), e - (places.length : Int))

/-- The floating-point number a text writes, if it writes one. -/
def floatOfText? (s : String) : Option Float :=
  let (negative, body) := splitSign s.toList
  let word := String.ofList (body.map Char.toLower)
  let magnitude :=
    if word == "inf" || word == "infinity" then some (Float.ofBits 0x7FF0000000000000)
    else if word == "nan" then some (Float.ofBits 0x7FF8000000000000)
    else (fractionOf? body).map fun (digits, exponent) => nearest digits exponent
  magnitude.map fun x => if negative then -x else x

end DevnetChaos.Decimal
