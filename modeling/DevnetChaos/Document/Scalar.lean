import DevnetChaos.Decimal.Reading
import DevnetChaos.Document.Value
import DevnetChaos.Word

/-!
# Plain scalars

What an unquoted scalar of a YAML document stands for where the reader does not say what it wants:
null, a truth value, an integer, a fraction, or the text itself.

Main definitions:

- `nullWord`, `boolOf?`, `unsignedOf?`, `negativeOf?`, `floatOf?`: the spellings of each kind.
- `integerOf?`: integers of either sign.
- `ofPlain?`: the meaning of a spelling.
-/

namespace DevnetChaos
namespace Scalar

open Text

/-- Whether a spelling is one of the words for null. -/
def nullWord (s : String) : Bool := s == "~" || s == "null" || s == "Null" || s == "NULL"

/-- The truth value of a spelling. -/
def boolOf? (s : String) : Option Bool :=
  if s == "true" || s == "True" || s == "TRUE" then some true
  else if s == "false" || s == "False" || s == "FALSE" then some false
  else none

/-- A number in hexadecimal, octal or binary digits after its mark, where the digits may have a
sign in front if `signed` says so. -/
def markedOf? (cs : List Char) : Option Nat :=
  match cs with
  | '0' :: 'x' :: rest => natOfBase? 16 rest
  | '0' :: 'o' :: rest => natOfBase? 8 rest
  | '0' :: 'b' :: rest => natOfBase? 2 rest
  | _ => none

/-- Whether digits, perhaps after a sign, have a zero in front that is not the only digit. -/
def leadingZero (cs : List Char) : Bool :=
  let digits := match cs with
    | '-' :: rest => rest
    | '+' :: rest => rest
    | cs => cs
  match digits with
  | '0' :: next :: rest => (next :: rest).all isDigit
  | _ => false

/-- The number of an unsigned integer, of any size, with an optional plus sign. -/
def unsignedOf? (s : String) : Option Nat :=
  let cs := s.toList
  let unsigned := match cs with
    | '+' :: rest => rest
    | cs => cs
  match markedOf? unsigned with
  | some n => some n
  | none => if leadingZero cs then none else natOfDigits? unsigned

/-- The absolute value of an integer with a minus sign, of any size. -/
def negativeOf? (s : String) : Option Nat :=
  match s.toList with
  | '-' :: rest =>
      match markedOf? rest with
      | some n => some n
      | none => if leadingZero rest then none else natOfDigits? rest
  | _ => none

/-- The fraction of a spelling.  Of the words for infinity and for what is not a number only those
with a point in front count, and a fraction too large for a floating-point number is none. -/
def floatOf? (s : String) : Option Float :=
  let cs := s.toList
  let unsigned := match cs with
    | '+' :: rest => if rest.head? == some '+' || rest.head? == some '-' then cs else rest
    | cs => cs
  let word := String.ofList unsigned
  if word == ".inf" || word == ".Inf" || word == ".INF" then
    some (Float.ofBits 0x7FF0000000000000)
  else if s == "-.inf" || s == "-.Inf" || s == "-.INF" then
    some (Float.ofBits 0xFFF0000000000000)
  else if s == ".nan" || s == ".NaN" || s == ".NAN" then some (Float.ofBits 0x7FF8000000000000)
  else (Decimal.floatOfText? word).filter Float.isFinite

/-- The integer of a spelling.  The inner answer is missing for an integer that fits 128 bits but
not 64; one beyond 128 bits is no integer here. -/
def integerOf? (s : String) : Option (Option Value) :=
  match (unsignedOf? s).filter fun n => n < Nat.pow 2 128 with
  | some n => some (if n < wordCount then some (.nat n) else none)
  | none =>
    match (negativeOf? s).filter fun n => n ≤ Nat.pow 2 127 with
    | some n => some (if n ≤ Nat.pow 2 63 then some (.negative n) else none)
    | none => none

/-- The meaning of an unquoted scalar where nothing else is known about it.  Integers that fit 128
bits but not 64 have none. -/
def ofPlain? (s : String) : Option Value :=
  if s.isEmpty || nullWord s then some .null
  else match boolOf? s with
  | some b => some (.bool b)
  | none =>
    match integerOf? s with
    | some integer => integer
    | none =>
      if leadingZero s.toList then some (.text s)
      else match floatOf? s with
      | some x => some (.float x)
      | none => some (.text s)

/-- Whether an unquoted scalar means the text it is spelled as. -/
def meansText (s : String) : Bool :=
  match ofPlain? s with
  | some (.text _) => true
  | _ => false

end Scalar
end DevnetChaos
