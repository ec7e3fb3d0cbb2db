import DevnetChaos.Failure
import DevnetChaos.Text.Blank
import DevnetChaos.Text.Digits
import DevnetChaos.Word

/-!
# Durations

Spans of time with nanosecond resolution and below `2 ^ 64` seconds, and their two texts: the one
written in documents (`250ms`, `90s`, `1h30m`) and the one shown in messages about time limits
(`1.5s`, `999ms`).

Main definitions:

- `Duration`: a number of nanoseconds with its bound.
- `Duration.parse`: a bare number of seconds, or segments of a number and one of the units `h`,
  `m`, `s`, `ms`.
- `Duration.format`: the text in documents, with the largest units that divide evenly.
- `Duration.limitText`: the text in messages.
-/

namespace DevnetChaos

/-- Nanoseconds in the smallest span that a duration cannot hold. -/
def durationBound : Nat := 18446744073709551616 * 1000000000

/-- A span of time. -/
structure Duration where
  nanos : Nat
  inRange : nanos < durationBound
  deriving DecidableEq

instance : Repr Duration := ⟨fun d n => reprPrec d.nanos n⟩

namespace Duration

/-- A duration of that many nanoseconds, if there is one. -/
def ofNanos? (nanos : Nat) : Option Duration :=
  if h : nanos < durationBound then some ⟨nanos, h⟩ else none

/-- No time. -/
def zero : Duration := ⟨0, by decide⟩

instance : Inhabited Duration := ⟨zero⟩

/-- Whole seconds. -/
def seconds (d : Duration) : Nat := d.nanos / 1000000000

/-- Whole milliseconds. -/
def millis (d : Duration) : Nat := d.nanos / 1000000

/-- Milliseconds that a wait of this length takes; a clock that counts milliseconds rounds up. -/
def wholeMillis (d : Duration) : Nat := (d.nanos + 999999) / 1000000

/-- Nanoseconds beyond the whole seconds. -/
def subsecondNanos (d : Duration) : Nat := d.nanos % 1000000000

/-- Milliseconds beyond the whole seconds. -/
def subsecondMillis (d : Duration) : Nat := d.subsecondNanos / 1000000

/-- Whole seconds as a duration; a count of seconds fits a 64-bit word. -/
def ofSeconds (seconds : Nat) : Duration :=
  ⟨wrap64 seconds * 1000000000,
    (Nat.mul_lt_mul_right (by decide)).2 (wrap64_lt seconds)⟩

/-- Milliseconds as a duration; a count of milliseconds fits a 64-bit word. -/
def ofMillis (millis : Nat) : Duration :=
  ⟨wrap64 millis * 1000000, by
    have h := wrap64_lt millis
    simp only [wordCount, durationBound] at *
    omega⟩

/-! ## Texts in documents -/

/-- Why a text is not a duration. -/
inductive ParseFault where
  /-- The text does not have the form of a duration. -/
  | malformed
  /-- A segment, or the sum of segments, comes to `2 ^ 64` seconds or more, which stops the
  program. -/
  | overflow
  deriving DecidableEq, Repr

/-- A product that counts seconds, unless no 64-bit word holds it. -/
def ofProduct (seconds : Nat) : Except ParseFault Duration :=
  if seconds < wordCount then .ok (ofSeconds seconds) else .error .overflow

/-- The span of one segment, if the unit is known. -/
def segment (value : Nat) (unit : List Char) : Except ParseFault Duration :=
  match unit with
  | ['h'] => ofProduct (value * 3600)
  | ['m'] => ofProduct (value * 60)
  | ['s'] => .ok (ofSeconds value)
  | ['m', 's'] => .ok (ofMillis value)
  | _ => .error .malformed

/-- A run of digits whose value fits a 64-bit word. -/
def word? (digits : List Char) : Option Nat :=
  (Text.natOfDigits? digits).filter fun n => n < wordCount

/-- Adds up segments from left to right, at most `fuel` of them. -/
def parseSegments : Nat → Duration → List Char → Except ParseFault Duration
  | _, total, [] => .ok total
  | 0, _, _ :: _ => .error .malformed
  | fuel + 1, total, cs =>
      let digits := cs.takeWhile Text.isDigit
      let rest := cs.dropWhile Text.isDigit
      let unit := rest.takeWhile Text.isLetter
      match word? digits with
      | none => .error .malformed
      | some value =>
          match segment value unit with
          | .error fault => .error fault
          | .ok span =>
              match ofNanos? (total.nanos + span.nanos) with
              | none => .error .overflow
              | some total => parseSegments fuel total (rest.dropWhile Text.isLetter)

/-- Reads a duration. -/
def read (text : String) : Except ParseFault Duration :=
  let cs := Text.trimChars text.toList
  if cs.isEmpty then .error .malformed
  else if cs.all Text.isDigit then
    match word? cs with
    | some seconds => .ok (ofSeconds seconds)
    | none => .error .malformed
  else parseSegments cs.length zero cs

/-- The units a whole number of seconds is written in, largest first. -/
def units : List (String × Nat) := [("h", 3600), ("m", 60), ("s", 1)]

/-- Writes seconds in the given units, leaving out those that are zero. -/
def formatUnits : List (String × Nat) → Nat → String
  | [], _ => ""
  | (unit, size) :: rest, seconds =>
      if size ≤ seconds then toString (seconds / size) ++ unit ++ formatUnits rest (seconds % size)
      else formatUnits rest seconds

/-- The text of a duration in a document, at millisecond resolution. -/
def format (d : Duration) : String :=
  if d.millis == 0 then "0s"
  else if d.millis % 1000 != 0 then toString d.millis ++ "ms"
  else formatUnits units d.seconds

/-! ## Texts in messages -/

/-- A number below `10 ^ width` as a decimal fraction without zeros at its end. -/
def fractionText (width n : Nat) : String :=
  if n == 0 then ""
  else
    let digits := (Nat.toDigits 10 (n + Nat.pow 10 width)).drop 1
    "." ++ String.ofList (digits.reverse.dropWhile (· == '0')).reverse

/-- The text of a duration in a message, in the largest of the units seconds, milliseconds,
microseconds and nanoseconds that has a whole part. -/
def limitText (d : Duration) : String :=
  if 0 < d.seconds then toString d.seconds ++ fractionText 9 d.subsecondNanos ++ "s"
  else if 1000000 ≤ d.nanos then
    toString (d.nanos / 1000000) ++ fractionText 6 (d.nanos % 1000000) ++ "ms"
  else if 1000 ≤ d.nanos then
    toString (d.nanos / 1000) ++ fractionText 3 (d.nanos % 1000) ++ "µs"
  else toString d.nanos ++ "ns"

end Duration
end DevnetChaos
