import DevnetChaos.Decimal.Reading
import DevnetChaos.Document.Tree
import DevnetChaos.Word

/-!
# Reading JSON

A reader of JSON texts.  Whole numbers that fit 64 bits are integers and all others are fractions,
and maps keep every entry in order.  A number beyond all fractions, a string with half a surrogate
pair and a map with such a key are well written but unreadable.

Main definitions:

- `Json.number?`: the value of a number.
- `Json.stringBody?`: the rest of a string after its opening quote.
- `Json.parse?`: the tree of a text, whatever in it is unreadable.
- `Json.parseStrictly?`: the tree of a text in which all is readable and containers nest at most
  127 deep.
-/

namespace DevnetChaos
namespace Json

/-- Whether a character may stand between tokens. -/
def isSpace (c : Char) : Bool := c == ' ' || c == '\n' || c == '\t' || c == '\r'

/-! ## Numbers -/

/-- The value of a number with a point or an exponent: the nearest floating-point number.  A number
beyond all finite ones is unreadable. -/
def fraction (negative : Bool) (whole places : List Char) (exponent : Int) : Tree :=
  let x := Decimal.nearest (Text.foldDigits 0 (whole ++ places)) (exponent - (places.length : Int))
  if x.isInf then .unreadable else .float (if negative then -x else x)

/-- The value of a whole number. -/
def whole (negative : Bool) (digits : List Char) : Tree :=
  let n := Text.foldDigits 0 digits
  if negative then
    if 0 < n ∧ n ≤ 9223372036854775808 then .int (-n) else fraction true digits [] 0
  else if n < wordCount then .int n
  else fraction false digits [] 0

/-- The digits of a whole part: a single zero, or digits that do not begin with zero. -/
def wholeDigits? (cs : List Char) : Option (List Char × List Char) :=
  match cs.takeWhile Text.isDigit with
  | [] => none
  | ['0'] => some (['0'], cs.drop 1)
  | '0' :: _ => none
  | digits => some (digits, cs.dropWhile Text.isDigit)

/-- The exponent after a number, if there is one, and what follows. -/
def exponent? (cs : List Char) : Option (Option Int × List Char) :=
  match cs with
  | [] => some (none, [])
  | c :: rest =>
      if c == 'e' || c == 'E' then
        let (negative, rest) := Decimal.splitSign rest
        let digits := rest.takeWhile Text.isDigit
        if digits.isEmpty then none
        else
          let n : Int := Text.foldDigits 0 digits
          some (some (if negative then -n else n), rest.dropWhile Text.isDigit)
      else some (none, cs)

/-- A number without its sign, and what follows. -/
def unsignedNumber? (negative : Bool) (cs : List Char) : Option (Tree × List Char) := do
  let (digits, rest) ← wholeDigits? cs
  match rest with
  | '.' :: rest =>
      let places := rest.takeWhile Text.isDigit
      if places.isEmpty then none
      else
        let (exponent, rest) ← exponent? (rest.dropWhile Text.isDigit)
        return (fraction negative digits places (exponent.getD 0), rest)
  | _ =>
      match ← exponent? rest with
      | (some exponent, rest) => return (fraction negative digits [] exponent, rest)
      | (none, rest) => return (whole negative digits, rest)

/-- A number, and what follows. -/
def number? : List Char → Option (Tree × List Char)
  | '-' :: rest => unsignedNumber? true rest
  | cs => unsignedNumber? false cs

/-! ## Strings -/

/-- The value of four hexadecimal digits. -/
def hex4? (a b c d : Char) : Option Nat := Text.natOfBase? 16 [a, b, c, d]

/-- The character of a short escape. -/
def shortEscape? : Char → Option Char
  | '"' => some '"'
  | '\\' => some '\\'
  | '/' => some '/'
  | 'b' => some '\x08'
  | 'f' => some '\x0c'
  | 'n' => some '\n'
  | 'r' => some '\r'
  | 't' => some '\t'
  | _ => none

/-- The character of two halves of a surrogate pair. -/
def pairChar? (high low : Nat) : Option Char :=
  if 0xD800 ≤ high ∧ high < 0xDC00 ∧ 0xDC00 ≤ low ∧ low < 0xE000 then
    some (Char.ofNat (0x10000 + (high - 0xD800) * 0x400 + (low - 0xDC00)))
  else none

/-- A string body with one more character in front. -/
def withChar (c : Char) : Option (List Char) × List Char → Option (List Char) × List Char
  | (cs, rest) => (cs.map (c :: ·), rest)

/-- The characters of a string up to its closing quote, and what follows.  The characters are
missing if half a surrogate pair stands among them. -/
def stringBody? : List Char → Option (Option (List Char) × List Char)
  | [] => none
  | '"' :: rest => some (some [], rest)
  | '\\' :: 'u' :: a :: b :: c :: d :: '\\' :: 'u' :: e :: f :: g :: h :: rest => do
      let first ← hex4? a b c d
      match pairChar? first ((hex4? e f g h).getD 0) with
      | some char => (stringBody? rest).map (withChar char)
      | none =>
          let (cs, rest) ← stringBody? ('\\' :: 'u' :: e :: f :: g :: h :: rest)
          if first < 0xD800 ∨ 0xE000 ≤ first then return withChar (Char.ofNat first) (cs, rest)
          else return (none, rest)
  | '\\' :: 'u' :: a :: b :: c :: d :: rest => do
      let first ← hex4? a b c d
      let (cs, rest) ← stringBody? rest
      if first < 0xD800 ∨ 0xE000 ≤ first then return withChar (Char.ofNat first) (cs, rest)
      else return (none, rest)
  | '\\' :: c :: rest => do
      let char ← shortEscape? c
      (stringBody? rest).map (withChar char)
  | c :: rest => if c.toNat < 0x20 then none else (stringBody? rest).map (withChar c)

/-- The tree of the characters of a string. -/
def textTree : Option (List Char) → Tree
  | some cs => .text (String.ofList cs)
  | none => .unreadable

/-! ## Values -/

/-- What is left after a word, if the text begins with it. -/
def afterWord? : List Char → List Char → Option (List Char)
  | [], cs => some cs
  | _ :: _, [] => none
  | w :: word, c :: cs => if w == c then afterWord? word cs else none

/-- The tree of the entries of a map. -/
def mapTree : Option (List (String × Tree)) → Tree
  | some entries => .map entries
  | none => .unreadable

/-- Entries with one more in front, whose key may be unreadable. -/
def withEntry (key : Option (List Char)) (t : Tree) (entries : Option (List (String × Tree))) :
    Option (List (String × Tree)) := do
  return (String.ofList (← key), t) :: (← entries)

mutual

/-- A value, and what follows.  `depth` bounds how deep containers nest. -/
def value? : Nat → Nat → List Char → Option (Tree × List Char)
  | 0, _, _ => none
  | fuel + 1, depth, cs =>
      match cs.dropWhile isSpace with
      | '"' :: rest => (stringBody? rest).map fun (cs, rest) => (textTree cs, rest)
      | '[' :: rest =>
          match depth with
          | 0 => none
          | depth + 1 =>
              match rest.dropWhile isSpace with
              | ']' :: rest => some (.list [], rest)
              | rest => (items? fuel depth rest).map fun (ts, rest) => (.list ts, rest)
      | '\x7b' :: rest =>
          match depth with
          | 0 => none
          | depth + 1 =>
              match rest.dropWhile isSpace with
              | '\x7d' :: rest => some (.map [], rest)
              | rest => (entries? fuel depth rest).map fun (es, rest) => (mapTree es, rest)
      | 'n' :: rest => (afterWord? ['u', 'l', 'l'] rest).map fun rest => (.null, rest)
      | 't' :: rest => (afterWord? ['r', 'u', 'e'] rest).map fun rest => (.bool true, rest)
      | 'f' :: rest => (afterWord? ['a', 'l', 's', 'e'] rest).map fun rest => (.bool false, rest)
      | rest => number? rest

/-- The items of a list up to its closing bracket, and what follows. -/
def items? : Nat → Nat → List Char → Option (List Tree × List Char)
  | 0, _, _ => none
  | fuel + 1, depth, cs => do
      let (t, rest) ← value? fuel depth cs
      match rest.dropWhile isSpace with
      | ',' :: rest =>
          let (ts, rest) ← items? fuel depth rest
          return (t :: ts, rest)
      | ']' :: rest => return ([t], rest)
      | _ => none

/-- The entries of a map up to its closing brace, and what follows.  The entries are missing if a
key is unreadable. -/
def entries? : Nat → Nat → List Char → Option (Option (List (String × Tree)) × List Char)
  | 0, _, _ => none
  | fuel + 1, depth, cs =>
      match cs.dropWhile isSpace with
      | '"' :: rest => do
          let (key, rest) ← stringBody? rest
          match rest.dropWhile isSpace with
          | ':' :: rest =>
              let (t, rest) ← value? fuel depth rest
              match rest.dropWhile isSpace with
              | ',' :: rest =>
                  let (entries, rest) ← entries? fuel depth rest
                  return (withEntry key t entries, rest)
              | '\x7d' :: rest => return (withEntry key t (some []), rest)
              | _ => none
          | _ => none
      | _ => none

end

/-- The tree of a text that is one JSON value and nothing else, with containers that nest at most
`depth` deep. -/
def parseWithin? (depth : Nat) (s : String) : Option Tree :=
  let cs := s.toList
  match value? (2 * cs.length + 2) depth cs with
  | some (t, rest) => if rest.all isSpace then some t else none
  | none => none

/-- The tree of a text, whatever in it is unreadable. -/
def parse? (s : String) : Option Tree := parseWithin? s.length s

/-- The tree of a text in which all is readable and containers nest at most 127 deep. -/
def parseStrictly? (s : String) : Option Tree := (parseWithin? 127 s).filter Tree.isReadable

end Json
end DevnetChaos
