import DevnetChaos.Decimal.Layout
import DevnetChaos.Document.Scalar
import DevnetChaos.Document.Yaml.Cursor

/-!
# Writing YAML

The text of a tree in block style.  A text is plain where it reads back as itself, and otherwise in
single quotes, in double quotes or, with line breaks in it, as a literal block.

A document is put together from pieces that each begin a line.  A piece may have line breaks in it,
and may end with one; where it does not, one follows.

Main definitions:

- `Traits`: what decides how a text can be written.
- `scalarStyle`: the style of a text.
- `Block`, `valueBlock`: a value behind its key.
- `Yaml.render`: the text of a tree.
-/

namespace DevnetChaos
namespace Yaml

/-! ## Styles -/

/-- Whether a character needs no escape. -/
def isPrintable (c : Char) : Bool :=
  let n := c.toNat
  n == 0x0A || (0x20 ≤ n && n ≤ 0x7E) || (0xA0 ≤ n && n ≤ 0xD7FF)
    || (0xE000 ≤ n && n ≤ 0xFFFD && n != 0xFEFF) || 0x10000 ≤ n

/-- What decides how a text can be written. -/
structure Traits where
  /-- Whether it looks like something else when it is plain. -/
  indicators : Bool
  /-- Whether some characters have to be escaped. -/
  special : Bool
  lineBreaks : Bool
  /-- Whether it begins or ends with a space or a line break. -/
  blankEnd : Bool
  trailingSpace : Bool
  /-- Whether a space follows a line break. -/
  breakSpace : Bool
  /-- Whether a line break follows a space. -/
  spaceBreak : Bool
  deriving Repr

/-- Whether two neighbours of a text satisfy `p` and `q`. -/
def hasPair (p q : Char → Bool) : List Char → Bool
  | a :: b :: rest => (p a && q b) || hasPair p q (b :: rest)
  | _ => false

/-- Whether a text that goes on has a character which would end a plain scalar: a colon in front of
a gap, or a hash after one. -/
def hasInnerIndicator (afterGap : Bool) : List Char → Bool
  | [] => false
  | c :: rest =>
      (c == ':' && atGap rest) || (c == '#' && afterGap)
        || hasInnerIndicator (isGap c || isBreak c) rest

/-- Whether a text begins like something that is no plain scalar. -/
def hasFirstIndicator : List Char → Bool
  | '-' :: '-' :: '-' :: _ => true
  | '.' :: '.' :: '.' :: _ => true
  | c :: rest =>
      "#,[]\x7b\x7d&*!|>\x27\"%@\x60".toList.contains c
        || ((c == '?' || c == ':' || c == '-') && atGap rest)
  | [] => false

/-- The traits of a text. -/
def Traits.of (cs : List Char) : Traits where
  indicators := match cs with
    | [] => false
    | c :: rest => hasFirstIndicator cs || hasInnerIndicator (isGap c || isBreak c) rest
  special := cs.any fun c => !isPrintable c
  lineBreaks := cs.any isBreak
  blankEnd :=
    let blank := fun c : Char => c == ' ' || isBreak c
    (cs.head?.map blank).getD false || (cs.getLast?.map blank).getD false
  trailingSpace := cs.getLast? == some ' '
  breakSpace := hasPair isBreak (· == ' ') cs
  spaceBreak := hasPair (· == ' ') isBreak cs

namespace Traits

/-- Whether a text can stand without quotes. -/
def allowsPlain (t : Traits) : Bool :=
  !(t.indicators || t.special || t.lineBreaks || t.blankEnd || t.breakSpace || t.spaceBreak)

/-- Whether a text can stand in single quotes. -/
def allowsSingle (t : Traits) : Bool := !(t.special || t.breakSpace || t.spaceBreak)

/-- Whether a text can stand in a block. -/
def allowsBlock (t : Traits) : Bool := !(t.special || t.trailingSpace || t.spaceBreak)

end Traits

/-- How a text is written. -/
inductive Style where
  | plain
  | single
  | double
  | literal
  deriving DecidableEq, Repr

/-- Whether a text would not read back as text if it were plain. -/
def readsAsOther (s : String) : Bool := !Scalar.meansText s || Scalar.leadingZero s.toList

/-- The style of a text. -/
def scalarStyle (s : String) : Style :=
  let traits := Traits.of s.toList
  if s.toList.contains '\n' then (if traits.allowsBlock then .literal else .double)
  else if !readsAsOther s && traits.allowsPlain then .plain
  else if traits.allowsSingle then .single
  else .double

/-! ## Texts -/

/-- A number of spaces. -/
def spaces (n : Nat) : String := String.ofList (List.replicate n ' ')

/-- The digits of a number in base sixteen, of at least the given width. -/
def hexDigits (width n : Nat) : String :=
  let digits := (Nat.toDigits 16 n).map Char.toUpper
  String.ofList (List.replicate (width - digits.length) '0' ++ digits)

/-- The letter of a character with a short escape. -/
def escapeLetter? (n : Nat) : Option String :=
  [(0x00, "0"), (0x07, "a"), (0x08, "b"), (0x09, "t"), (0x0A, "n"), (0x0B, "v"), (0x0C, "f"),
   (0x0D, "r"), (0x1B, "e"), (0x22, "\""), (0x5C, "\\"), (0x85, "N"), (0xA0, "_"), (0x2028, "L"),
   (0x2029, "P")].lookup n

/-- A character inside double quotes. -/
def escapeChar (c : Char) : String :=
  let n := c.toNat
  if isPrintable c && !isBreak c && c != '"' && c != '\\' then c.toString
  else
    match escapeLetter? n with
    | some letter => "\\" ++ letter
    | none =>
        if n ≤ 0xFF then "\\x" ++ hexDigits 2 n
        else if n ≤ 0xFFFF then "\\u" ++ hexDigits 4 n
        else "\\U" ++ hexDigits 8 n

/-- A text in double quotes. -/
def doubleQuoted (s : String) : String :=
  "\"" ++ s.toList.foldl (fun out c => out ++ escapeChar c) "" ++ "\""

/-- The characters of a text in single quotes.  What follows line breaks is indented, the closing
quote too. -/
def singleQuotedChars (indent : Nat) : Bool → List Char → String
  | atStart, [] => if atStart then spaces indent else ""
  | atStart, c :: rest =>
      if isBreak c then c.toString ++ singleQuotedChars indent true rest
      else
        (if atStart then spaces indent else "") ++ (if c == '\x27' then "\x27\x27" else c.toString)
          ++ singleQuotedChars indent false rest

/-- A text in single quotes. -/
def singleQuoted (indent : Nat) (s : String) : String :=
  "\x27" ++ singleQuotedChars indent false s.toList ++ "\x27"

/-- The mark of a literal block: what becomes of its last line breaks, and its indentation where the
text itself begins with a blank. -/
def literalHeader (cs : List Char) : String :=
  let indent := if (cs.head?.map fun c => c == ' ' || isBreak c).getD false then "2" else ""
  let ending := match cs.reverse with
    | a :: b :: _ => if !isBreak a then "-" else if isBreak b then "+" else ""
    | [a] => if isBreak a then "+" else "-"
    | [] => "-"
  "|" ++ indent ++ ending

/-- The lines of a literal block after its mark.  An empty line has no indentation. -/
def literalLines (indent : Nat) : Bool → List Char → String
  | _, [] => ""
  | atStart, c :: rest =>
      if isBreak c then c.toString ++ literalLines indent true rest
      else (if atStart then spaces indent else "") ++ c.toString ++ literalLines indent false rest

/-- A text whose block, if it is one, has the given indentation. -/
def scalarText (indent : Nat) (s : String) : String :=
  match scalarStyle s with
  | .plain => s
  | .single => singleQuoted indent s
  | .double => doubleQuoted s
  | .literal => literalHeader s.toList ++ "\n" ++ literalLines indent true s.toList

/-! ## Blocks -/

/-- A value behind its key or its dash: how that line goes on, and the pieces below it. -/
structure Block where
  head : String
  below : List String

namespace Block

/-- A block that is no more than the rest of a line. -/
def ofText (s : String) : Block := ⟨" " ++ s, []⟩

/-- The pieces of a block behind what stands in front of it. -/
def behind (lead : String) (b : Block) : List String := (lead ++ b.head) :: b.below

/-- A block with more pieces below it. -/
def followedBy (b : Block) (pieces : List String) : Block := ⟨b.head, b.below ++ pieces⟩

end Block

/-- Whether a key stands on a line of its own: a long one does, and one with line breaks. -/
def isLongKey (key : String) : Bool := 128 < key.utf8ByteSize || key.toList.any isBreak

/-- An entry of a map with a short key. -/
def shortEntry (indent : Nat) (key : String) (b : Block) : Block :=
  ⟨scalarText (indent + 2) key ++ ":" ++ b.head, b.below⟩

/-- An entry of a map with a long key. -/
def longEntry (indent : Nat) (key : String) (b : Block) : Block :=
  ⟨"? " ++ scalarText (indent + 2) key, b.behind (spaces indent ++ ":")⟩

mutual

/-- A value behind its key, which has the given indentation. -/
def valueBlock (indent : Nat) : Tree → Block
  | .null => .ofText "null"
  | .bool b => .ofText (if b then "true" else "false")
  | .int n => .ofText (toString n)
  | .float x => .ofText (Decimal.Layout.document.render x)
  | .text s => .ofText (scalarText (indent + 2) s)
  | .list [] => .ofText "[]"
  | .list (t :: rest) => ⟨"", itemPieces indent (t :: rest)⟩
  | .map [] => .ofText "\x7b\x7d"
  | .map (e :: rest) => ⟨"", entryPieces (indent + 2) (e :: rest)⟩
  | .unreadable => .ofText "null"

/-- A value behind its dash, which has the given indentation: the first item or entry stands on the
same line. -/
def itemBlock (indent : Nat) : Tree → Block
  | .list (t :: rest) =>
      let first := itemBlock (indent + 2) t
      Block.followedBy ⟨" -" ++ first.head, first.below⟩ (itemPieces (indent + 2) rest)
  | .map (e :: rest) =>
      let first := entryBlock (indent + 2) e
      Block.followedBy ⟨" " ++ first.head, first.below⟩ (entryPieces (indent + 2) rest)
  | t => valueBlock indent t

/-- An entry of a map. -/
def entryBlock (indent : Nat) : String × Tree → Block
  | (key, t) =>
      if isLongKey key then longEntry indent key (itemBlock indent t)
      else shortEntry indent key (valueBlock indent t)

/-- The items of a list. -/
def itemPieces (indent : Nat) : List Tree → List String
  | [] => []
  | t :: rest => (itemBlock indent t).behind (spaces indent ++ "-") ++ itemPieces indent rest

/-- The entries of a map. -/
def entryPieces (indent : Nat) : List (String × Tree) → List String
  | [] => []
  | e :: rest => (entryBlock indent e).behind (spaces indent) ++ entryPieces indent rest

end

/-! ## Documents -/

/-- The pieces of a whole document. -/
def pieces : Tree → List String
  | .list (t :: rest) => itemPieces 0 (t :: rest)
  | .map (e :: rest) => entryPieces 0 (e :: rest)
  | t => [String.ofList ((valueBlock 0 t).head.toList.drop 1)]

/-- A piece with a line break at its end. -/
def closeLine (piece : String) : String :=
  if (piece.toList.getLast?.map isBreak).getD false then piece else piece ++ "\n"

/-- The text of a whole document. -/
def render (t : Tree) : String := String.join ((pieces t).map closeLine)

end Yaml
end DevnetChaos
