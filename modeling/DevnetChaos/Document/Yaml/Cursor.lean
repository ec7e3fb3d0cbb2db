/-!
# Places in a YAML text

A cursor is the rest of a text together with the place where it begins.  Tokens depend on columns
and lines, so every step through the text keeps them.

Main definitions:

- `Cursor`: the rest of the text, and offset, line and column of its first character.
- `Cursor.advance`, `Cursor.skipBreak`: the two steps through the text.
- `isBreak`, `isGap`, `atGap`: line breaks, blanks and the end of the text.
-/

namespace DevnetChaos
namespace Yaml

/-! ## Characters -/

/-- Whether a character is a blank inside a line. -/
def isGap (c : Char) : Bool := c == ' ' || c == '\t'

/-- Whether a character ends a line. -/
def isBreak (c : Char) : Bool :=
  c == '\n' || c == '\r' || c == '\u0085' || c == '\u2028' || c == '\u2029'

/-- Whether a text ends or goes on with a line break. -/
def atBreak : List Char → Bool
  | [] => true
  | c :: _ => isBreak c

/-- Whether a text ends or goes on with a blank or a line break. -/
def atGap : List Char → Bool
  | [] => true
  | c :: _ => isGap c || isBreak c

/-- Whether a character may stand in a name of an anchor or a directive. -/
def isWordChar (c : Char) : Bool :=
  ('0' ≤ c && c ≤ '9') || ('A' ≤ c && c ≤ 'Z') || ('a' ≤ c && c ≤ 'z') || c == '_' || c == '-'

/-- Whether a character may stand in a document at all. -/
def isAllowed (c : Char) : Bool :=
  let n := c.toNat
  n == 0x09 || n == 0x0A || n == 0x0D || (0x20 ≤ n && n ≤ 0x7E) || n == 0x85
    || (0xA0 ≤ n && n ≤ 0xD7FF) || (0xE000 ≤ n && n ≤ 0xFFFD) || 0x10000 ≤ n

/-- The line break that a line break is read as: all but two are a newline. -/
def normalBreak (c : Char) : Char := if c == '\u2028' || c == '\u2029' then c else '\n'

/-! ## Cursors -/

/-- The rest of a text and the place where it begins. -/
structure Cursor where
  rest : List Char
  /-- The number of bytes in front of it. -/
  offset : Nat
  line : Nat
  column : Nat
  deriving Repr

/-- The number of bytes that characters are written with. -/
def byteCount (cs : List Char) : Nat := cs.foldl (fun n c => n + c.utf8Size) 0

namespace Cursor

/-- The beginning of a text. -/
def start (cs : List Char) : Cursor := ⟨cs, 0, 0, 0⟩

/-- Goes on by a number of characters, none of which is a line break. -/
def advance (c : Cursor) (n : Nat) : Cursor :=
  ⟨c.rest.drop n, c.offset + byteCount (c.rest.take n), c.line, c.column + n⟩

/-- Goes on to a later place in the same line. -/
def advanceTo (c : Cursor) (rest : List Char) : Cursor :=
  let n := c.rest.length - rest.length
  ⟨rest, c.offset + byteCount (c.rest.take n), c.line, c.column + n⟩

/-- Goes on past a line break, if there is one. -/
def skipBreak (c : Cursor) : Cursor :=
  match c.rest with
  | '\r' :: '\n' :: rest => ⟨rest, c.offset + 2, c.line + 1, 0⟩
  | b :: rest => if isBreak b then ⟨rest, c.offset + b.utf8Size, c.line + 1, 0⟩ else c
  | [] => c

/-- Goes on past the characters that satisfy `p`, none of which is a line break. -/
def skipWhile (p : Char → Bool) (c : Cursor) : Cursor := c.advanceTo (c.rest.dropWhile p)

/-- Goes on to the end of the line if a comment begins here. -/
def skipComment (c : Cursor) : Cursor :=
  match c.rest with
  | '#' :: _ => c.skipWhile fun x => !isBreak x
  | _ => c

/-- Whether a line begins here with a mark of three characters and a gap. -/
def atMark (c : Cursor) (mark : Char) : Bool :=
  match c.column, c.rest with
  | 0, a :: b :: d :: rest => a == mark && b == mark && d == mark && atGap rest
  | _, _ => false

/-- Whether a document begins or ends here. -/
def atDocumentMark (c : Cursor) : Bool := c.atMark '-' || c.atMark '.'

end Cursor
end Yaml
end DevnetChaos
