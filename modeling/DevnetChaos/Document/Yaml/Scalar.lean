import DevnetChaos.Document.Yaml.Cursor
import DevnetChaos.Text.Digits

/-!
# Scalars in a YAML text

The text of plain, quoted and block scalars.  Inside the first two a line break is folded to a
blank, and several line breaks to one less; a block scalar keeps its line breaks, or folds them if
it asks for it.

Main definitions:

- `Gap`, `Gap.fold`: what stands between two words, and what it is read as.
- `plainScalar`, `quotedScalar`, `blockScalar`: the text of a scalar and the place after it.
-/

namespace DevnetChaos
namespace Yaml

/-! ## Gaps between words -/

/-- Blanks, or line breaks with the first one apart.  A line break that is escaped leaves no first
one. -/
inductive Gap where
  | blanks (cs : List Char)
  | breaks (first : Option Char) (more : List Char)
  deriving Repr

namespace Gap

/-- Whether a gap goes over a line break. -/
def isBroken : Gap → Bool
  | blanks _ => false
  | breaks .. => true

/-- Adds a blank; after a line break it does not count. -/
def addBlank (c : Char) : Gap → Gap
  | blanks cs => blanks (cs ++ [c])
  | gap => gap

/-- Adds a line break, which makes the blanks in front of it vanish. -/
def addBreak (c : Char) : Gap → Gap
  | blanks _ => breaks (some c) []
  | breaks first more => breaks first (more ++ [c])

/-- What a gap is read as. -/
def fold : Gap → List Char
  | blanks cs => cs
  | breaks none more => more
  | breaks (some '\n') [] => [' ']
  | breaks (some '\n') more => more
  | breaks (some c) more => c :: more

end Gap

/-- Reads a gap.  Where an indentation is given, a tab in front of it after a line break is
refused. -/
def readGap (indent : Option Nat) : Nat → Gap → Cursor → Option (Gap × Cursor)
  | 0, gap, c => some (gap, c)
  | fuel + 1, gap, c =>
      match c.rest with
      | [] => some (gap, c)
      | x :: _ =>
          if isGap x then
            let tooShallow := (indent.map fun n => decide (c.column < n)).getD false
            let bad := x == '\t' && gap.isBroken && tooShallow
            if bad then none else readGap indent fuel (gap.addBlank x) (c.advance 1)
          else if isBreak x then
            readGap indent fuel (gap.addBreak (normalBreak x)) c.skipBreak
          else some (gap, c)

/-! ## Plain scalars -/

/-- Whether a character ends a plain scalar inside brackets. -/
def isFlowMark (c : Char) : Bool := c == ',' || c == '[' || c == ']' || c == '\x7b' || c == '\x7d'

/-- A word of a plain scalar and what follows it.  Inside brackets a colon must not be followed by
one of their marks. -/
def plainWord (flow : Bool) : List Char → Option (List Char × List Char)
  | [] => some ([], [])
  | c :: rest =>
      if isGap c || isBreak c then some ([], c :: rest)
      else if c == ':' && flow && (rest.head?.map fun n => isFlowMark n || n == '?').getD false then
        none
      else if c == ':' && atGap rest then some ([], c :: rest)
      else if flow && isFlowMark c then some ([], c :: rest)
      else (plainWord flow rest).map fun (word, rest) => (c :: word, rest)

/-- The words of a plain scalar, with the gap in front of the next one, and whether the last gap
went over a line break. -/
def plainWords (flow : Bool) (indent : Nat) :
    Nat → List Char → Gap → Cursor → Option (List Char × Bool × Cursor)
  | 0, _, _, _ => none
  | fuel + 1, text, gap, c =>
      if c.atDocumentMark || c.rest.head? == some '#' then some (text, gap.isBroken, c)
      else
        match plainWord flow c.rest with
        | none => none
        | some (word, rest) =>
            let (text, gap) :=
              if word.isEmpty then (text, gap) else (text ++ gap.fold ++ word, .blanks [])
            let c := c.advanceTo rest
            match c.rest with
            | [] => some (text, gap.isBroken, c)
            | x :: _ =>
                if isGap x || isBreak x then
                  match readGap (some indent) (c.rest.length + 1) gap c with
                  | none => none
                  | some (gap, c) =>
                      if !flow && c.column < indent then some (text, gap.isBroken, c)
                      else plainWords flow indent fuel text gap c
                else some (text, gap.isBroken, c)

/-- A plain scalar at a cursor: its text, whether it ends in front of a new line, and the place
after it. -/
def plainScalar (flow : Bool) (indent : Nat) (c : Cursor) : Option (List Char × Bool × Cursor) :=
  plainWords flow indent (c.rest.length + 1) [] (.blanks []) c

/-! ## Quoted scalars -/

/-- How a word of a quoted scalar ends. -/
inductive WordEnd where
  | quote
  | gap
  | escapedBreak
  deriving DecidableEq, Repr

/-- A word of a scalar in single quotes. -/
def singleWord : List Char → Option (List Char × WordEnd × List Char)
  | [] => none
  | '\x27' :: '\x27' :: rest => (singleWord rest).map fun (w, e, r) => ('\x27' :: w, e, r)
  | '\x27' :: rest => some ([], .quote, rest)
  | c :: rest =>
      if isGap c || isBreak c then some ([], .gap, c :: rest)
      else (singleWord rest).map fun (w, e, r) => (c :: w, e, r)

/-- The character of an escape without digits. -/
def plainEscape? : Char → Option Char
  | '0' => some '\x00'
  | 'a' => some '\x07'
  | 'b' => some '\x08'
  | 't' => some '\t'
  | '\t' => some '\t'
  | 'n' => some '\n'
  | 'v' => some '\x0b'
  | 'f' => some '\x0c'
  | 'r' => some '\r'
  | 'e' => some '\x1b'
  | ' ' => some ' '
  | '"' => some '"'
  | '/' => some '/'
  | '\\' => some '\\'
  | 'N' => some '\u0085'
  | '_' => some '\u00a0'
  | 'L' => some '\u2028'
  | 'P' => some '\u2029'
  | _ => none

/-- The character of a code point, if it has one. -/
def charOf? (n : Nat) : Option Char :=
  if n < 0xD800 ∨ (0xE000 ≤ n ∧ n < 0x110000) then some (Char.ofNat n) else none

/-- The character of hexadecimal digits. -/
def hexChar? (digits : List Char) : Option Char := (Text.natOfBase? 16 digits).bind charOf?

/-- A word of a scalar in double quotes. -/
def doubleWord : List Char → Option (List Char × WordEnd × List Char)
  | [] => none
  | '"' :: rest => some ([], .quote, rest)
  | '\\' :: 'x' :: a :: b :: rest => do
      let c ← hexChar? [a, b]
      (doubleWord rest).map fun (w, e, r) => (c :: w, e, r)
  | '\\' :: 'u' :: a :: b :: d :: e :: rest => do
      let c ← hexChar? [a, b, d, e]
      (doubleWord rest).map fun (w, e, r) => (c :: w, e, r)
  | '\\' :: 'U' :: a :: b :: d :: e :: f :: g :: h :: i :: rest => do
      let c ← hexChar? [a, b, d, e, f, g, h, i]
      (doubleWord rest).map fun (w, e, r) => (c :: w, e, r)
  | '\\' :: x :: rest =>
      if isBreak x then some ([], .escapedBreak, x :: rest)
      else do
        let c ← plainEscape? x
        (doubleWord rest).map fun (w, e, r) => (c :: w, e, r)
  | c :: rest =>
      if isGap c || isBreak c then some ([], .gap, c :: rest)
      else (doubleWord rest).map fun (w, e, r) => (c :: w, e, r)

/-- The words of a quoted scalar up to its closing quote. -/
def quotedWords (single : Bool) : Nat → List Char → Cursor → Option (List Char × Cursor)
  | 0, _, _ => none
  | fuel + 1, text, c =>
      if c.atDocumentMark then none
      else
        match if single then singleWord c.rest else doubleWord c.rest with
        | none => none
        | some (word, .quote, rest) => some (text ++ word, c.advanceTo rest)
        | some (word, .gap, rest) =>
            let c := c.advanceTo rest
            match readGap none (c.rest.length + 1) (.blanks []) c with
            | none => none
            | some (gap, c) => quotedWords single fuel (text ++ word ++ gap.fold) c
        | some (word, .escapedBreak, rest) =>
            let c := (c.advanceTo rest).skipBreak
            match readGap none (c.rest.length + 1) (.breaks none []) c with
            | none => none
            | some (gap, c) => quotedWords single fuel (text ++ word ++ gap.fold) c

/-- A quoted scalar at a cursor that stands on its opening quote. -/
def quotedScalar (single : Bool) (c : Cursor) : Option (List Char × Cursor) :=
  quotedWords single (c.rest.length + 1) [] (c.advance 1)

/-! ## Block scalars -/

/-- What becomes of the line breaks at the end of a block scalar. -/
inductive Chomping where
  | strip
  | clip
  | keep
  deriving DecidableEq, Repr

/-- The header of a block scalar: chomping and indentation in either order. -/
def blockHeader : List Char → Option (Chomping × Option Nat × List Char) := fun cs =>
  let chomping : List Char → Chomping × List Char
    | '+' :: rest => (.keep, rest)
    | '-' :: rest => (.strip, rest)
    | rest => (.clip, rest)
  let indent : List Char → Option (Option Nat × List Char)
    | '0' :: _ => none
    | c :: rest =>
        if Text.isDigit c then some (some (c.toNat - 48), rest) else some (none, c :: rest)
    | [] => some (none, [])
  match chomping cs with
  | (.clip, rest) =>
      match indent rest with
      | none => none
      | some (none, rest) => some (.clip, none, rest)
      | some (some n, rest) => let (ch, rest) := chomping rest; some (ch, some n, rest)
  | (ch, rest) =>
      match indent rest with
      | none => none
      | some (n, rest) => some (ch, n, rest)

/-- Goes over lines without text.  `indent` is where the text begins, zero while that is not known;
then the answer has the largest column seen. -/
def blockBreaks (indent : Nat) :
    Nat → Nat → List Char → Cursor → Option (Nat × List Char × Cursor)
  | 0, _, _, _ => none
  | fuel + 1, widest, breaks, c =>
      let free := if indent == 0 then c.rest.length else indent - c.column
      let spaces := ((c.rest.take free).takeWhile (· == ' ')).length
      let c := c.advance spaces
      let widest := max widest c.column
      match c.rest with
      | [] => some (widest, breaks, c)
      | x :: _ =>
          if x == '\t' && (indent == 0 || c.column < indent) then none
          else if isBreak x then
            blockBreaks indent fuel widest (breaks ++ [normalBreak x]) c.skipBreak
          else some (widest, breaks, c)

/-- The line break at a cursor, as it is read. -/
def breakAt (c : Cursor) : List Char :=
  match c.rest with
  | x :: _ => if isBreak x then [normalBreak x] else []
  | [] => []

/-- The lines of a block scalar.  `lead` is the line break after the last line and `trail` are those
of the empty lines after it; `blank` says whether the last line began with a blank. -/
def blockLines (literal : Bool) (indent : Nat) :
    Nat → List Char → List Char → List Char → Bool → Cursor →
      Option (List Char × List Char × List Char × Cursor)
  | 0, _, _, _, _, _ => none
  | fuel + 1, text, lead, trail, blank, c =>
      if c.column != indent || c.rest.isEmpty then some (text, lead, trail, c)
      else
        let nowBlank := (c.rest.head?.map isGap).getD false
        let joint :=
          if !literal && lead == ['\n'] && !blank && !nowBlank then
            if trail.isEmpty then [' '] else trail
          else lead ++ trail
        let line := c.rest.takeWhile fun x => !isBreak x
        let c := c.advance line.length
        let lead := breakAt c
        match blockBreaks indent (c.rest.length + 2) 0 [] c.skipBreak with
        | none => none
        | some (_, trail, c) =>
            blockLines literal indent fuel (text ++ joint ++ line) lead trail nowBlank c

/-- A block scalar at a cursor that stands on its mark.  `parent` is the indentation around it. -/
def blockScalar (literal : Bool) (parent : Int) (c : Cursor) : Option (List Char × Cursor) := do
  let c := c.advance 1
  let (chomping, increment, rest) ← blockHeader c.rest
  let c := ((c.advanceTo rest).skipWhile isGap).skipComment
  if !atBreak c.rest then none
  else
    let c := c.skipBreak
    let given : Nat := match increment with
      | none => 0
      | some n => if 0 ≤ parent then parent.toNat + n else n
    let (widest, trail, c) ← blockBreaks given (c.rest.length + 2) 0 [] c
    let indent := if given == 0 then max (max widest (parent + 1).toNat) 1 else given
    let (text, lead, trail, c) ← blockLines literal indent (c.rest.length + 2) [] [] trail false c
    let ending := match chomping with
      | .strip => []
      | .clip => lead
      | .keep => lead ++ trail
    return (text ++ ending, c)

end Yaml
end DevnetChaos
