import DevnetChaos.Document.Yaml.Scalar

/-!
# Tokens of a YAML text

Marks, names and scalars of a text, and the starts and ends of its blocks, which are not written
but follow from indentation.

A mapping key is only known as such at its colon, so the places where one could have begun are kept
as candidates, one for each level of brackets.  A candidate is given up at the end of its line and
after 1024 bytes; at the indentation of the block around it something has to be a key, so there
giving up is an error.

A token is only known for sure when no candidate stands in front of it.  The tokens that are known
where a text goes wrong are still read, and the last of them says that there is no more to read.

Main definitions:

- `Token`.
- `Lexer`: the state between two tokens.
- `tokens`: the tokens of a text.
-/

namespace DevnetChaos
namespace Yaml

/-- How a scalar is written. -/
inductive ScalarStyle where
  | plain
  | quoted
  | literal
  | folded
  deriving DecidableEq, Repr

/-- A token. -/
inductive Token where
  | versionDirective (major minor : Nat)
  | tagDirective (handle : String) (target : List UInt8)
  | documentStart
  | documentEnd
  | blockSequenceStart
  | blockMappingStart
  | blockEnd
  | flowSequenceStart
  | flowSequenceEnd
  | flowMappingStart
  | flowMappingEnd
  | blockEntry
  | flowEntry
  | key
  | value
  | anchor (name : String)
  /-- A later mention of what an anchor names. -/
  | reference (name : String)
  /-- A tag in bytes, which need not be characters. -/
  | tag (handle : String) (suffix : List UInt8)
  | scalar (text : String) (style : ScalarStyle)
  | streamEnd
  /-- The text goes wrong here. -/
  | unreadable
  deriving DecidableEq, Repr

/-- A place where a mapping key may have begun. -/
structure KeyCandidate where
  /-- Number of tokens in front of it. -/
  token : Nat
  offset : Nat
  line : Nat
  column : Nat
  required : Bool
  deriving Repr

/-- The state between two tokens. -/
structure Lexer where
  cursor : Cursor
  tokens : Array Token
  /-- The column of the innermost block, or minus one outside all blocks. -/
  indent : Int
  /-- The columns of the blocks around it. -/
  outer : List Int
  /-- The candidate of the innermost level of brackets, or of the block. -/
  candidate : Option KeyCandidate
  /-- The candidates of the levels around it. -/
  outerCandidates : List (Option KeyCandidate)
  /-- Whether a mapping key may begin here. -/
  keyAllowed : Bool

namespace Lexer

/-- The state at the beginning of a text. -/
def start (cs : List Char) : Lexer := ⟨.start cs, #[], -1, [], none, [], true⟩

/-- Whether the cursor stands inside brackets. -/
def inFlow (s : Lexer) : Bool := !s.outerCandidates.isEmpty

/-- Adds a token. -/
def emit (s : Lexer) (t : Token) : Lexer := { s with tokens := s.tokens.push t }

/-- Adds a token and goes on by the characters it is written with. -/
def emitMark (s : Lexer) (t : Token) (width : Nat) : Lexer :=
  { s with tokens := s.tokens.push t, cursor := s.cursor.advance width }

/-! ## Candidates for keys -/

/-- Gives up the candidate of the current level. -/
def dropCandidate (s : Lexer) : Option Lexer :=
  match s.candidate with
  | some k => if k.required then none else some { s with candidate := none }
  | none => some s

/-- Makes the current place a candidate where a key may begin. -/
def markCandidate (s : Lexer) : Option Lexer :=
  if s.keyAllowed then do
    let s ← s.dropCandidate
    let c := s.cursor
    return { s with candidate := some {
      token := s.tokens.size, offset := c.offset, line := c.line, column := c.column,
      required := !s.inFlow && s.indent == (c.column : Int) } }
  else some s

/-- Whether a candidate is too far back. -/
def isStale (s : Lexer) (k : KeyCandidate) : Bool :=
  k.line < s.cursor.line || k.offset + 1024 < s.cursor.offset

/-- A candidate that is not too far back; `none` where that is an error. -/
def freshen (s : Lexer) : Option KeyCandidate → Option (Option KeyCandidate)
  | some k => if s.isStale k then (if k.required then none else some none) else some (some k)
  | none => some none

/-- Gives up all candidates that are too far back. -/
def dropStale (s : Lexer) : Option Lexer := do
  let candidate ← s.freshen s.candidate
  let outer ← s.outerCandidates.mapM s.freshen
  return { s with candidate := candidate, outerCandidates := outer }

/-- The number of tokens in front of every candidate. -/
def settledTokens (s : Lexer) : Nat :=
  (s.candidate :: s.outerCandidates).foldl
    (fun n candidate => candidate.elim n fun k => min n k.token) s.tokens.size

/-! ## Blocks -/

/-- Opens a block at a column to the right of the current one.  Its start goes in front of the
token of the given number. -/
def openBlock (s : Lexer) (column : Nat) (at? : Option Nat) (t : Token) : Lexer :=
  if s.inFlow || (column : Int) ≤ s.indent then s
  else
    { s with
      outer := s.indent :: s.outer
      indent := column
      tokens := s.tokens.insertIdxIfInBounds (at?.getD s.tokens.size) t }

/-- Closes the blocks to the right of a column. -/
def closeBlocks (column : Int) : List Int → Lexer → Lexer
  | outer, s =>
      if s.inFlow then s
      else
        match outer with
        | [] => s
        | indent :: outer =>
            if column < s.indent then
              closeBlocks column outer
                { s with tokens := s.tokens.push .blockEnd, indent := indent, outer := outer }
            else s

/-- Closes all blocks to the right of a column. -/
def unwind (s : Lexer) (column : Int) : Lexer := closeBlocks column s.outer s

/-! ## Between tokens -/

/-- Goes on past blanks, comments and line breaks.  A line break outside brackets allows a key, and
a line may begin with a mark of byte order. -/
def skipSpace : Nat → Lexer → Lexer
  | 0, s => s
  | fuel + 1, s =>
      let c := s.cursor
      let c := match c.column, c.rest with
        | 0, '\uFEFF' :: _ => c.advance 1
        | _, _ => c
      let tabs := s.inFlow || !s.keyAllowed
      let c := (c.skipWhile fun x => x == ' ' || (tabs && x == '\t')).skipComment
      match c.rest with
      | x :: _ =>
          if isBreak x then
            skipSpace fuel { s with cursor := c.skipBreak, keyAllowed := s.keyAllowed || !s.inFlow }
          else { s with cursor := c }
      | [] => { s with cursor := c }

/-! ## Directives -/

/-- A run of at most nine digits. -/
def versionNumber? (cs : List Char) : Option (Nat × List Char) :=
  let digits := cs.takeWhile Text.isDigit
  if digits.length ≤ 9 then
    (Text.natOfDigits? digits).map fun n => (n, cs.dropWhile Text.isDigit)
  else none

/-- Whether a character may stand in a tag; some may only in one that is written out. -/
def isTagChar (verbatim : Bool) (c : Char) : Bool :=
  isWordChar c || ";/?:@&=+$.%!~*()\x27".toList.contains c || (verbatim && ",[]".toList.contains c)

/-- The byte of a percent sign with two digits, and what follows. -/
def escapedByte? : List Char → Option (UInt8 × List Char)
  | '%' :: a :: b :: rest => (Text.natOfBase? 16 [a, b]).map fun n => (UInt8.ofNat n, rest)
  | _ => none

/-- The number of bytes of a character that begins with a byte. -/
def sequenceLength? (first : UInt8) : Option Nat :=
  if first < 0x80 then some 1
  else if first < 0xC0 then none
  else if first < 0xE0 then some 2
  else if first < 0xF0 then some 3
  else if first < 0xF8 then some 4
  else none

/-- A number of escaped bytes that go on with a character, and what follows. -/
def continuationBytes? : Nat → List Char → Option (List UInt8 × List Char)
  | 0, cs => some ([], cs)
  | n + 1, cs => do
      let (byte, rest) ← escapedByte? cs
      if 0x80 ≤ byte && byte < 0xC0 then
        let (bytes, rest) ← continuationBytes? n rest
        return (byte :: bytes, rest)
      else none

/-- The escaped bytes of one character, and what follows.  Whether they are a character is not
looked at further. -/
def escapedBytes? (cs : List Char) : Option (List UInt8 × List Char) := do
  let (first, rest) ← escapedByte? cs
  let (more, rest) ← continuationBytes? ((← sequenceLength? first) - 1) rest
  return (first :: more, rest)

/-- The bytes of a tag up to a character that may not stand in it. -/
def tagBytes? (verbatim : Bool) : Nat → List Char → Option (List UInt8 × List Char)
  | 0, cs => some ([], cs)
  | _, [] => some ([], [])
  | fuel + 1, c :: rest =>
      if c == '%' then do
        let (bytes, rest) ← escapedBytes? (c :: rest)
        (tagBytes? verbatim fuel rest).map fun (more, rest) => (bytes ++ more, rest)
      else if isTagChar verbatim c then
        (tagBytes? verbatim fuel rest).map fun (more, rest) => (c.toNat.toUInt8 :: more, rest)
      else some ([], c :: rest)

/-- Bytes up to the first zero, which ends a tag. -/
def beforeZero (bytes : List UInt8) : List UInt8 := bytes.takeWhile (· != 0)

/-- A tag handle: an exclamation mark, perhaps with a name and a second one. -/
def tagHandle? (directive : Bool) : List Char → Option (List Char × List Char)
  | '!' :: rest =>
      let name := rest.takeWhile isWordChar
      match rest.dropWhile isWordChar with
      | '!' :: rest => some ('!' :: name ++ ['!'], rest)
      | rest => if directive && !name.isEmpty then none else some ('!' :: name, rest)
  | _ => none

/-- A directive after its percent sign, and what follows it. -/
def directive? (cs : List Char) : Option (Token × List Char) := do
  let name := cs.takeWhile isWordChar
  let rest := cs.dropWhile isWordChar
  if name.isEmpty || !atGap rest then none
  else
    let rest := rest.dropWhile isGap
    match String.ofList name with
    | "YAML" =>
        let (major, rest) ← versionNumber? rest
        match rest with
        | '.' :: rest =>
            let (minor, rest) ← versionNumber? rest
            return (.versionDirective major minor, rest)
        | _ => none
    | "TAG" =>
        let (handle, rest) ← tagHandle? true rest
        match rest with
        | x :: _ =>
            if isGap x then
              let (target, rest) ← tagBytes? true rest.length (rest.dropWhile isGap)
              if target.isEmpty || !atGap rest then none
              else return (.tagDirective (String.ofList handle) (beforeZero target), rest)
            else none
        | [] => none
    | _ => none

/-- A tag, and what follows it.  An exclamation mark alone is a tag without a handle. -/
def tag? (cs : List Char) : Option (Token × List Char) :=
  match cs with
  | '!' :: '<' :: rest => do
      let (suffix, rest) ← tagBytes? true rest.length rest
      match rest with
      | '>' :: rest => if suffix.isEmpty then none else return (.tag "" (beforeZero suffix), rest)
      | _ => none
  | cs => do
      let (handle, rest) ← tagHandle? false cs
      let (suffix, rest) ← tagBytes? false (rest.length + 1) rest
      if 2 ≤ handle.length && handle.getLast? == some '!' then
        if suffix.isEmpty then none
        else return (.tag (String.ofList handle) (beforeZero suffix), rest)
      else
        let suffix := beforeZero ((handle.drop 1).map (fun c => c.toNat.toUInt8) ++ suffix)
        return (if suffix.isEmpty then .tag "" [0x21] else .tag "!" suffix, rest)

/-- The name of an anchor or of a reference to one, and what follows it. -/
def anchorName? (cs : List Char) : Option (String × List Char) :=
  let name := cs.takeWhile isWordChar
  let rest := cs.dropWhile isWordChar
  let ends := match rest with
    | [] => true
    | x :: _ => isGap x || isBreak x || "?:,]\x7d%@\x60".toList.contains x
  if name.isEmpty || !ends then none else some (String.ofList name, rest)

/-! ## Tokens -/

/-- A directive. -/
def lexDirective (s : Lexer) : Option Lexer := do
  let s ← (s.unwind (-1)).dropCandidate
  let (t, rest) ← directive? (s.cursor.rest.drop 1)
  let c := ((s.cursor.advanceTo rest).skipWhile isGap).skipComment
  if atBreak c.rest then
    return { s.emit t with cursor := c.skipBreak, keyAllowed := false }
  else none

/-- A mark between documents. -/
def lexDocumentMark (t : Token) (s : Lexer) : Option Lexer := do
  let s ← (s.unwind (-1)).dropCandidate
  return { s.emitMark t 3 with keyAllowed := false }

/-- An opening bracket. -/
def lexOpening (t : Token) (s : Lexer) : Option Lexer := do
  let s ← s.markCandidate
  return { s.emitMark t 1 with
    outerCandidates := s.candidate :: s.outerCandidates, candidate := none, keyAllowed := true }

/-- A closing bracket. -/
def lexClosing (t : Token) (s : Lexer) : Option Lexer := do
  let s ← s.dropCandidate
  match s.outerCandidates with
  | candidate :: outer =>
      return { s.emitMark t 1 with
        candidate := candidate, outerCandidates := outer, keyAllowed := false }
  | [] => return { s.emitMark t 1 with keyAllowed := false }

/-- A comma inside brackets. -/
def lexFlowEntry (s : Lexer) : Option Lexer := do
  let s ← s.dropCandidate
  return { s.emitMark .flowEntry 1 with keyAllowed := true }

/-- The dash of an item. -/
def lexBlockEntry (s : Lexer) : Option Lexer := do
  if !s.inFlow && !s.keyAllowed then none
  else
    let s ← (s.openBlock s.cursor.column none .blockSequenceStart).dropCandidate
    return { s.emitMark .blockEntry 1 with keyAllowed := true }

/-- The question mark of a key. -/
def lexKey (s : Lexer) : Option Lexer := do
  if !s.inFlow && !s.keyAllowed then none
  else
    let s ← (s.openBlock s.cursor.column none .blockMappingStart).dropCandidate
    return { s.emitMark .key 1 with keyAllowed := !s.inFlow }

/-- The colon of a value.  A candidate becomes the key in front of it. -/
def lexValue (s : Lexer) : Option Lexer :=
  match s.candidate with
  | some k =>
      let s := { s with
        tokens := s.tokens.insertIdxIfInBounds k.token .key
        candidate := none
        keyAllowed := false }
      let s := s.openBlock k.column (some k.token) .blockMappingStart
      some (s.emitMark .value 1)
  | none =>
      if !s.inFlow && !s.keyAllowed then none
      else
        let s := s.openBlock s.cursor.column none .blockMappingStart
        some { s.emitMark .value 1 with keyAllowed := !s.inFlow }

/-- An anchor, or a reference to one. -/
def lexAnchor (make : String → Token) (s : Lexer) : Option Lexer := do
  let s ← s.markCandidate
  let (name, rest) ← anchorName? (s.cursor.rest.drop 1)
  return { s.emit (make name) with cursor := s.cursor.advanceTo rest, keyAllowed := false }

/-- A tag. -/
def lexTag (s : Lexer) : Option Lexer := do
  let s ← s.markCandidate
  let (t, rest) ← tag? s.cursor.rest
  if atGap rest || (s.inFlow && rest.head? == some ',') then
    return { s.emit t with cursor := s.cursor.advanceTo rest, keyAllowed := false }
  else none

/-- A block scalar. -/
def lexBlockScalar (literal : Bool) (s : Lexer) : Option Lexer := do
  let s ← s.dropCandidate
  let (text, c) ← blockScalar literal s.indent s.cursor
  let style := if literal then ScalarStyle.literal else .folded
  return { s.emit (.scalar (String.ofList text) style) with cursor := c, keyAllowed := true }

/-- A quoted scalar. -/
def lexQuoted (single : Bool) (s : Lexer) : Option Lexer := do
  let s ← s.markCandidate
  let (text, c) ← quotedScalar single s.cursor
  return { s.emit (.scalar (String.ofList text) .quoted) with cursor := c, keyAllowed := false }

/-- A plain scalar. -/
def lexPlain (s : Lexer) : Option Lexer := do
  let s ← s.markCandidate
  let (text, broken, c) ← plainScalar s.inFlow (s.indent + 1).toNat s.cursor
  return { s.emit (.scalar (String.ofList text) .plain) with cursor := c, keyAllowed := broken }

/-- Whether a plain scalar may begin with a character that another one follows. -/
def beginsPlain (inFlow : Bool) (c : Char) (rest : List Char) : Bool :=
  if c == '-' then !(rest.head?.map isGap).getD false
  else if c == '?' || c == ':' then !inFlow && !atGap rest
  else !(isGap c || isBreak c || ",[]\x7b\x7d#&*!|>\x27\"%@\x60".toList.contains c)

/-- The token at the cursor. -/
def lexToken (s : Lexer) (c : Char) (rest : List Char) : Option Lexer :=
  if s.cursor.column == 0 && c == '%' then s.lexDirective
  else if s.cursor.atMark '-' then s.lexDocumentMark .documentStart
  else if s.cursor.atMark '.' then s.lexDocumentMark .documentEnd
  else
    match c with
    | '[' => s.lexOpening .flowSequenceStart
    | '\x7b' => s.lexOpening .flowMappingStart
    | ']' => s.lexClosing .flowSequenceEnd
    | '\x7d' => s.lexClosing .flowMappingEnd
    | ',' => s.lexFlowEntry
    | '*' => s.lexAnchor .reference
    | '&' => s.lexAnchor .anchor
    | '!' => s.lexTag
    | '\x27' => s.lexQuoted true
    | '"' => s.lexQuoted false
    | c =>
        if c == '-' && atGap rest then s.lexBlockEntry
        else if c == '?' && (s.inFlow || atGap rest) then s.lexKey
        else if c == ':' && (s.inFlow || atGap rest) then s.lexValue
        else if c == '|' && !s.inFlow then s.lexBlockScalar true
        else if c == '>' && !s.inFlow then s.lexBlockScalar false
        else if beginsPlain s.inFlow c rest then s.lexPlain
        else none

/-- Goes on to the next token, and closes the blocks that end in front of it. -/
def approach (s : Lexer) : Option Lexer := do
  let s ← (skipSpace (s.cursor.rest.length + 1) s).dropStale
  return s.unwind s.cursor.column

/-- The first `count` tokens, after which there is no more to read. -/
def cutOff (s : Lexer) (count : Nat) : List Token :=
  (s.tokens.toList.take count) ++ [.unreadable]

/-- All tokens from a state on.  The first `known` tokens of the state are known for sure. -/
def run : Nat → Nat → Lexer → List Token
  | 0, known, s => s.cutOff known
  | fuel + 1, known, s =>
      match s.dropStale with
      | none => s.cutOff known
      | some s =>
          let known := s.settledTokens
          match s.approach with
          | none => s.cutOff known
          | some next =>
              match next.cursor.rest with
              | [] =>
                  match (next.unwind (-1)).dropCandidate with
                  | some last => last.tokens.toList ++ [.streamEnd]
                  | none => s.cutOff known
              | c :: rest =>
                  match next.lexToken c rest with
                  | some next => run fuel known next
                  | none => s.cutOff known

end Lexer

/-- The tokens of a text.  A text with a character that may not stand in it has none. -/
def tokens (cs : List Char) : List Token :=
  if cs.all isAllowed then Lexer.run (cs.length + 2) 0 (.start cs) else [.unreadable]

end Yaml
end DevnetChaos
