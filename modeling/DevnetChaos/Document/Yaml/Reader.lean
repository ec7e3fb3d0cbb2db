import DevnetChaos.Document.Yaml.Node

/-!
# Reading YAML

From the tokens of a text to its first document.  Where the tokens go wrong the node that is due is
missing, and nothing is read after it.

Main definitions:

- `Remainder`: what is still to be read.
- `Assembly.node`: a node with its properties.
- `Document.ofText`: the first document of a text.
-/

namespace DevnetChaos
namespace Yaml

/-! ## Tags -/

/-- What tag handles stand for. -/
abbrev TagHandles := List (String × List UInt8)

/-- The handles every document knows. -/
def standardHandles : TagHandles := [("!", Tag.bytesOf "!"), ("!!", Tag.standardPrefix)]

/-- The tag of a handle with a suffix. -/
def fullTag? (handles : TagHandles) (handle : String) (suffix : List UInt8) : Option Tag :=
  if handle.isEmpty then some (.ofBytes suffix)
  else (handles.lookup handle).map fun target => .ofBytes (target ++ suffix)

/-! ## What is still to be read -/

/-- Tokens, and the numbers of the anchors that were seen. -/
structure Remainder where
  tokens : List Token
  anchors : List (String × Nat)
  deriving Repr

namespace Remainder

/-- The remainder with other tokens. -/
def withTokens (r : Remainder) (tokens : List Token) : Remainder := { r with tokens }

/-- Gives an anchor its number: how many other names there were before it, or as many names as
there were if it had one. -/
def enter (r : Remainder) (anchor : Option String) : Option Nat × Remainder :=
  match anchor with
  | none => (none, r)
  | some name =>
      let number := r.anchors.length
      (some number, { r with anchors := (name, number) :: r.anchors.filter fun a => a.1 != name })

/-- Whether the next token satisfies `p`. -/
def nextIs (r : Remainder) (p : Token → Bool) : Bool :=
  match r.tokens with
  | t :: _ => p t
  | [] => false

/-- Whether there is no more to read. -/
def isBroken (r : Remainder) : Bool :=
  match r.tokens with
  | [] | .unreadable :: _ => true
  | _ => false

end Remainder

/-! ## Nodes -/

namespace Assembly

/-- A node, and what is to be read after it; nothing is after the text went wrong. -/
abbrev Part := Node × Option Remainder

/-- The text goes wrong. -/
def broken : Part := (.missing, none)

/-- The anchor and the tag in front of a node, in either order. -/
def properties (handles : TagHandles) :
    List Token → Option (Option String × Option Tag × List Token)
  | .anchor a :: .tag h s :: rest => do return (some a, some (← fullTag? handles h s), rest)
  | .tag h s :: .anchor a :: rest => do return (some a, some (← fullTag? handles h s), rest)
  | .anchor a :: rest => some (some a, none, rest)
  | .tag h s :: rest => do return (none, some (← fullTag? handles h s), rest)
  | rest => some (none, none, rest)

/-- Whether a token ends an entry of a block mapping. -/
def endsBlockEntry : Token → Bool
  | .key | .value | .blockEnd => true
  | _ => false

/-- What a node is read as where it may be left out. -/
structure Place where
  /-- Whether it may be a block. -/
  block : Bool
  /-- Whether it may be a list whose items begin at the column of their key. -/
  indentless : Bool
  /-- The tokens in front of which it is left out. -/
  isLeftOut : Token → Bool

/-- The place of an item of a block. -/
def blockItemPlace : Place := ⟨true, false, fun t => t == .blockEntry || t == .blockEnd⟩

/-- The place of an item at the column of its key. -/
def indentlessItemPlace : Place := ⟨true, false, fun t => t == .blockEntry || endsBlockEntry t⟩

/-- The place of a key or a value of a block. -/
def blockEntryPlace : Place := ⟨true, true, endsBlockEntry⟩

/-- The place of a key in brackets. -/
def flowKeyPlace (closing : Token) : Place :=
  ⟨false, false, fun t => t == .value || t == .flowEntry || t == closing⟩

/-- The place of a value in brackets. -/
def flowValuePlace (closing : Token) : Place :=
  ⟨false, false, fun t => t == .flowEntry || t == closing⟩

/-- The place of a node that cannot be left out. -/
def requiredPlace (block : Bool) : Place := ⟨block, false, fun _ => false⟩

mutual

/-- A node with its properties, or a blank one where it is left out. -/
def node (handles : TagHandles) : Nat → Place → Remainder → Part
  | 0, _, _ => broken
  | fuel + 1, place, r =>
      if r.isBroken then broken
      else if r.nextIs place.isLeftOut then (.blank, some r)
      else
        match r.tokens with
        | .reference name :: rest =>
            match r.anchors.lookup name with
            | some anchor => (.reference anchor, some (r.withTokens rest))
            | none => broken
        | tokens =>
            match properties handles tokens with
            | none => broken
            | some (name, tag, tokens) =>
                let (anchor, r) := (r.withTokens tokens).enter name
                content handles fuel place ⟨anchor, tag⟩ r

/-- What follows the properties of a node; with properties it may be left out. -/
def content (handles : TagHandles) : Nat → Place → NodeMarks → Remainder → Part
  | 0, _, _, _ => broken
  | fuel + 1, place, marks, r =>
      let orBlank : Part :=
        if !r.isBroken && (marks.anchor.isSome || marks.tag.isSome) then
          (.scalar marks "" .plain, some r)
        else broken
      match r.tokens with
      | .scalar text style :: rest => (.scalar marks text style, some (r.withTokens rest))
      | .flowSequenceStart :: rest => flowItems handles fuel true marks [] (r.withTokens rest)
      | .flowMappingStart :: rest => flowEntries handles fuel true marks [] (r.withTokens rest)
      | .blockEntry :: _ =>
          if place.indentless then indentlessItems handles fuel marks [] r else orBlank
      | .blockSequenceStart :: rest =>
          if place.block then blockItems handles fuel marks [] (r.withTokens rest) else orBlank
      | .blockMappingStart :: rest =>
          if place.block then blockEntries handles fuel marks [] (r.withTokens rest) else orBlank
      | _ => orBlank

/-- The value behind a key, blank if there is none. -/
def valueNode (handles : TagHandles) : Nat → Place → Remainder → Part
  | 0, _, _ => broken
  | fuel + 1, place, r =>
      match r.tokens with
      | .value :: rest => node handles fuel place (r.withTokens rest)
      | _ => if r.isBroken then broken else (.blank, some r)

/-- A key and the value behind it. -/
def entry (handles : TagHandles) : Nat → Place → Place → Remainder →
    (Node × Node) × Option Remainder
  | 0, _, _, _ => ((.missing, .missing), none)
  | fuel + 1, keyPlace, valuePlace, r =>
      match node handles fuel keyPlace r with
      | (key, none) => ((key, .missing), none)
      | (key, some r) =>
          let (n, r) := valueNode handles fuel valuePlace r
          ((key, n), r)

/-- A key and the value behind it as an item in brackets.  Where the key is left out the token that
comes next is passed over, be it the colon, a comma or the closing bracket. -/
def itemEntry (handles : TagHandles) : Nat → Remainder → (Node × Node) × Option Remainder
  | 0, _ => ((.missing, .missing), none)
  | fuel + 1, r =>
      let keyPlace := flowKeyPlace .flowSequenceEnd
      let valuePlace := flowValuePlace .flowSequenceEnd
      if r.nextIs keyPlace.isLeftOut then
        let (n, r) := valueNode handles fuel valuePlace (r.withTokens (r.tokens.drop 1))
        ((.blank, n), r)
      else entry handles fuel keyPlace valuePlace r

/-- The items of a list at an indentation of its own. -/
def blockItems (handles : TagHandles) : Nat → NodeMarks → List Node → Remainder → Part
  | 0, _, _, _ => broken
  | fuel + 1, marks, done, r =>
      match r.tokens with
      | .blockEntry :: rest =>
          match node handles fuel blockItemPlace (r.withTokens rest) with
          | (n, some r) => blockItems handles fuel marks (n :: done) r
          | (n, none) => (.list marks (n :: done).reverse, none)
      | .blockEnd :: rest => (.list marks done.reverse, some (r.withTokens rest))
      | _ => (.list marks (.missing :: done).reverse, none)

/-- The items of a list at the column of its key. -/
def indentlessItems (handles : TagHandles) : Nat → NodeMarks → List Node → Remainder → Part
  | 0, _, _, _ => broken
  | fuel + 1, marks, done, r =>
      match r.tokens with
      | .blockEntry :: rest =>
          match node handles fuel indentlessItemPlace (r.withTokens rest) with
          | (n, some r) => indentlessItems handles fuel marks (n :: done) r
          | (n, none) => (.list marks (n :: done).reverse, none)
      | _ =>
          if r.isBroken then (.list marks (.missing :: done).reverse, none)
          else (.list marks done.reverse, some r)

/-- The entries of a map at an indentation of its own. -/
def blockEntries (handles : TagHandles) : Nat → NodeMarks → List (Node × Node) → Remainder → Part
  | 0, _, _, _ => broken
  | fuel + 1, marks, done, r =>
      match r.tokens with
      | .key :: rest =>
          match entry handles fuel blockEntryPlace blockEntryPlace (r.withTokens rest) with
          | (e, some r) => blockEntries handles fuel marks (e :: done) r
          | (e, none) => (.map marks (e :: done).reverse, none)
      | .blockEnd :: rest => (.map marks done.reverse, some (r.withTokens rest))
      | _ => (.map marks ((.missing, .missing) :: done).reverse, none)

/-- The items of a list in brackets; `first` says that no comma is due.  An item with a key is a map
of its own. -/
def flowItems (handles : TagHandles) : Nat → Bool → NodeMarks → List Node → Remainder → Part
  | 0, _, _, _, _ => broken
  | fuel + 1, first, marks, done, r =>
      let goOn (part : Part) : Part :=
        match part with
        | (n, some r) => flowItems handles fuel false marks (n :: done) r
        | (n, none) => (.list marks (n :: done).reverse, none)
      match r.tokens, first with
      | .flowSequenceEnd :: rest, _ => (.list marks done.reverse, some (r.withTokens rest))
      | .flowEntry :: rest, false => flowItems handles fuel true marks done (r.withTokens rest)
      | .key :: rest, true =>
          let (e, r) := itemEntry handles fuel (r.withTokens rest)
          goOn (.map ⟨none, none⟩ [e], r)
      | _, true => goOn (node handles fuel (requiredPlace false) r)
      | _, false => goOn broken

/-- The entries of a map in braces; `first` says that no comma is due. -/
def flowEntries (handles : TagHandles) : Nat → Bool → NodeMarks → List (Node × Node) →
    Remainder → Part
  | 0, _, _, _, _ => broken
  | fuel + 1, first, marks, done, r =>
      let goOn (e : (Node × Node) × Option Remainder) : Part :=
        match e with
        | (e, some r) => flowEntries handles fuel false marks (e :: done) r
        | (e, none) => (.map marks (e :: done).reverse, none)
      match r.tokens, first with
      | .flowMappingEnd :: rest, _ => (.map marks done.reverse, some (r.withTokens rest))
      | .flowEntry :: rest, false => flowEntries handles fuel true marks done (r.withTokens rest)
      | .key :: rest, true =>
          goOn (entry handles fuel (flowKeyPlace .flowMappingEnd) (flowValuePlace .flowMappingEnd)
            (r.withTokens rest))
      | _, true =>
          match node handles fuel (requiredPlace false) r with
          | (key, some r) =>
              if r.isBroken then goOn ((key, .missing), none) else goOn ((key, .blank), some r)
          | (key, none) => goOn ((key, .missing), none)
      | _, false => goOn ((.missing, .missing), none)

end
end Assembly

/-! ## Documents -/

/-- The directives in front of a document: at most one version, and at most one target for each
handle.  The answer has the handles, and whether there were any directives. -/
def directives : Bool → TagHandles → List Token → Option (Bool × TagHandles × List Token)
  | seenVersion, handles, .versionDirective major minor :: rest =>
      if seenVersion || major != 1 || (minor != 1 && minor != 2) then none
      else (directives true handles rest).map fun (_, handles, rest) => (true, handles, rest)
  | seenVersion, handles, .tagDirective handle target :: rest =>
      if (handles.lookup handle).isSome then none
      else
        (directives seenVersion ((handle, target) :: handles) rest).map fun (_, handles, rest) =>
          (true, handles, rest)
  | _, handles, rest => some (false, handles, rest)

/-- Whether a token ends the document in front of it. -/
def endsDocument : Token → Bool
  | .versionDirective .. | .tagDirective .. | .documentStart | .documentEnd | .streamEnd => true
  | _ => false

namespace Document

/-- A document in which nothing can be read. -/
def unreadable : Document := .ofNode .missing false

/-- The document of a node and what is to be read after it. -/
def ofPart : Assembly.Part → Document
  | (n, some r) => .ofNode n (r.tokens.dropWhile (· == .documentEnd) == [.streamEnd])
  | (n, none) => .ofNode n false

/-- The first document that tokens hold.  No document at all counts as one that is left empty. -/
def ofTokens (tokens : List Token) : Document :=
  if tokens == [.streamEnd] then .ofNode .blank true
  else
    match directives false [] tokens with
    | none => unreadable
    | some (given, handles, tokens) =>
        let explicit := tokens.head? == some .documentStart
        if given && !explicit then unreadable
        else
          let r : Remainder := ⟨if explicit then tokens.drop 1 else tokens, []⟩
          let place := { Assembly.requiredPlace true with
            isLeftOut := fun t => explicit && endsDocument t }
          ofPart (Assembly.node (handles ++ standardHandles) (4 * tokens.length + 8) place r)

/-- The first document of a text. -/
def ofText (s : String) : Document := ofTokens (tokens s.toList)

end Document
end Yaml
end DevnetChaos
