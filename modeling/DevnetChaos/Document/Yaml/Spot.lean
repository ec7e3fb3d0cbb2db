import DevnetChaos.Document.Reading
import DevnetChaos.Document.Scalar
import DevnetChaos.Document.Yaml.Node

/-!
# Reading the nodes of a YAML document

A node says little about its value by itself: `300` is a text where a text is wanted and a number
where a number is wanted.  Here is what can be asked of a node, and when it answers.

Tags matter in two ways.  A tag that begins with an exclamation mark names an alternative or goes
with a value of any shape, and is then used up.  A tag of the standard schema lets a literal block
be the scalar it names, and decides on a value of any shape.

Main definitions:

- `Spot`: a node as it is reached from the root of its document.
- `Spot.text`, `bool`, `natural`, `float`, `unit`, `present?`: scalars.
- `Spot.items`, `Spot.entries`, `Spot.parts`: lists, maps and either of them.
- `Spot.choice`: alternatives.
- `Spot.value`: values of any shape.
- `Spot.skip`: nodes that nobody asks for.
-/

namespace DevnetChaos
namespace Yaml

/-- A node as it is reached from the root of its document. -/
structure Spot where
  document : Document
  node : Node
  /-- How many more lists and maps can be gone into. -/
  depth : Nat
  /-- Whether the tag of the node is used up. -/
  tagUsed : Bool
  deriving Repr

/-- The root of a document.  Lists and maps are gone into at most 128 deep. -/
def Document.spot (d : Document) : Spot := ⟨d, d.root, 128, false⟩

/-! ## Following references -/

/-- What a node stands for, and whether its tag is used up.  What a reference stands for is no
reference. -/
def Document.followed (d : Document) (tagUsed : Bool) : Node → Reading (Node × Bool)
  | .reference anchor => do
      Reading.follow
      match d.targets[anchor]? with
      | some n => return (n, false)
      | none => Reading.refuse
  | n => return (n, tagUsed)

namespace Spot

/-- Where a node is if it is a reference. -/
def followed (s : Spot) : Reading Spot := do
  let (node, tagUsed) ← s.document.followed s.tagUsed s.node
  return { s with node, tagUsed }

/-- The name of the tag of a node, if it begins with an exclamation mark and is not used up. -/
def ownTag? (s : Spot) : Option String := if s.tagUsed then none else s.node.ownTag?

/-- The spot with its tag used up. -/
def useTag (s : Spot) : Spot := { s with tagUsed := true }

/-! ## Scalars -/

/-- The text of a scalar, whatever its tag and its style. -/
def text (s : Spot) : Reading String := do
  match (← s.followed).node with
  | .scalar _ text _ => return text
  | _ => Reading.refuse

/-- Reads a scalar that is plain, or a literal block with the given tag. -/
def scalar {α : Type} (s : Spot) (tag : Tag) (read : String → Option α) : Reading α := do
  let s ← s.followed
  match s.node with
  | .scalar marks text style =>
      let named := style == .literal && marks.tag == some tag && !s.tagUsed
      if style == .plain || named then Reading.ofOption (read text) else Reading.refuse
  | _ => Reading.refuse

/-- A truth value. -/
def bool (s : Spot) : Reading Bool := s.scalar .bool Scalar.boolOf?

/-- A natural number. -/
def natural (s : Spot) : Reading Nat := s.scalar .int Scalar.unsignedOf?

/-- A fraction. -/
def float (s : Spot) : Reading Float := s.scalar .float Scalar.floatOf?

/-- Whether a spelling stands for nothing. -/
def isNothing (text : String) : Bool := text.isEmpty || Scalar.nullWord text

/-- A scalar that stands for nothing.  One with a tag has to have the tag for null, and a word. -/
def unit (s : Spot) : Reading Unit := do
  let s ← s.followed
  match s.node with
  | .scalar marks text .plain =>
      let fits : Bool := match marks.tag, s.tagUsed with
        | some tag, false => tag == .null && Scalar.nullWord text
        | _, _ => isNothing text
      if fits then return () else Reading.refuse
  | _ => Reading.refuse

/-- A node unless it stands for nothing.  A scalar with a tag stands for something, or has the tag
for null and has to have a word for it. -/
def present? (s : Spot) : Reading (Option Spot) := do
  let s ← s.followed
  match s.node with
  | .scalar marks text .plain =>
      match marks.tag, s.tagUsed with
      | some .null, false => if Scalar.nullWord text then return none else Reading.refuse
      | some _, false => return some s
      | _, _ => return if isNothing text then none else some s
  | .missing | .reference _ => Reading.refuse
  | _ => return some s

/-! ## Lists and maps -/

/-- What a list or a map is made of. -/
inductive Parts where
  | items (spots : List Spot)
  | entries (spots : List (Spot × Spot))

/-- The parts of a list or a map.  A map shares with its keys whether tags are used up. -/
def inside (s : Spot) : Reading Parts :=
  match s.node, s.depth with
  | .list _ items, depth + 1 =>
      return .items (items.map fun node => { s with node, depth, tagUsed := false })
  | .map _ entries, depth + 1 =>
      return .entries (entries.map fun (key, node) =>
        ({ s with node := key, depth }, { s with node, depth, tagUsed := false }))
  | _, _ => Reading.refuse

/-- Whether a node is left empty. -/
def isEmpty (s : Spot) : Bool :=
  match s.node with
  | .scalar _ "" .plain => true
  | _ => false

/-- The items of a list, none if it is left empty. -/
def items (s : Spot) : Reading (List Spot) := do
  let s ← s.followed
  if s.isEmpty then return []
  match ← s.inside with
  | .items spots => return spots
  | .entries _ => Reading.refuse

/-- The entries of a map, none if it is left empty. -/
def entries (s : Spot) : Reading (List (Spot × Spot)) := do
  let s ← s.followed
  if s.isEmpty then return []
  match ← s.inside with
  | .items _ => Reading.refuse
  | .entries spots => return spots

/-- The parts of a list or a map that is not left empty and has no tag that begins with an
exclamation mark. -/
def parts (s : Spot) : Reading Parts := do
  let s ← s.followed
  if s.ownTag?.isSome then Reading.refuse else s.inside

/-! ## Alternatives -/

/-- The name of an alternative, and the node that goes with it: a scalar is a name alone, and a tag
that begins with an exclamation mark names the alternative of its node.  Where the tag is used up
already, only a scalar that is not empty has a name. -/
def choice (s : Spot) : Reading (String × Option Spot) := do
  if s.tagUsed then
    match s.node with
    | .scalar _ text _ => if text.isEmpty then Reading.refuse else return (text, none)
    | _ => Reading.refuse
  else
    let s ← s.followed
    match s.ownTag?, s.node with
    | some name, _ => return (name, some s.useTag)
    | none, .scalar _ text _ => return (text, none)
    | none, _ => Reading.refuse

/-! ## Values of any shape -/

/-- The value of a scalar.  A tag of the standard schema that is not used up has to fit, and the tag
of a plain scalar that is not of that schema makes it a text. -/
def scalarValue? (tag : Option Tag) (text : String) (style : ScalarStyle) : Option Value :=
  match tag with
  | some .bool => (Scalar.boolOf? text).map .bool
  | some .int => (Scalar.integerOf? text).join
  | some .float => (Scalar.floatOf? text).map .float
  | some .null => if Scalar.nullWord text then some .null else none
  | some .other => some (.text text)
  | some (.own _) | some .ownWithoutName | none =>
      if style == .plain then Scalar.ofPlain? text else some (.text text)

/-- How values inside a list or a map are read; missing where it is too deep to go into. -/
abbrev Inner := Option (Bool → Node → Reading Value)

/-- Reads the entries of a map, where `distinct` keys are refused if one was seen. -/
def readEntries (distinct tagUsed : Bool) (read : Bool → Node → Reading Value) :
    List (Value × Value) → List (Node × Node) → Reading (List (Value × Value))
  | seen, [] => return seen.reverse
  | seen, (key, n) :: rest => do
      let key ← read tagUsed key
      if distinct && key.isKeyOf seen then Reading.refuse
      let v ← read false n
      readEntries distinct tagUsed read ((key, v) :: seen) rest

/-- The value of a node without a tag that begins with an exclamation mark. -/
def bareValue (distinct : Bool) (inner : Inner) (tagUsed : Bool) : Node → Reading Value
  | .scalar marks text style =>
      Reading.ofOption (scalarValue? (if tagUsed then none else marks.tag) text style)
  | .list _ items => do return .list (← items.mapM ((← Reading.ofOption inner) false))
  | .map _ entries => do
      return .map (← readEntries distinct tagUsed (← Reading.ofOption inner) [] entries)
  | .reference _ | .missing => Reading.refuse

/-- The value of a node.  Where values may be tagged the keys of a map have to differ; elsewhere a
tag that begins with an exclamation mark is refused. -/
def valueWith (d : Document) (mayBeTagged : Bool) (inner : Inner) (tagUsed : Bool) (n : Node) :
    Reading Value := do
  let (n, tagUsed) ← d.followed tagUsed n
  match if tagUsed then none else n.ownTag? with
  | none => bareValue mayBeTagged inner tagUsed n
  | some name =>
      if mayBeTagged then return .tagged name (← bareValue mayBeTagged inner true n)
      else Reading.refuse

/-- The value of a node where lists and maps can be gone into only so deep. -/
def valueWithin (d : Document) (mayBeTagged : Bool) : Nat → Bool → Node → Reading Value
  | 0 => valueWith d mayBeTagged none
  | depth + 1 => valueWith d mayBeTagged (some (valueWithin d mayBeTagged depth))

/-- The value of a node. -/
def value (s : Spot) (mayBeTagged : Bool) : Reading Value :=
  valueWithin s.document mayBeTagged s.depth s.tagUsed s.node

/-! ## Nodes that nobody asks for -/

/-- Passes over a node, which may be anything as long as the text does not go wrong in it. -/
def skip (s : Spot) : Reading Unit := if s.node.isWhole then return () else Reading.refuse

end Spot
end Yaml
end DevnetChaos
