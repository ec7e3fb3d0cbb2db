import DevnetChaos.Document.Yaml.Token

/-!
# Nodes of a YAML document

What the tokens of a document say, before anybody asks what a scalar means.  References stay
references: what they stand for is looked up when they are read, and may contain them.

A document whose text goes wrong ends in a missing node.  Everything in front of it can be read.

Main definitions:

- `Tag`: what a tag says about its node.
- `Node`: scalars, lists, maps, references, and the missing node.
- `Node.isWhole`: whether nothing is missing.
- `Document`: a node with all that references can stand for.
-/

namespace DevnetChaos
namespace Yaml

/-! ## Tags -/

/-- What a tag says about its node.  The tags of the standard schema for scalars are told apart,
and all other tags that do not begin with an exclamation mark are alike. -/
inductive Tag where
  | bool
  | int
  | float
  | null
  /-- A tag that begins with an exclamation mark, by what follows the mark. -/
  | own (name : String)
  /-- A tag that begins with an exclamation mark and goes on with what is no text. -/
  | ownWithoutName
  | other
  deriving DecidableEq, Repr

namespace Tag

/-- The bytes of a text. -/
def bytesOf (s : String) : List UInt8 := s.toUTF8.toList

/-- The text of bytes, if they are one. -/
def textOf? (bytes : List UInt8) : Option String := String.fromUTF8? ⟨bytes.toArray⟩

/-- The beginning of the tags of the standard schema. -/
def standardPrefix : List UInt8 := bytesOf "tag:yaml.org,2002:"

/-- The tag of the standard schema with a name. -/
def standard (name : String) : List UInt8 := standardPrefix ++ bytesOf name

/-- The tag of bytes.  An exclamation mark alone is its own name. -/
def ofBytes (bytes : List UInt8) : Tag :=
  match bytes with
  | 0x21 :: rest =>
      match textOf? (if rest.isEmpty then bytes else rest) with
      | some name => own name
      | none => ownWithoutName
  | _ =>
      if bytes == standard "bool" then bool
      else if bytes == standard "int" then int
      else if bytes == standard "float" then float
      else if bytes == standard "null" then null
      else other

end Tag

/-! ## Nodes -/

/-- What stands in front of a node. -/
structure NodeMarks where
  /-- The number that references to the node go by. -/
  anchor : Option Nat
  tag : Option Tag
  deriving DecidableEq, Repr

/-- A node. -/
inductive Node where
  | scalar (marks : NodeMarks) (text : String) (style : ScalarStyle)
  | list (marks : NodeMarks) (items : List Node)
  | map (marks : NodeMarks) (entries : List (Node × Node))
  | reference (anchor : Nat)
  /-- The text goes wrong here. -/
  | missing
  deriving Inhabited, Repr

namespace Node

/-- A node that is left out. -/
def blank : Node := .scalar ⟨none, none⟩ "" .plain

/-- The name of the tag of a node, if the tag begins with an exclamation mark. -/
def ownTag? : Node → Option String
  | .scalar marks .. | .list marks _ | .map marks _ =>
      match marks.tag with
      | some (.own name) => some name
      | _ => none
  | _ => none

mutual

/-- Whether nothing in a node is missing. -/
def isWhole : Node → Bool
  | .scalar .. => true
  | .list _ items => areWhole items
  | .map _ entries => entriesAreWhole entries
  | .reference _ => true
  | .missing => false

def areWhole : List Node → Bool
  | [] => true
  | n :: rest => n.isWhole && areWhole rest

def entriesAreWhole : List (Node × Node) → Bool
  | [] => true
  | (key, n) :: rest => key.isWhole && n.isWhole && entriesAreWhole rest

end

mutual

/-- The number of scalars, references, and beginnings and ends of lists and maps, up to a missing
node. -/
def size : Node → Nat
  | .scalar .. => 1
  | .list _ items => 1 + sizeOfItems items + if areWhole items then 1 else 0
  | .map _ entries => 1 + sizeOfEntries entries + if entriesAreWhole entries then 1 else 0
  | .reference _ => 1
  | .missing => 0

def sizeOfItems : List Node → Nat
  | [] => 0
  | n :: rest => n.size + sizeOfItems rest

def sizeOfEntries : List (Node × Node) → Nat
  | [] => 0
  | (key, n) :: rest => key.size + n.size + sizeOfEntries rest

end

/-- Puts a node at the place of its anchor, where a later node replaces an earlier one. -/
def placeTarget (marks : NodeMarks) (n : Node) (targets : Array Node) : Array Node :=
  match marks.anchor with
  | some anchor => if anchor < targets.size then targets.set! anchor n else targets.push n
  | none => targets

mutual

/-- Adds what the anchors in a node name, in the order in which the nodes begin. -/
def targets (n : Node) (found : Array Node) : Array Node :=
  match n with
  | .scalar marks .. => placeTarget marks n found
  | .list marks items => targetsOfItems items (placeTarget marks n found)
  | .map marks entries => targetsOfEntries entries (placeTarget marks n found)
  | .reference _ => found
  | .missing => found

def targetsOfItems (items : List Node) (found : Array Node) : Array Node :=
  match items with
  | [] => found
  | n :: rest => targetsOfItems rest (n.targets found)

def targetsOfEntries (entries : List (Node × Node)) (found : Array Node) : Array Node :=
  match entries with
  | [] => found
  | (key, n) :: rest => targetsOfEntries rest (n.targets (key.targets found))

end
end Node

/-! ## Documents -/

/-- The first document of a text. -/
structure Document where
  root : Node
  /-- What references stand for, by their numbers. -/
  targets : Array Node
  /-- Whether the text ends with the document. -/
  isLast : Bool
  deriving Repr

namespace Document

/-- The document of a node. -/
def ofNode (root : Node) (isLast : Bool) : Document := ⟨root, root.targets #[], isLast⟩

/-- How many references may be followed while a document is read. -/
def patience (d : Document) : Nat := 100 * d.root.size

end Document
end Yaml
end DevnetChaos
