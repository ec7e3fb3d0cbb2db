import DevnetChaos.TextMap

/-!
# Document trees

What a JSON text says, and what all documents and answers are written from.

Main definitions:

- `Tree`: values, lists, and maps with their entries in document order.
- `Tree.get?`: the last entry of a map with a given key.
- `Tree.ordered`: brings entries in the order of their keys.
- `Tree.isReadable`: whether everything in a tree stands for something.
-/

namespace DevnetChaos

/-- A document. -/
inductive Tree where
  | null
  | bool (value : Bool)
  | int (value : Int)
  | float (value : Float)
  | text (value : String)
  | list (items : List Tree)
  | map (entries : List (String × Tree))
  /-- What is well written but stands for nothing, such as a number beyond all floating-point
  numbers.  A reader can pass it over but not read it. -/
  | unreadable
  deriving Inhabited, BEq, Repr

namespace Tree

/-! ## Building trees -/

/-- A natural number. -/
def nat (n : Nat) : Tree := .int n

/-- A list of texts. -/
def texts (xs : List String) : Tree := .list (xs.map .text)

/-- A value that may be absent, as `null`. -/
def orNull {α : Type} (f : α → Tree) : Option α → Tree
  | some a => f a
  | none => .null

/-- An entry that is left out when its value is absent. -/
def optional {α : Type} (key : String) (f : α → Tree) : Option α → List (String × Tree)
  | some a => [(key, f a)]
  | none => []

/-- An entry that is left out on a condition. -/
def entryUnless (skip : Bool) (key : String) (t : Tree) : List (String × Tree) :=
  if skip then [] else [(key, t)]

/-! ## Looking at trees -/

/-- The last entry with a key. -/
def lastEntry? (key : String) (entries : List (String × Tree)) : Option Tree :=
  entries.reverse.lookup key

/-- The last entry of a map with a key; nothing else has entries. -/
def get? (t : Tree) (key : String) : Option Tree :=
  match t with
  | .map entries => lastEntry? key entries
  | _ => none

/-- The last entry of a map with a key, or `null`. -/
def getOrNull (t : Tree) (key : String) : Tree := (t.get? key).getD .null

/-! ## Changing trees -/

mutual

/-- The tree with the entries of every map in the order of their keys; of the entries with one key
only the last is kept. -/
def ordered : Tree → Tree
  | .list items => .list (orderedItems items)
  | .map entries => .map (TextMap.ofList (orderedEntries entries)).entries
  | other => other

def orderedItems : List Tree → List Tree
  | [] => []
  | t :: rest => t.ordered :: orderedItems rest

def orderedEntries : List (String × Tree) → List (String × Tree)
  | [] => []
  | (key, t) :: rest => (key, t.ordered) :: orderedEntries rest

end

mutual

/-- Whether everything in a tree stands for something. -/
def isReadable : Tree → Bool
  | .list items => areReadable items
  | .map entries => entriesAreReadable entries
  | .unreadable => false
  | _ => true

def areReadable : List Tree → Bool
  | [] => true
  | t :: rest => t.isReadable && areReadable rest

def entriesAreReadable : List (String × Tree) → Bool
  | [] => true
  | (_, t) :: rest => t.isReadable && entriesAreReadable rest

end

end Tree
end DevnetChaos
