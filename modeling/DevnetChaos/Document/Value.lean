import DevnetChaos.Decimal.Layout
import DevnetChaos.Document.Tree

/-!
# Values of any shape

What a document says where its reader does not know what to expect.  Unlike in a tree, keys of maps
are values themselves, and a value may carry a tag of its own.

Main definitions:

- `Value`: the values.
- `Value.same`: the equality under which the keys of a map have to differ.
- `Tree.toValue?`, `Value.toTree?`: from a tree, and to a tree where every key has a text.
-/

namespace DevnetChaos

/-- A value of any shape. -/
inductive Value where
  | null
  | bool (value : Bool)
  | nat (n : Nat)
  /-- An integer with a minus sign, which may be a zero. -/
  | negative (magnitude : Nat)
  | float (value : Float)
  | text (value : String)
  | list (items : List Value)
  | map (entries : List (Value × Value))
  | tagged (tag : String) (body : Value)
  deriving Inhabited, Repr

namespace Value

/-- The number of an integer. -/
def int? : Value → Option Int
  | .nat n => some n
  | .negative n => some (-n)
  | _ => none

/-- The text of a scalar that is not null. -/
def scalarText? : Value → Option String
  | .bool b => some (if b then "true" else "false")
  | .nat n => some (toString n)
  | .negative n => some (toString (-(n : Int)))
  | .float x => some (Decimal.Layout.document.render x)
  | .text s => some s
  | _ => none

/-! ## Tags -/

/-- A tag without the exclamation mark it may begin with. -/
def bareTag (tag : String) : String :=
  match tag.toList with
  | '!' :: c :: rest => String.ofList (c :: rest)
  | _ => tag

/-- A tag as it is written. -/
def tagText (tag : String) : String := "!" ++ bareTag tag

/-! ## Equality -/

mutual

/-- Whether two values are the same: integers and fractions are compared as numbers of their kind,
what is no number equals itself, and the order of entries does not count. -/
def same : Value → Value → Bool
  | .null, .null => true
  | .bool a, .bool b => a == b
  | .float a, .float b => (a.isNaN && b.isNaN) || a == b
  | .text a, .text b => a == b
  | .list as, .list bs => sameItems as bs
  | .map as, .map bs => as.length == bs.length && sameEntries as bs
  | .tagged s a, .tagged t b => bareTag s == bareTag t && same a b
  | a, b => a.int?.isSome && a.int? == b.int?

def sameItems : List Value → List Value → Bool
  | [], [] => true
  | a :: as, b :: bs => same a b && sameItems as bs
  | _, _ => false

def sameEntries : List (Value × Value) → List (Value × Value) → Bool
  | [], _ => true
  | (key, a) :: rest, bs =>
      bs.any (fun b => same key b.1 && same a b.2) && sameEntries rest bs

end

/-- Whether a key is among those of some entries. -/
def isKeyOf (key : Value) (entries : List (Value × Value)) : Bool :=
  entries.any fun e => key.same e.1

/-! ## To trees -/

/-- The text of a key.  Null, lists, maps and fractions that are not finite have none. -/
def keyText? : Value → Option String
  | .float x => if x.isFinite then some (Decimal.Layout.document.render x) else none
  | other => other.scalarText?

mutual

/-- The tree of a value, if every key in it has a text.  Of the entries whose keys have one text
the last is kept, and a tag becomes the key of its value. -/
def toTree? : Value → Option Tree
  | .null => some .null
  | .bool b => some (.bool b)
  | .nat n => some (.int n)
  | .negative n => some (.int (-n))
  | .float x => some (.float x)
  | .text s => some (.text s)
  | .list items => (toTrees? items).map .list
  | .map entries => (toEntries? entries).map fun es => .map (TextMap.ofList es).entries
  | .tagged tag body => (toTree? body).map fun t => .map [(tagText tag, t)]

def toTrees? : List Value → Option (List Tree)
  | [] => some []
  | v :: rest => do return (← toTree? v) :: (← toTrees? rest)

def toEntries? : List (Value × Value) → Option (List (String × Tree))
  | [] => some []
  | (key, v) :: rest => do return (← keyText? key, ← toTree? v) :: (← toEntries? rest)

end
end Value

/-! ## From trees -/

namespace Tree

mutual

/-- The value of a tree, if everything in it stands for something. -/
def toValue? : Tree → Option Value
  | .null => some .null
  | .bool b => some (.bool b)
  | .int (.ofNat n) => some (.nat n)
  | .int (.negSucc n) => some (.negative (n + 1))
  | .float x => some (.float x)
  | .text s => some (.text s)
  | .list items => (toValues? items).map .list
  | .map entries => (toValueEntries? entries).map .map
  | .unreadable => none

def toValues? : List Tree → Option (List Value)
  | [] => some []
  | t :: rest => do return (← toValue? t) :: (← toValues? rest)

def toValueEntries? : List (String × Tree) → Option (List (Value × Value))
  | [] => some []
  | (key, t) :: rest => do return (.text key, ← toValue? t) :: (← toValueEntries? rest)

end
end Tree
end DevnetChaos
