import DevnetChaos.Document.Value
import DevnetChaos.Document.Yaml.Spot

/-!
# Places in documents

A place is a part of a document that can be read: of a JSON document, of a YAML document, or of a
value that was kept while the rest of the value around it decides how it is to be read.  What is
asked of a place is the same for all three, and so are nearly all the answers.

Main definitions:

- `Place`: a part of a document.
- `Identifier`: how fields and alternatives are named.
- `Place.text`, `bool`, `natural`, `float`, `unit`, `present?`: scalars.
- `Place.items`, `entries`, `fieldParts`, `parts`: lists and maps.
- `Place.choice`: alternatives.
- `Place.value`, `taggedValue`: values of any shape.
-/

namespace DevnetChaos

/-- A part of a document. -/
inductive Place where
  | json (t : Tree)
  | kept (v : Value)
  | yaml (s : Yaml.Spot)
  deriving Repr

/-- How fields and alternatives are named: by name, or by their place in the order of
declaration. -/
inductive Identifier where
  | name (text : String)
  | index (n : Nat)
  deriving DecidableEq, Repr

/-- What an identifier names. -/
def Identifier.find? {α : Type} (named : List (String × α)) : Identifier → Option α
  | name text => named.lookup text
  | index n => named[n]?.map Prod.snd

namespace Place

open Reading (refuse)

/-! ## Scalars -/

/-- A text. -/
def text : Place → Reading String
  | .json (.text s) => pure s
  | .kept (.text s) => pure s
  | .yaml s => s.text
  | _ => refuse

/-- A truth value. -/
def bool : Place → Reading Bool
  | .json (.bool b) => pure b
  | .kept (.bool b) => pure b
  | .yaml s => s.bool
  | _ => refuse

/-- A natural number. -/
def natural : Place → Reading Nat
  | .json (.int (.ofNat n)) => pure n
  | .kept (.nat n) => pure n
  | .kept (.negative 0) => pure 0
  | .yaml s => s.natural
  | _ => refuse

/-- A fraction, which may be written as an integer. -/
def float : Place → Reading Float
  | .json (.int n) => pure (Float.ofInt n)
  | .json (.float x) => pure x
  | .kept (.float x) => pure x
  | .kept v => Reading.ofOption (v.int?.map Float.ofInt)
  | .yaml s => s.float
  | _ => refuse

/-- The name of a field or an alternative.  Only a kept value names them by number. -/
def identifier : Place → Reading Identifier
  | .json (.text s) => pure (.name s)
  | .kept (.text s) => pure (.name s)
  | .kept (.nat n) => pure (.index n)
  | .yaml s => do return .name (← s.text)
  | _ => refuse

/-- What goes with an alternative that carries nothing. -/
def unit : Place → Reading Unit
  | .json .null => pure ()
  | .kept .null => pure ()
  | .kept (.map []) => pure ()
  | .yaml s => s.unit
  | _ => refuse

/-- A value unless it is absent. -/
def present? : Place → Reading (Option Place)
  | .json .null => pure none
  | .json t => pure (some (.json t))
  | .kept .null => pure none
  | .kept v => pure (some (.kept v))
  | .yaml s => do return (← s.present?).map .yaml

/-! ## Lists and maps -/

/-- What a list or a map is made of. -/
inductive Parts where
  | items (places : List Place)
  | entries (places : List (Place × Place))

/-- The entries of a map in JSON. -/
def ofEntries (entries : List (String × Tree)) : List (Place × Place) :=
  entries.map fun (key, t) => (.json (.text key), .json t)

/-- The entries of a kept map. -/
def ofKeptEntries (entries : List (Value × Value)) : List (Place × Place) :=
  entries.map fun (key, v) => (.kept key, .kept v)

/-- The entries of a map in YAML. -/
def ofSpots (spots : List (Yaml.Spot × Yaml.Spot)) : List (Place × Place) :=
  spots.map fun (key, s) => (.yaml key, .yaml s)

/-- The items of a list. -/
def items : Place → Reading (List Place)
  | .json (.list items) => pure (items.map .json)
  | .kept (.list items) => pure (items.map .kept)
  | .yaml s => do return (← s.items).map .yaml
  | _ => refuse

/-- The entries of a map. -/
def entries : Place → Reading (List (Place × Place))
  | .json (.map entries) => pure (ofEntries entries)
  | .kept (.map entries) => pure (ofKeptEntries entries)
  | .yaml s => do return ofSpots (← s.entries)
  | _ => refuse

/-- The fields of a record: the entries of a map, or elsewhere than in YAML the items of a list. -/
def fieldParts : Place → Reading Parts
  | .json (.list items) => pure (.items (items.map .json))
  | .kept (.list items) => pure (.items (items.map .kept))
  | p => do return .entries (← p.entries)

/-- The parts of a list or a map of which nothing else is known. -/
def parts : Place → Reading Parts
  | .yaml s => do
      match ← s.parts with
      | .items spots => return .items (spots.map .yaml)
      | .entries spots => return .entries (ofSpots spots)
  | p => p.fieldParts

/-! ## Alternatives -/

/-- The name of an alternative, and what goes with it: a text alone, or a map with one entry; in
YAML a tag takes the place of the map. -/
def choice : Place → Reading (Identifier × Option Place)
  | .json (.text name) => pure (.name name, none)
  | .json (.map [(name, t)]) => pure (.name name, some (.json t))
  | .kept (.text name) => pure (.name name, none)
  | .kept (.map [(key, v)]) => do return (← (Place.kept key).identifier, some (.kept v))
  | .yaml s => do
      let (name, s) ← s.choice
      return (.name name, s.map .yaml)
  | _ => refuse

/-! ## Values of any shape -/

/-- A value of any shape, in which nothing is tagged. -/
def value : Place → Reading Value
  | .json t => Reading.ofOption t.toValue?
  | .kept v => pure v
  | .yaml s => s.value false

/-- A value of any shape, in which anything may be tagged. -/
def taggedValue : Place → Reading Value
  | .json t => Reading.ofOption t.toValue?
  | .kept v => pure v
  | .yaml s => s.value true

/-- Passes over a value that nobody asks for. -/
def skip : Place → Reading Unit
  | .yaml s => s.skip
  | _ => pure ()

end Place
end DevnetChaos
