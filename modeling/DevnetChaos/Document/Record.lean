import DevnetChaos.Document.Decoder

/-!
# Reading records

A record is read field by field in the order of the document, so that the first thing that does not
fit decides.  It grows from a start in which every field that may be left out has the value it has
then, and what the start holds for other fields is never seen.

Main definitions:

- `Field`: a field and what it does to the record.
- `Field.required`, `Field.withDefault`, `Field.optional`: the kinds of fields.
- `Decoder.record`: the reader of a record.
-/

namespace DevnetChaos

/-- A field of a record. -/
structure Field (ρ : Type) where
  name : String
  /-- Whether it has to be given. -/
  isRequired : Bool
  /-- Reads its value into the record. -/
  read : ρ → Decoder ρ

namespace Field

variable {ρ α : Type}

/-- A field that has to be given. -/
def required (name : String) (d : Decoder α) (set : ρ → α → ρ) : Field ρ where
  name := name
  isRequired := true
  read := fun r p => do return set r (← d p)

/-- A field that keeps the value of the start where it is left out. -/
def withDefault (name : String) (d : Decoder α) (set : ρ → α → ρ) : Field ρ where
  name := name
  isRequired := false
  read := fun r p => do return set r (← d p)

/-- A field that may be absent, which it is where it is left out. -/
def optional (name : String) (d : Decoder α) (set : ρ → Option α → ρ) : Field ρ :=
  withDefault name (Decoder.option d) set

end Field

namespace Record

variable {ρ : Type}

/-- The field that an identifier names. -/
def fieldOf? (fields : List (Field ρ)) (id : Identifier) : Option (Field ρ) :=
  id.find? (fields.map fun f => (f.name, f))

/-- Whether every field that has to be given is among those that were. -/
def isComplete (fields : List (Field ρ)) (given : List String) : Bool :=
  fields.all fun f => !f.isRequired || given.contains f.name

/-- Reads the fields of a map.  Entries that name no field are passed over, and a field given twice
is refused. -/
def readEntries (fields : List (Field ρ)) : List String → ρ → List (Place × Place) → Reading ρ
  | given, r, [] => if isComplete fields given then return r else Reading.refuse
  | given, r, (key, p) :: rest => do
      match fieldOf? fields (← key.identifier) with
      | none =>
          p.skip
          readEntries fields given r rest
      | some f =>
          if given.contains f.name then Reading.refuse
          readEntries fields (f.name :: given) (← f.read r p) rest

/-- Reads the fields of a list, which gives them in order. -/
def readItems : List (Field ρ) → ρ → List Place → Reading ρ
  | [], r, [] => return r
  | f :: fields, r, [] => if f.isRequired then Reading.refuse else readItems fields r []
  | [], _, _ :: _ => Reading.refuse
  | f :: fields, r, p :: rest => do readItems fields (← f.read r p) rest

end Record

/-- A record with the given fields, which grows from `start`. -/
def Decoder.record {ρ : Type} (start : ρ) (fields : List (Field ρ)) : Decoder ρ := fun p => do
  match ← p.fieldParts with
  | .entries places => Record.readEntries fields [] start places
  | .items places => Record.readItems fields start places

end DevnetChaos
