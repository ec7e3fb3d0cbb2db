import DevnetChaos.Document.Record

/-!
# Reading alternatives

An alternative is a name, perhaps with a value: a text, or a map with one entry.  A record may also
name its alternative in one of its own entries; then nothing else in it can be read before the name
is known, so the rest is kept as it means by itself.

Main definitions:

- `Variant`, `Decoder.variant`: an alternative, and the reader of one of several.
- `Decoder.word`: a word of a closed vocabulary.
- `Decoder.sided`: a word of either of two vocabularies.
- `Decoder.tagged`: a record that names its alternative.
-/

namespace DevnetChaos

/-- An alternative. -/
inductive Variant (α : Type) where
  /-- One that carries nothing. -/
  | alone (value : α)
  | carrying (d : Decoder α)

namespace Decoder

variable {α β : Type}

/-- One of several named alternatives. -/
def variant (named : List (String × Variant α)) : Decoder α := fun p => do
  let (id, carried) ← p.choice
  match id.find? named, carried with
  | some (.alone a), none => return a
  | some (.alone a), some p => do
      p.unit
      return a
  | some (.carrying d), some p => d p
  | some (.carrying _), none => Reading.refuse
  | none, _ => Reading.refuse

/-- What a record has to be where it goes with an alternative: in JSON its fields have names. -/
def carriedRecord (d : Decoder α) : Decoder α
  | .json (.list _) => Reading.refuse
  | p => d p

/-- A vocabulary by the names of its words. -/
def vocabulary (words : List α) (name : α → String) : List (String × α) :=
  words.map fun a => (name a, a)

/-- A word of a closed vocabulary. -/
def word (words : List α) (name : α → String) : Decoder α :=
  variant ((vocabulary words name).map fun (name, a) => (name, .alone a))

/-- The identifier of a kept word: it stands alone or goes with null. -/
def keptWord? : Value → Option Identifier
  | .text name => some (.name name)
  | .map [(.text name, .null)] => some (.name name)
  | .map [(.nat n, .null)] => some (.index n)
  | _ => none

/-- A word of the first of two vocabularies that has it. -/
def sided (first : List (String × α)) (second : List (String × β)) : Decoder (α ⊕ β) := fun p => do
  let id ← Reading.ofOption (keptWord? (← p.value))
  match id.find? first, id.find? second with
  | some a, _ => return .inl a
  | none, some b => return .inr b
  | none, none => Reading.refuse

/-! ## Records that name their alternative -/

/-- Reads entries of which one, under the given key, names the alternative.  Gives back that name
and the other entries. -/
def splitEntries (key : String) : Option Identifier → List (Value × Value) → List (Place × Place) →
    Reading (Identifier × Value)
  | none, _, [] => Reading.refuse
  | some id, kept, [] => return (id, .map kept.reverse)
  | id?, kept, (k, p) :: rest => do
      match ← k.value with
      | .text name =>
          if name = key then
            if id?.isSome then Reading.refuse
            splitEntries key (some (← p.identifier)) kept rest
          else splitEntries key id? ((.text name, ← p.value) :: kept) rest
      | k => splitEntries key id? ((k, ← p.value) :: kept) rest

/-- The name of the alternative of a record, and the rest of the record.  In a list the name comes
first. -/
def splitRecord (key : String) : Decoder (Identifier × Value) := fun p => do
  match ← p.parts with
  | .entries places => splitEntries key none [] places
  | .items (first :: rest) => return (← first.identifier, .list (← rest.mapM Place.value))
  | .items [] => Reading.refuse

/-- A record that names its alternative under a key. -/
def tagged (key : String) (named : List (String × Decoder α)) : Decoder α := fun p => do
  let (id, rest) ← splitRecord key p
  match id.find? named with
  | some d => d (.kept rest)
  | none => Reading.refuse

end Decoder
end DevnetChaos
