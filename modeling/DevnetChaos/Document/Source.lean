import DevnetChaos.Document.Decoder
import DevnetChaos.Document.Json.Reader
import DevnetChaos.Document.Yaml.Reader
import DevnetChaos.Input

/-!
# Documents as input

Reading a value from a tree or from the text of a document.  Whatever is wrong with a document,
its reader is told no more than in which notation it was given.

Main definitions:

- `Decoder.run`: the value at a place.
- `Decoder.ofValue`, `ofYaml`, `ofJson`: the value of a tree, of a YAML text and of a JSON text.
-/

namespace DevnetChaos

/-- The input that a faulty document stands for: a failure of its notation, unless a duration stops
everything. -/
def DecodeFault.toInput {α : Type} (failure : Failure) : DecodeFault → Input α
  | .shape => .error (.refused failure)
  | .durationRange => .error .durationRange

namespace Decoder

variable {α : Type}

/-- The value at a place, where at most `patience` references may be followed. -/
def run (d : Decoder α) (p : Place) (patience : Nat) : Except DecodeFault α :=
  (d p patience).map Prod.fst

/-- Reads a value from a tree that was given as JSON. -/
def ofValue (d : Decoder α) (t : Tree) : Input α :=
  match d.run (.json t) 0 with
  | .ok a => .ok a
  | .error fault => fault.toInput .malformedValue

/-- Reads a value from a JSON text. -/
def ofJson (d : Decoder α) (s : String) : Input α :=
  match Json.parse? s with
  | some t => d.ofValue t
  | none => .error (.refused .malformedValue)

/-- Reads a value from a YAML text.  What follows the document is only looked at after the document
was read. -/
def ofYaml (d : Decoder α) (s : String) : Input α :=
  let document := Yaml.Document.ofText s
  match d.run (.yaml document.spot) document.patience with
  | .ok a => if document.isLast then .ok a else .error (.refused .malformedDocument)
  | .error fault => fault.toInput .malformedDocument

end Decoder

/-- Reads a value from a YAML file, whose text is missing if the file is. -/
def readStored {α : Type} (read : String → Input α) : Option String → Input α
  | some text => read text
  | none => .error (.refused .fileAccess)

end DevnetChaos
