import DevnetChaos.Document.Place
import DevnetChaos.Duration
import DevnetChaos.TextMap
import DevnetChaos.Word

/-!
# Reading documents

Readers for the values that documents are made of: texts, numbers, durations, lists and maps.  The
same readers serve every kind of document.

Main definitions:

- `Decoder`: a reader of places.
- `Decoder.text`, `bool`, `unsigned`, `float`, `duration`: the readers of scalars.
- `Decoder.option`, `list`, `triple`, `textMap`: the readers of what is put together.
-/

namespace DevnetChaos

/-- A reader of places. -/
abbrev Decoder (α : Type) := Place → Reading α

namespace Decoder

variable {α β γ : Type}

/-! ## Scalars -/

/-- A text. -/
def text : Decoder String := Place.text

/-- A truth value. -/
def bool : Decoder Bool := Place.bool

/-- A natural number below the given bound. -/
def unsigned (bound : Nat) : Decoder Nat := fun p => do
  let n ← p.natural
  if n < bound then return n else Reading.refuse

/-- An index or a count. -/
def index : Decoder Nat := unsigned wordCount

/-- A number of 8 bits. -/
def byte : Decoder UInt8 := fun p => do return UInt8.ofNat (← unsigned 256 p)

/-- A number of 32 bits. -/
def word32 : Decoder UInt32 := fun p => do return UInt32.ofNat (← unsigned 4294967296 p)

/-- A number of 64 bits. -/
def word64 : Decoder UInt64 := fun p => do return UInt64.ofNat (← unsigned wordCount p)

/-- A fraction, which may be written as an integer. -/
def float : Decoder Float := Place.float

/-- A duration, written as text. -/
def duration : Decoder Duration := fun p => do
  match Duration.read (← p.text) with
  | .ok d => return d
  | .error .malformed => throw .shape
  | .error .overflow => throw .durationRange

/-! ## What is put together -/

/-- A value that may be absent. -/
def option (d : Decoder α) : Decoder (Option α) := fun p => do
  match ← p.present? with
  | none => return none
  | some p => return some (← d p)

/-- A list. -/
def list (d : Decoder α) : Decoder (List α) := fun p => do (← p.items).mapM d

/-- A list of three values. -/
def triple (a : Decoder α) (b : Decoder β) (c : Decoder γ) : Decoder (α × β × γ) := fun p => do
  match ← p.items with
  | [x, y, z] => return (← a x, ← b y, ← c z)
  | _ => Reading.refuse

/-- The entries of a map whose keys are texts. -/
def entry (d : Decoder α) : Place × Place → Reading (String × α) := fun (key, p) => do
  return (← key.text, ← d p)

/-- A map; of two entries with one key the later counts. -/
def textMap (d : Decoder α) : Decoder (TextMap α) := fun p => do
  return .ofList (← (← p.entries).mapM (entry d))

end Decoder
end DevnetChaos
