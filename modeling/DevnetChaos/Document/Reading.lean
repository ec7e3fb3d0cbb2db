/-!
# Readings

The result of reading a part of a document.  A reading may follow references, of which a document
allows only so many, and stops at the first thing that does not fit.

Main definitions:

- `DecodeFault`: why a part of a document does not fit.
- `Reading`: a reading under a number of references that may still be followed.
-/

namespace DevnetChaos

/-- Why a part of a document does not fit. -/
inductive DecodeFault where
  /-- A value of another shape than wanted. -/
  | shape
  /-- A duration whose segments add up beyond what a duration holds. -/
  | durationRange
  deriving DecidableEq, Repr

/-- A reading of a part of a document.  Its state is how many references may still be followed. -/
abbrev Reading (α : Type) := StateT Nat (Except DecodeFault) α

namespace Reading

variable {α : Type}

/-- A value of another shape than wanted. -/
def refuse : Reading α := throw .shape

/-- A value that is missing if it does not have the wanted shape. -/
def ofOption : Option α → Reading α
  | some a => pure a
  | none => refuse

/-- Follows a reference. -/
def follow : Reading Unit := do
  match ← get with
  | 0 => refuse
  | left + 1 => set left

end Reading
end DevnetChaos
