import DevnetChaos.Duration

/-!
# Reading input

The result of reading input that may hold durations.  A text that is no duration is refused like
any other bad input; one whose segments add up beyond what a duration holds stops the program, and
is kept apart from all refusals.
-/

namespace DevnetChaos

/-- Why input could not be read. -/
inductive InputFault where
  | refused (failure : Failure)
  /-- A duration whose segments add up beyond what a duration holds. -/
  | durationRange
  deriving DecidableEq, Repr

/-- The result of reading input. -/
abbrev Input (α : Type) := Except InputFault α

namespace Input

variable {α : Type}

/-- A refusal of bad input. -/
def refuse (cause : Misconfiguration) : Input α := .error (.refused (.configuration cause))

/-- A step that fails as everywhere else. -/
def ofExcept : Except Failure α → Input α
  | .ok a => .ok a
  | .error failure => .error (.refused failure)

/-- Reads a duration; the refusal quotes the text. -/
def duration (s : String) : Input Duration :=
  match Duration.read s with
  | .ok d => .ok d
  | .error .malformed => refuse (.badDuration s)
  | .error .overflow => .error .durationRange

end Input
end DevnetChaos
