import DevnetChaos.Build
import DevnetChaos.Run.TestState

/-!
# The journal of a run

What a run writes down while it goes on: the lines of network builds, the descriptions of the steps
that tests take, and the state changes of tests.
-/

namespace DevnetChaos

/-- An entry of the journal. -/
inductive JournalEntry where
  | line (l : LogLine)
  | testState (test : String) (before : TestState) (after : TestState)
  deriving DecidableEq, Repr

namespace JournalEntry

/-- The entry for a step of a test. -/
def step (description : String) : JournalEntry := .line ⟨.info, description⟩

/-- The line of an entry that has the mark of the platform. -/
def markedLine? : JournalEntry → Option LogLine
  | .line l => if l.isMarked then some l else none
  | .testState .. => none

end JournalEntry

/-- The lines among entries that have the mark of the platform. -/
def markedLines (entries : List JournalEntry) : List LogLine :=
  entries.filterMap JournalEntry.markedLine?

end DevnetChaos
