import DevnetChaos.Run.Call

/-!
# Watching a network build

A run that takes in the events of a build until they decide it, the run is cancelled, or the time
limit passes.  An event that comes exactly when the time limit passes still counts.

Main definitions:

- `TimeLeft`: a time limit and what is left of it.
- `BuildStream.watch`: the run that watches a build.
-/

namespace DevnetChaos

/-- A time limit and what is left of it. -/
structure TimeLeft where
  limit : Duration
  millis : Nat
  deriving DecidableEq, Repr

/-- All of a time limit. -/
def TimeLeft.ofLimit (limit : Duration) : TimeLeft := ⟨limit, limit.wholeMillis⟩

/-- What is cancelled while a build is watched. -/
def buildOperation : String := "network build"

/-- Waits while nothing happens; only cancellation and the time limit end the wait. -/
def awaitSilence : Option TimeLeft → Run BuildReport
  | none => do
      Run.awaitCancellation
      Run.fail (.cancelled buildOperation)
  | some time => do
      match ← Run.pause time.millis with
      | .cancelled => Run.fail (.cancelled buildOperation)
      | .elapsed => Run.fail (.buildFailed (.timedOut time.limit.limitText))

/-- Waits for an event that comes after some milliseconds. -/
def awaitEvent (delay : Nat) : Option TimeLeft → Run (Option TimeLeft)
  | none => do
      match ← Run.pause delay with
      | .cancelled => Run.fail (.cancelled buildOperation)
      | .elapsed => return none
  | some time => do
      match ← Run.pause (min delay time.millis) with
      | .cancelled => Run.fail (.cancelled buildOperation)
      | .elapsed =>
          if delay ≤ time.millis then return some { time with millis := time.millis - delay }
          else Run.fail (.buildFailed (.timedOut time.limit.limitText))

/-- Writes lines to the journal. -/
def noteLines : List LogLine → Run Unit
  | [] => pure ()
  | line :: rest => do
      Run.note (.line line)
      noteLines rest

/-- Watches the events that are still to come. -/
def watchEvents (staysOpen : Bool) : BuildReading → Option TimeLeft → List TimedEvent →
    Run BuildReport
  | _, time, [] =>
      if staysOpen then awaitSilence time else Run.fail (.buildFailed .streamEnded)
  | reading, time, e :: rest => do
      let time ← awaitEvent e.delay time
      noteLines (reading.logLines e.event)
      match reading.read e.event with
      | .more next => watchEvents staysOpen next time rest
      | .decided (.ok report) => return report
      | .decided (.error flaw) => Run.fail (.buildFailed flaw)

/-- Watches a build to its end. -/
def BuildStream.watch (stream : BuildStream) (limit : Option Duration) : Run BuildReport :=
  watchEvents stream.staysOpen .start (limit.map .ofLimit) stream.events

end DevnetChaos
