import DevnetChaos.Failure

/-!
# Network builds

The events a platform sends while it builds a network, and what is made of them.  Progress events
repeat the lines of earlier ones, so only lines not seen before are worth a log line.  The first
error or final event decides; whatever comes after it is not read.

Main definitions:

- `BuildEvent`, `TimedEvent`, `BuildStream`: what the platform sends, and when.
- `BuildReport`: what a successful build reported along the way.
- `BuildReading`: what is known after some events, and `BuildReading.read` for one more event.
- `BuildReading.readAll`: the decision on a whole list of events together with its log lines.
-/

namespace DevnetChaos

/-- One event of a network build. -/
inductive BuildEvent where
  /-- All lines of the steps taken so far. -/
  | progress (lines : List String)
  | info (message : String)
  | warning (message : String)
  | instruction (result : String)
  | error (message : String)
  | finished (successful : Bool) (output : String)
  deriving DecidableEq, Repr

/-- Whether an event is the last one of a build. -/
def BuildEvent.isFinal : BuildEvent → Bool
  | .finished .. => true
  | _ => false

/-- An event and the milliseconds between the previous event and it. -/
structure TimedEvent where
  delay : Nat
  event : BuildEvent
  deriving DecidableEq, Repr

/-- The events of one build. -/
structure BuildStream where
  events : List TimedEvent
  /-- Whether nothing tells the reader that no more events will come. -/
  staysOpen : Bool
  deriving DecidableEq, Repr

/-- Events that are all there at once, after which the stream ends. -/
def BuildStream.ofEvents (events : List BuildEvent) : BuildStream :=
  ⟨events.map fun e => ⟨0, e⟩, false⟩

/-! ## Log lines -/

/-- How serious a log line is. -/
inductive LogLevel where
  | info
  | warn
  | error
  deriving DecidableEq, Repr

/-- The word in front of a log line. -/
def LogLevel.name : LogLevel → String
  | .info => "INFO"
  | .warn => "WARN"
  | .error => "ERROR"

/-- A line of a log. -/
structure LogLine where
  level : LogLevel
  text : String
  deriving DecidableEq, Repr

/-- The mark in front of what the platform says. -/
def platformMark : String := "[orchestrator]"

namespace LogLine

/-- A line with what the platform said. -/
def said (level : LogLevel) (text : String) : LogLine := ⟨level, platformMark ++ " " ++ text⟩

/-- Whether a line begins with the mark of the platform.  Others may write such lines too. -/
def isMarked (l : LogLine) : Bool := platformMark.toList.isPrefixOf l.text.toList

/-- The line as it is printed. -/
def display (l : LogLine) : String := l.level.name ++ " " ++ l.text

end LogLine

/-! ## Reading events -/

/-- What a successful build reported along the way. -/
structure BuildReport where
  /-- The number of events up to the final one. -/
  events : Nat
  warnings : List String
  output : String
  deriving DecidableEq, Repr

/-- What is known after some events. -/
structure BuildReading where
  events : Nat
  warnings : List String
  /-- The number of progress lines logged so far. -/
  linesSeen : Nat
  deriving DecidableEq, Repr

/-- What one more event leads to. -/
inductive BuildStep where
  | more (reading : BuildReading)
  | decided (result : Except BuildFlaw BuildReport)

namespace BuildReading

/-- Nothing is known before the first event. -/
def start : BuildReading := ⟨0, [], 0⟩

/-- The log lines of one event. -/
def logLines (r : BuildReading) : BuildEvent → List LogLine
  | .progress lines => (lines.drop r.linesSeen).map (.said .info)
  | .info message => [.said .info message]
  | .warning message => [.said .warn message]
  | .instruction result => [.said .info result]
  | .error message => [.said .error message]
  | .finished true output => [.said .info output, .said .info "network genesis successful"]
  | .finished false output => [.said .info output, .said .error "network genesis failed"]

/-- Takes in one event.  The number of lines seen never goes back when a shorter list comes
late. -/
def read (r : BuildReading) (e : BuildEvent) : BuildStep :=
  let r := { r with events := r.events + 1 }
  match e with
  | .progress lines => .more { r with linesSeen := max r.linesSeen lines.length }
  | .info _ | .instruction _ => .more r
  | .warning message => .more { r with warnings := r.warnings ++ [message] }
  | .error message => .decided (.error (.errorReported message))
  | .finished true output => .decided (.ok ⟨r.events, r.warnings, output⟩)
  | .finished false output => .decided (.error (.unsuccessful output))

/-- Takes in a whole list of events, after which the stream ends. -/
def readAll : BuildReading → List BuildEvent → List LogLine × Except BuildFlaw BuildReport
  | _, [] => ([], .error .streamEnded)
  | r, e :: rest =>
      match r.read e with
      | .decided result => (r.logLines e, result)
      | .more next =>
          let (lines, result) := readAll next rest
          (r.logLines e ++ lines, result)

end BuildReading

/-- Whether a build with these events succeeds: the first error or final event decides. -/
def buildSucceeds : List BuildEvent → Bool
  | [] => false
  | .error _ :: _ => false
  | .finished successful _ :: _ => successful
  | _ :: rest => buildSucceeds rest

end DevnetChaos
