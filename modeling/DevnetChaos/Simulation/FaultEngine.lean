import DevnetChaos.Fault
import DevnetChaos.Platform

/-!
# A simulated fault platform

Every submission takes the next script, which says whether it is accepted and what its status is
from one question to the next.  Submissions beyond the scripts take the default script.

Main definitions:

- `SubmissionScript`: how one submission is treated.
- `FaultEngine`: scripts, submissions and the statuses still to be told.
- `FaultEngine.submit`, `FaultEngine.status`: the calls.
-/

namespace DevnetChaos

/-- How one submission is treated. -/
structure SubmissionScript where
  /-- The answers to questions about the submission; the last one repeats. -/
  statuses : List FaultStatus
  /-- Why the submission is refused, if it is. -/
  rejection : Option String
  /-- The phase that the selected pods take when the fault is submitted. -/
  podPhase : Option PodPhase
  deriving DecidableEq, Repr

namespace SubmissionScript

/-- Answers that are told one after another. -/
def ofStatuses (statuses : List FaultStatus) : SubmissionScript := ⟨statuses, none, none⟩

/-- Complete at the first question. -/
def completes : SubmissionScript := ofStatuses [.complete]

/-- Complete after some questions. -/
def pendingFor (polls : Nat) : SubmissionScript :=
  ofStatuses (List.replicate polls .pending ++ [.complete])

/-- Never complete. -/
def neverCompletes : SubmissionScript := ofStatuses [.pending]

/-- An error at the first question. -/
def errors (reason : String) : SubmissionScript := ofStatuses [.error reason]

/-- A refused submission. -/
def rejected (reason : String) : SubmissionScript := { completes with rejection := some reason }

end SubmissionScript

/-- A submission as it was received. -/
structure Submission where
  /-- Missing if the submission was refused. -/
  handle : Option FaultHandle
  fault : Fault
  deriving DecidableEq, Repr

/-- A simulated fault platform. -/
structure FaultEngine where
  scripts : List SubmissionScript
  defaultScript : SubmissionScript
  submissions : List Submission
  /-- The answers still to be told about each accepted submission, by handle. -/
  running : TextMap (List FaultStatus)
  statusQueries : Nat
  reachable : Bool
  deriving DecidableEq, Repr

namespace FaultEngine

/-- A platform that was asked nothing yet. -/
def empty : FaultEngine := ⟨[], .completes, [], .empty, 0, true⟩

/-- The name of the platform in failures. -/
def platform : String := "fault-injection"

/-- The failure of a call to a platform that cannot be reached. -/
def unreachable : Failure := .ofPlatform platform "connection refused"

/-- The accepted submissions, in order. -/
def accepted (e : FaultEngine) : List Submission := e.submissions.filter (·.handle.isSome)

/-- The faults of the accepted submissions, in order. -/
def submittedFaults (e : FaultEngine) : List Fault := e.accepted.map (·.fault)

/-- The handle of the next accepted submission: accepted submissions are counted from one. -/
def nextHandle (e : FaultEngine) (fault : Fault) : FaultHandle :=
  ⟨fault.kind ++ "-#" ++ toString (e.accepted.length + 1)⟩

/-- Adds a script for a submission to come. -/
def addScript (e : FaultEngine) (script : SubmissionScript) : FaultEngine :=
  { e with scripts := e.scripts ++ [script] }

/-- Takes the next script. -/
def nextScript (e : FaultEngine) : SubmissionScript × FaultEngine :=
  match e.scripts with
  | script :: rest => (script, { e with scripts := rest })
  | [] => (e.defaultScript, e)

/-- Records a submission. -/
def record (e : FaultEngine) (handle : Option FaultHandle) (fault : Fault) : FaultEngine :=
  { e with submissions := e.submissions ++ [⟨handle, fault⟩] }

/-- Receives a fault, which gets the given handle unless it is refused.  Gives back the handle and
the phase its pods take. -/
def submitAs (e : FaultEngine) (handle : FaultHandle) (fault : Fault) :
    Except Failure (FaultHandle × Option PodPhase) × FaultEngine :=
  if !e.reachable then (.error unreachable, e)
  else
    let (script, e) := e.nextScript
    match script.rejection with
    | some reason => (.error (.ofPlatform platform reason), e.record none fault)
    | none =>
        let e := e.record (some handle) fault
        (.ok (handle, script.podPhase),
          { e with running := e.running.insert handle.text script.statuses })

/-- Receives a fault under the next handle. -/
def submit (e : FaultEngine) (fault : Fault) :
    Except Failure (FaultHandle × Option PodPhase) × FaultEngine :=
  e.submitAs (e.nextHandle fault) fault

/-- The next of some answers and those after it; the last one repeats, and without any the fault is
complete. -/
def nextStatus : List FaultStatus → FaultStatus × List FaultStatus
  | [] => (.complete, [])
  | [status] => (status, [status])
  | status :: rest => (status, rest)

/-- The failure of a question about a fault that is not known. -/
def unknownFault (name : String) : Failure := .ofPlatform platform ("unknown fault " ++ name)

/-- Answers a question. -/
def answer (e : FaultEngine) (reply : FaultEngine → Except Failure FaultStatus × FaultEngine) :
    Except Failure FaultStatus × FaultEngine :=
  if !e.reachable then (.error unreachable, e)
  else reply { e with statusQueries := e.statusQueries + 1 }

/-- Answers a question about a submission. -/
def status (e : FaultEngine) (handle : FaultHandle) : Except Failure FaultStatus × FaultEngine :=
  e.answer fun e =>
    match e.running.get? handle.text with
    | none => (.error (unknownFault handle.text), e)
    | some statuses =>
        let (answer, rest) := nextStatus statuses
        (.ok answer, { e with running := e.running.insert handle.text rest })

/-- Answers a question about a name that the platform did not give out. -/
def statusOfStranger (e : FaultEngine) (name : String) :
    Except Failure FaultStatus × FaultEngine :=
  e.answer fun e => (.error (unknownFault name), e)

end FaultEngine
end DevnetChaos
