import DevnetChaos.Artifact
import DevnetChaos.Enclave.State
import DevnetChaos.Fault
import DevnetChaos.Network
import DevnetChaos.Platform
import DevnetChaos.Run.Journal

/-!
# Runs

Nothing here creates enclaves, submits faults or lists pods.  A run is a tree of calls to the
systems around it: it names a call and says how it goes on for each answer.  Whatever answers the
calls is an environment, which may keep a state of its own, and may leave a call without an answer
when a wait takes too long.

Main definitions:

- `Call`, `Call.Answer`: everything a run can ask for, and what it may be told.
- `Run`: a tree of calls that ends in an outcome.
- `Environment`, `Run.execute`: whatever answers, and the outcome under it.

Main results:

- `execute_bind`: a run in two parts is executed part by part.
-/

namespace DevnetChaos

/-! ## Calls -/

/-- How a wait ended. -/
inductive WaitEnd where
  | elapsed
  | cancelled
  deriving DecidableEq, Repr

/-- Everything a run can ask for: of the platform that hosts enclaves, of the fault platform, of
the cluster, of the store of artifacts, of the clock, and of those who are told what happens. -/
inductive Call where
  | enclaveExists (enclave : String)
  | createEnclave (enclave : String)
  /-- Answered before the platform is done with tearing down. -/
  | destroyEnclave (enclave : String)
  /-- The names of all services, those of nodes and others. -/
  | runningServices (enclave : String)
  | buildNetwork (enclave : String) (network : NetworkConfig)
  | submitFault (fault : Fault)
  | faultStatus (handle : FaultHandle)
  | podsLabelled (key value : String)
  | pod (name : String)
  | persist (artifacts : List Artifact)
  /-- The time in milliseconds. -/
  | now
  /-- Waits for some milliseconds unless the run is cancelled; a cancelled run does not wait. -/
  | pause (millis : Nat)
  | awaitCancellation
  | note (entry : JournalEntry)
  | publish (notification : Notification)
  deriving DecidableEq, Repr

/-- What a run may be told. -/
def Call.Answer : Call → Type
  | enclaveExists _ => Except Failure Bool
  | createEnclave _ => Except Failure Unit
  | destroyEnclave _ => Except Failure Unit
  | runningServices _ => Except Failure (List String)
  | buildNetwork .. => Except Failure BuildStream
  | submitFault _ => Except Failure FaultHandle
  | faultStatus _ => Except Failure FaultStatus
  | podsLabelled .. => Except Failure (List String)
  | pod _ => Except Failure (Option PodInfo)
  | persist _ => Except Failure Unit
  | now => Nat
  | pause _ => WaitEnd
  | awaitCancellation => Unit
  | note _ => Unit
  | publish _ => Unit

/-! ## Trees of calls -/

/-- How a run ends. -/
inductive Outcome (α : Type) where
  | done (value : α)
  | failed (failure : Failure)
  /-- The run was left while it was waiting. -/
  | abandoned
  deriving DecidableEq, Repr

/-- A run: an outcome, or a call with a way to go on for each answer. -/
inductive Run (α : Type) where
  | ended (outcome : Outcome α)
  | call (call : Call) (next : call.Answer → Run α)

namespace Run

variable {α β σ : Type}

/-- A run that ends with a failure. -/
def fail (failure : Failure) : Run α := .ended (.failed failure)

/-- A run that is left. -/
def abandon : Run α := .ended .abandoned

/-- A run that ends as a computation did. -/
def ofExcept : Except Failure α → Run α
  | .ok a => .ended (.done a)
  | .error failure => fail failure

/-- Goes on with the value of a run; a run without a value ends the whole. -/
protected def bind (f : α → Run β) : Run α → Run β
  | ended (.done a) => f a
  | ended (.failed failure) => ended (.failed failure)
  | ended .abandoned => ended .abandoned
  | call c next => call c fun answer => (next answer).bind f

instance : Monad Run where
  pure a := .ended (.done a)
  bind r f := r.bind f

/-- Goes on after a failure as well. -/
def attempt : Run α → Run (Except Failure α)
  | ended (.done a) => ended (.done (.ok a))
  | ended (.failed failure) => ended (.done (.error failure))
  | ended .abandoned => ended .abandoned
  | call c next => call c fun answer => (next answer).attempt

@[simp] theorem pure_bind (a : α) (f : α → Run β) : (pure a >>= f : Run β) = f a := rfl

@[simp] theorem fail_bind (failure : Failure) (f : α → Run β) :
    (fail failure >>= f : Run β) = fail failure := rfl

@[simp] theorem call_bind (c : Call) (next : c.Answer → Run α) (f : α → Run β) :
    (call c next >>= f : Run β) = call c fun answer => next answer >>= f := rfl

/-! ## The single calls -/

def enclaveExists (enclave : String) : Run Bool := .call (.enclaveExists enclave) ofExcept

def createEnclave (enclave : String) : Run Unit := .call (.createEnclave enclave) ofExcept

def destroyEnclave (enclave : String) : Run Unit := .call (.destroyEnclave enclave) ofExcept

def runningServices (enclave : String) : Run (List String) :=
  .call (.runningServices enclave) ofExcept

def buildNetwork (enclave : String) (network : NetworkConfig) : Run BuildStream :=
  .call (.buildNetwork enclave network) ofExcept

def submitFault (fault : Fault) : Run FaultHandle := .call (.submitFault fault) ofExcept

def faultStatus (handle : FaultHandle) : Run FaultStatus := .call (.faultStatus handle) ofExcept

def podsLabelled (key value : String) : Run (List String) :=
  .call (.podsLabelled key value) ofExcept

def pod? (name : String) : Run (Option PodInfo) := .call (.pod name) ofExcept

def persist (artifacts : List Artifact) : Run Unit := .call (.persist artifacts) ofExcept

def now : Run Nat := .call .now fun time => .ended (.done time)

def pause (millis : Nat) : Run WaitEnd := .call (.pause millis) fun e => .ended (.done e)

def awaitCancellation : Run Unit := .call .awaitCancellation fun _ => .ended (.done ())

def note (entry : JournalEntry) : Run Unit := .call (.note entry) fun _ => .ended (.done ())

def publish (notification : Notification) : Run Unit :=
  .call (.publish notification) fun _ => .ended (.done ())

/-- Waits for some milliseconds, and fails if the run is cancelled before they have passed. -/
def sleepMillis (millis : Nat) (operation : String) : Run Unit := do
  match ← pause millis with
  | .elapsed => return ()
  | .cancelled => fail (.cancelled operation)

/-- Waits, and fails if the run is cancelled before the time has passed. -/
def sleep (duration : Duration) (operation : String) : Run Unit :=
  sleepMillis duration.wholeMillis operation

end Run

/-! ## Execution -/

/-- Whatever answers calls.  A call without an answer ends the run. -/
abbrev Environment (σ : Type) := (c : Call) → σ → Option c.Answer × σ

/-- The outcome of a run under an environment that starts in a state. -/
def Run.execute {α σ : Type} (env : Environment σ) : Run α → σ → Outcome α × σ
  | ended outcome, s => (outcome, s)
  | call c next, s =>
      match env c s with
      | (some answer, s) => (next answer).execute env s
      | (none, s) => (.abandoned, s)

/-- Execution in two parts. -/
theorem Run.execute_bind {α β σ : Type} (env : Environment σ) (r : Run α) (f : α → Run β) (s : σ) :
    (r >>= f).execute env s =
      match r.execute env s with
      | (.done a, s) => (f a).execute env s
      | (.failed failure, s) => (.failed failure, s)
      | (.abandoned, s) => (.abandoned, s) := by
  induction r generalizing s with
  | ended outcome => cases outcome <;> rfl
  | call c next ih =>
    rw [Run.call_bind, Run.execute, Run.execute]
    split
    · next h => exact ih _ _
    · next h => rfl

end DevnetChaos
