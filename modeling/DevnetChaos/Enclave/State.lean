import DevnetChaos.Duration

/-!
# Enclaves

The states an enclave is found in, what preparing one can come to, and the notifications about
it.

Main definitions:

- `EnclaveState`: what is found when the enclave is looked at.
- `Preparation`: what was done to make the enclave ready.
- `Notification`: one step of the life of an enclave, published after it happened.
- `EnclaveSettings`: the name of the enclave and the time limits.
-/

namespace DevnetChaos

/-- What is found when an enclave is looked at. -/
inductive EnclaveState where
  | absent
  /-- The enclave exists but runs no service of a node. -/
  | empty
  | runningMatch
  | runningMismatch
  deriving DecidableEq, Repr

/-- The word for a state in notifications. -/
def EnclaveState.name : EnclaveState → String
  | .absent => "not-exist"
  | .empty => "exists-empty"
  | .runningMatch => "exists-running-match"
  | .runningMismatch => "exists-running-mismatch"

/-- What was done to make an enclave ready. -/
inductive Preparation where
  /-- A running devnet of the declared shape is used as it is. -/
  | attached
  /-- The network was built in an enclave without one. -/
  | builtInExisting
  | created
  /-- The enclave was destroyed and made anew. -/
  | restarted
  deriving DecidableEq, Repr

/-- The word for what was done. -/
def Preparation.name : Preparation → String
  | .attached => "Attached"
  | .builtInExisting => "BuiltInExisting"
  | .created => "Created"
  | .restarted => "Restarted"

/-- One step of the life of an enclave. -/
inductive Notification where
  | stateObserved (enclave : String) (state : EnclaveState)
  | destroyed (enclave : String)
  /-- The time the platform needs after a destruction has passed. -/
  | settled (enclave : String)
  | created (enclave : String)
  | built (enclave : String) (nodes : Nat)
  | attached (enclave : String)
  deriving DecidableEq, Repr

/-- How one enclave is managed. -/
structure EnclaveSettings where
  enclave : String
  /-- Time to wait after a destruction before the next call. -/
  settleDelay : Duration
  /-- The longest a network build may take. -/
  buildLimit : Option Duration
  /-- How many notifications are kept for a reader. -/
  notificationCapacity : Nat
  deriving DecidableEq, Repr

namespace EnclaveSettings

/-- The usual settings for an enclave.  A platform goes on tearing down for a while after it has
answered, hence the long delay. -/
def standard (enclave : String) : EnclaveSettings where
  enclave := enclave
  settleDelay := .ofSeconds 60
  buildLimit := none
  notificationCapacity := 64

/-- The usual name of an enclave. -/
def standardName : String := "chaosnet-devnet"

end EnclaveSettings
end DevnetChaos
