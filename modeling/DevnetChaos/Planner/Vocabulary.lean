import DevnetChaos.Failure
import DevnetChaos.Word

/-!
# Words of the planner

The closed vocabularies in which a planner document names the fault, what it is aimed at and how
many nodes are attacked.

Main definitions:

- `FaultType`, `Targeting`, `AttackSize`.
- `wordOf`: the reading of a word, with a failure that lists the supported ones.
- `AttackSize.nodeCount`: how many of a number of nodes are attacked.
-/

namespace DevnetChaos

/-- The value named by a word, or the failure that lists the words of the vocabulary. -/
def wordOf {α : Type} (vocabulary : String) (all : List α) (name : α → String) (s : String) :
    Except Failure α :=
  match all.find? fun a => name a == s with
  | some a => .ok a
  | none => .error (.configuration (.unsupportedWord vocabulary s (all.map name)))

/-! ## Fault types -/

/-- The faults a planner document can ask for. -/
inductive FaultType where
  | clockSkew
  | restartFailures
  | ioLatency
  | networkLatency
  | packetDrop
  deriving DecidableEq, Repr

namespace FaultType

/-- Every fault type. -/
def all : List FaultType := [clockSkew, restartFailures, ioLatency, networkLatency, packetDrop]

/-- The word for a fault type. -/
def name : FaultType → String
  | clockSkew => "ClockSkew"
  | restartFailures => "RestartFailures"
  | ioLatency => "IOLatency"
  | networkLatency => "NetworkLatency"
  | packetDrop => "PacketDrop"

/-- The fault type of a word. -/
def ofName (s : String) : Except Failure FaultType := wordOf "fault type" all name s

end FaultType

/-! ## Targeting -/

/-- What is hit on a chosen node. -/
inductive Targeting where
  /-- Every service of the node. -/
  | matchingNode
  /-- Only the services of the target client. -/
  | matchingClient
  deriving DecidableEq, Repr

namespace Targeting

/-- Every way of targeting. -/
def all : List Targeting := [matchingNode, matchingClient]

/-- The word for a way of targeting. -/
def name : Targeting → String
  | matchingNode => "MatchingNode"
  | matchingClient => "MatchingClient"

/-- The way of targeting of a word. -/
def ofName (s : String) : Except Failure Targeting := wordOf "fault targeting dimension" all name s

end Targeting

/-! ## Attack sizes -/

/-- How many of the nodes that run the target client are attacked. -/
inductive AttackSize where
  | one
  | minority
  | superminority
  | majority
  | supermajority
  | all
  deriving DecidableEq, Repr

namespace AttackSize

/-- Every attack size. -/
def sizes : List AttackSize := [one, minority, superminority, majority, supermajority, all]

/-- The word for an attack size. -/
def name : AttackSize → String
  | one => "AttackOneMatching"
  | minority => "AttackMinorityMatching"
  | superminority => "AttackSuperminorityMatching"
  | majority => "AttackMajorityMatching"
  | supermajority => "AttackSupermajorityMatching"
  | all => "AttackAllMatching"

/-- The attack size of a word. -/
def ofName (s : String) : Except Failure AttackSize :=
  wordOf "attack size dimension" sizes name s

/-- The smallest number of which three times are at least `n`. -/
def thirdUp (n : Nat) : Nat := (n + 2) / 3

/-- The only candidate for a count of attacked nodes. -/
def candidate (size : AttackSize) (n : Nat) : Nat :=
  match size with
  | one => 1
  | minority => thirdUp n - 1
  | superminority => thirdUp n
  | majority => n / 2 + 1
  | supermajority => thirdUp (wrap64 (2 * n))
  | all => n

/-- Whether a count lies in the band of a size: below a third, from a third to below a half, above
a half to below two thirds, from two thirds to below all.  Multiples are taken in 64-bit words. -/
def inBand (size : AttackSize) (n k : Nat) : Bool :=
  match size with
  | one | all => true
  | minority => 1 ≤ k && wrap64 (3 * k) < n
  | superminority => n ≤ wrap64 (3 * k) && wrap64 (2 * k) < n
  | majority => n < wrap64 (2 * k) && wrap64 (3 * k) < wrap64 (2 * n)
  | supermajority => wrap64 (2 * n) ≤ wrap64 (3 * k) && k < n

/-- How many of `n` nodes are attacked, if a count satisfies the bounds of the size. -/
def nodeCount (size : AttackSize) (n : Nat) : Option Nat :=
  if n = 0 then none
  else
    let k := size.candidate n
    if size.inBand n k && k ≤ n then some k else none

end AttackSize
end DevnetChaos
