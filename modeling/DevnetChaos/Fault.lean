import DevnetChaos.Duration
import DevnetChaos.Selector

/-!
# Faults and tests

The faults that can be injected, the steps of a test and the test itself.

Main definitions:

- `Fault`: one of five kinds with its parameters.
- `Fault.validate`: refuses a selector that the kind cannot express.
- `PlanStep`, `HealthConfig`, `SuiteTest`: what one test does and how it is judged.
- `SuiteTest.validate`: the check before anything is submitted.
-/

namespace DevnetChaos

/-- The direction in which packets are dropped. -/
inductive PacketDirection where
  | toTarget
  | fromTarget
  | both
  deriving DecidableEq, Repr

namespace PacketDirection

/-- Every direction. -/
def all : List PacketDirection := [toTarget, fromTarget, both]

/-- The word used in documents. -/
def name : PacketDirection → String
  | toTarget => "to"
  | fromTarget => "from"
  | both => "both"

/-- The direction of a word. -/
def ofName? (s : String) : Option PacketDirection := all.find? fun d => d.name == s

/-- The direction of a word, or the failure that names it. -/
def ofName (s : String) : Except Failure PacketDirection :=
  match ofName? s with
  | some d => .ok d
  | none => .error (.configuration (.badDirection s))

theorem ofName?_name (d : PacketDirection) : ofName? d.name = some d := by
  cases d <;> rfl

end PacketDirection

/-- A fault with the pods it hits and its parameters. -/
inductive Fault where
  /-- Shifts the clock by a signed offset such as `-5m`. -/
  | clockSkew (selector : List Requirement) (skew : String) (duration : Duration)
  | podRestart (selector : List Requirement)
  /-- Delays a share of the accesses to one volume. -/
  | ioLatency (selector : List Requirement) (volumePath : String) (delay : Duration)
      (percent : UInt8) (duration : Duration)
  | networkLatency (selector : List Requirement) (delay : Duration) (jitter : Duration)
      (correlation : UInt8) (duration : Duration)
  | packetDrop (selector : List Requirement) (percent : UInt8) (direction : PacketDirection)
      (duration : Duration)
  deriving DecidableEq, Repr

namespace Fault

/-- The name of the kind. -/
def kind : Fault → String
  | clockSkew .. => "clock-skew"
  | podRestart .. => "pod-restart"
  | ioLatency .. => "io-latency"
  | networkLatency .. => "network-latency"
  | packetDrop .. => "packet-drop"

/-- The pods that are hit. -/
def selector : Fault → List Requirement
  | clockSkew selector .. => selector
  | podRestart selector => selector
  | ioLatency selector .. => selector
  | networkLatency selector .. => selector
  | packetDrop selector .. => selector

/-- Whether the pods that are hit are expected to die. -/
def expectsDeath : Fault → Bool
  | podRestart _ => true
  | _ => false

/-- Refuses a selector that the kind cannot express: every kind needs one, and I/O latency needs
its pods by name. -/
def validate (fault : Fault) : Except Failure Unit :=
  match fault with
  | ioLatency selector .. => ensureServiceIds "I/O latency" selector
  | other =>
      if other.selector.isEmpty then .error (.unsupportedSelector (.missing other.kind))
      else .ok ()

end Fault

/-- One instruction of a test. -/
inductive PlanStep where
  | injectFault (description : String) (fault : Fault)
  | awaitFaults (description : String)
  | awaitDuration (description : String) (duration : Duration)
  deriving DecidableEq, Repr

namespace PlanStep

/-- The description for people. -/
def description : PlanStep → String
  | injectFault description _ => description
  | awaitFaults description => description
  | awaitDuration description _ => description

/-- The fault of an injection. -/
def fault? : PlanStep → Option Fault
  | injectFault _ fault => some fault
  | _ => none

/-- The wait that ends every compiled test. -/
def awaitAll : PlanStep := awaitFaults "wait for faults to terminate"

end PlanStep

/-- Whether and how pods are checked after the faults of a test. -/
structure HealthConfig where
  enabled : Bool
  gracePeriod : Option Duration
  deriving DecidableEq, Repr

/-- Checks after the given grace period. -/
def HealthConfig.on (gracePeriod : Option Duration) : HealthConfig := ⟨true, gracePeriod⟩

/-- No checks. -/
def HealthConfig.off : HealthConfig := ⟨false, none⟩

/-- One test: its steps and how it is judged. -/
structure SuiteTest where
  name : String
  steps : List PlanStep
  health : HealthConfig
  deriving DecidableEq, Repr

namespace SuiteTest

/-- The faults a test injects, in order. -/
def faults (t : SuiteTest) : List Fault := t.steps.filterMap PlanStep.fault?

/-- A selector failure with the name of the test in front. -/
def locate (test : String) : Failure → Failure
  | .unsupportedSelector flaw => .unsupportedSelector (.inTest test flaw)
  | other => other

/-- Checks every fault of the test, before any of them is submitted. -/
def validate (t : SuiteTest) : Except Failure Unit :=
  t.faults.forM fun fault => fault.validate.mapError (locate t.name)

end SuiteTest
end DevnetChaos
