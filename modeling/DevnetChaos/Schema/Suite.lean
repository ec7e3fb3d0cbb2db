import DevnetChaos.Artifact
import DevnetChaos.Experiment
import DevnetChaos.Schema.Fault
import DevnetChaos.Schema.Network

/-!
# Documents of tests, experiments and artifacts

How steps, tests, whole experiments and the artifacts of executed tests are written and read.  A
step names what it does in the entry `stepType`.
-/

namespace DevnetChaos
namespace PlanStep

/-- A step. -/
def toTree : PlanStep → Tree
  | injectFault description fault =>
      .map [("stepType", .text "injectFault"), ("description", .text description),
        ("fault", fault.toTree)]
  | awaitFaults description =>
      .map [("stepType", .text "waitForFaultCompletion"), ("description", .text description)]
  | awaitDuration description duration =>
      .map [("stepType", .text "waitForDuration"), ("description", .text description),
        ("duration", Fault.durationTree duration)]

/-- Reads a step. -/
def decode : Decoder PlanStep := .tagged "stepType" [
  ("injectFault", fun p => do
    let (description, fault) ← Decoder.record ("", .podRestart []) [
      .required "description" .text fun r description => (description, r.2),
      .required "fault" Fault.decode fun r fault => (r.1, fault)] p
    return injectFault description fault),
  ("waitForFaultCompletion", fun p => do
    return awaitFaults (← Decoder.record "" [.required "description" .text fun _ d => d] p)),
  ("waitForDuration", fun p => do
    let (description, duration) ← Decoder.record ("", .zero) [
      .required "description" .text fun r description => (description, r.2),
      .required "duration" .duration fun r duration => (r.1, duration)] p
    return awaitDuration description duration)]

end PlanStep

namespace HealthConfig

/-- The settings of the health checks. -/
def toTree (h : HealthConfig) : Tree :=
  .map ([("enableChecks", .bool h.enabled)] ++ durationEntry "gracePeriod" h.gracePeriod)

/-- Reads the settings of the health checks. -/
def decode : Decoder HealthConfig := .record .off [
  .required "enableChecks" .bool fun h enabled => { h with enabled },
  .optional "gracePeriod" .duration fun h gracePeriod => { h with gracePeriod }]

end HealthConfig

namespace SuiteTest

/-- A test. -/
def toTree (t : SuiteTest) : Tree :=
  .map [("testName", .text t.name), ("planSteps", .list (t.steps.map PlanStep.toTree)),
    ("health", t.health.toTree)]

/-- Reads a test. -/
def decode : Decoder SuiteTest := .record ⟨"", [], .off⟩ [
  .required "testName" .text fun t name => { t with name },
  .required "planSteps" (.list PlanStep.decode) fun t steps => { t with steps },
  .required "health" HealthConfig.decode fun t health => { t with health }]

end SuiteTest

namespace Experiment

/-- An experiment. -/
def toTree (e : Experiment) : Tree :=
  .map ([("enclave_name", .text e.enclave), ("enclave_namespace", .text e.enclaveNamespace),
      ("package_id", .text e.package), ("start_new_devnet", .bool e.startNewDevnet)]
    ++ durationEntry "wait_before_injection" e.waitBeforeInjection
    ++ [("network_config", e.network.toTree), ("tests", .list (e.tests.map SuiteTest.toTree))])

/-- Reads an experiment, without checking its faults. -/
def decode : Decoder Experiment := .record ⟨"", "", "", false, none, .empty, []⟩ [
  .required "enclave_name" .text fun e enclave => { e with enclave },
  .withDefault "enclave_namespace" .text fun e enclaveNamespace => { e with enclaveNamespace },
  .withDefault "package_id" .text fun e package => { e with package },
  .withDefault "start_new_devnet" .bool fun e startNewDevnet => { e with startNewDevnet },
  .optional "wait_before_injection" .duration
    fun e waitBeforeInjection => { e with waitBeforeInjection },
  .required "network_config" NetworkConfig.decode fun e network => { e with network },
  .required "tests" (.list SuiteTest.decode) fun e tests => { e with tests }]

end Experiment

namespace PodUnderTest

/-- A pod under test. -/
def toTree (p : PodUnderTest) : Tree :=
  .map [("name", .text p.name), ("labels", p.labels.toTree), ("expect_death", .bool p.expectDeath)]

/-- Reads a pod under test. -/
def decode : Decoder PodUnderTest := .record ⟨"", .empty, false⟩ [
  .required "name" .text fun p name => { p with name },
  .withDefault "labels" Labels.decode fun p labels => { p with labels },
  .required "expect_death" .bool fun p expectDeath => { p with expectDeath }]

end PodUnderTest

namespace PodVerdict

/-- The verdict on a pod. -/
def toTree (v : PodVerdict) : Tree :=
  .map ([("pod_name", .text v.pod), ("healthy", .bool v.healthy)] ++ textEntry "phase" v.phase
    ++ [("reason", .text v.reason), ("under_test", .bool v.underTest)])

/-- Reads the verdict on a pod. -/
def decode : Decoder PodVerdict := .record ⟨"", false, none, "", false⟩ [
  .required "pod_name" .text fun v pod => { v with pod },
  .required "healthy" .bool fun v healthy => { v with healthy },
  .optional "phase" .text fun v phase => { v with phase },
  .required "reason" .text fun v reason => { v with reason },
  .required "under_test" .bool fun v underTest => { v with underTest }]

end PodVerdict

namespace Artifact

/-- An artifact. -/
def toTree (a : Artifact) : Tree :=
  .map [("test_name", .text a.test), ("passed", .bool a.passed),
    ("health_results", .list (a.verdicts.map PodVerdict.toTree)),
    ("pods_under_test", .list (a.podsUnderTest.map PodUnderTest.toTree))]

/-- Reads an artifact. -/
def decode : Decoder Artifact := .record ⟨"", false, [], []⟩ [
  .required "test_name" .text fun a test => { a with test },
  .required "passed" .bool fun a passed => { a with passed },
  .required "health_results" (.list PodVerdict.decode) fun a verdicts => { a with verdicts },
  .required "pods_under_test" (.list PodUnderTest.decode)
    fun a podsUnderTest => { a with podsUnderTest }]

/-- A list of artifacts. -/
def listTree (artifacts : List Artifact) : Tree := .list (artifacts.map toTree)

/-- Reads a list of artifacts. -/
def decodeList : Decoder (List Artifact) := Decoder.list decode

end Artifact
end DevnetChaos
