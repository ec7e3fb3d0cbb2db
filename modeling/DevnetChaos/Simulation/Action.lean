import DevnetChaos.Artifact.Store
import DevnetChaos.Enclave.Bus
import DevnetChaos.Enclave.Manager
import DevnetChaos.Run.SuiteRun
import DevnetChaos.Simulation.Cluster
import DevnetChaos.Simulation.EnclaveHost
import DevnetChaos.Simulation.FaultEngine

/-!
# Actions on a simulation

What can be done to a simulated deployment, or asked of it, without letting time pass, and what
comes back.

Main definitions:

- `Action`: something that is done or asked at once.
- `Reply`: what comes back.
-/

namespace DevnetChaos
namespace Simulation

/-- How a submission is named in a question about it. -/
inductive SubmissionName where
  /-- By its place among all submissions, counted from zero. -/
  | place (index : Nat)
  /-- By a text.  The names that are given out cannot be guessed, so no submission has it. -/
  | text (name : String)
  deriving DecidableEq, Repr

/-- Something that is done to a simulated deployment, or asked of it, at once. -/
inductive Action where
  | addPod (name : String) (labels : Labels) (phase : PodPhase)
  | addTopology (topology : Topology)
  | removePod (name : String)
  | clearPods
  | setPhase (name : String) (phase : PodPhase)
  | setPhaseMatching (requirements : List Requirement) (phase : PodPhase)
  | listPods
  | podsLabelled (key value : String)
  | pod (name : String)
  /-- From now on the pod is not found, though it is still listed. -/
  | hidePod (name : String)
  /-- From now on, or no longer, questions to the cluster fail. -/
  | clusterOutage (message : Option String)
  | seedEnclave (enclave : String) (services : List String)
  | scriptBuild (events : List BuildEvent)
  /-- The next build gives this stream and does not reach the host of enclaves. -/
  | timeBuild (stream : BuildStream)
  /-- The next successful questions whether an enclave exists have these answers. -/
  | forceExistence (answers : List Bool)
  | reachHost (reachable : Bool)
  | calls
  | mutations
  | clearCalls
  | hasEnclave (enclave : String)
  | servicesOf (enclave : String)
  | enclaveExists (enclave : String)
  | createEnclave (enclave : String)
  | destroyEnclave (enclave : String)
  | runningServices (enclave : String)
  | successfulBuild (nodes : Nat)
  /-- Keeps a manager with the current token, and a reader of its notifications. -/
  | manage (defaults : ClientDefaults) (settings : EnclaveSettings) (network : NetworkConfig)
  | observe
  | notifications
  | unsubscribe
  | scriptFault (script : SubmissionScript)
  | defaultFault (script : SubmissionScript)
  | reachFaults (reachable : Bool)
  | submit (fault : Fault)
  | status (submission : SubmissionName)
  | submissions
  | statusQueries
  /-- Finds the pods under test and remembers them. -/
  | findPods (faults : List Fault)
  /-- Checks the given pods under test, or those remembered. -/
  | check (pods : Option (List PodUnderTest))
  | persist (artifacts : List Artifact)
  | load
  | snapshot
  | persistCalls
  | breakSink (broken : Bool)
  | cancel
  | newToken
  | isCancelled
  | takeLog

/-- What comes back. -/
inductive Reply where
  /-- Done, and there is nothing to tell. -/
  | accepted
  /-- A call came back without a value. -/
  | unit
  | flag (value : Bool)
  | count (n : Nat)
  | text (value : String)
  | texts (values : List String)
  | services (value : Option (List String))
  | pod (value : Option PodInfo)
  | podList (pods : List (String × PodPhase))
  | calls (calls : List HostCall)
  | events (events : List BuildEvent)
  | managed (enclave : String) (declared : Topology)
  /-- The unread notifications, with the number of those lost before them, and both counts. -/
  | notifications (bus : Bus)
  | status (value : FaultStatus)
  | submissions (all : List Submission)
  | podsUnderTest (pods : List PodUnderTest)
  | verdicts (verdicts : List PodVerdict)
  | artifacts (artifacts : List Artifact)
  /-- The artifact of a test and the state it started in. -/
  | testArtifact (initial : TestState) (artifact : Artifact)
  | report (report : SuiteReport)
  | log (lines : List LogLine)

end Simulation
end DevnetChaos
