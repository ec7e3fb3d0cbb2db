import DevnetChaos.Run.ExperimentRun
import DevnetChaos.Simulation.Time

/-!
# Sessions with a simulation

A session takes steps one after another on one simulated deployment: actions, appointments, and
whatever takes its time.  Each step may take thirty days; one that would take longer is left.

Main definitions:

- `Step`: one step of a session.
- `World.take`: takes a step.
-/

namespace DevnetChaos
namespace Simulation

/-- One step of a session. -/
inductive Step where
  | act (action : Action)
  /-- Takes an action when some milliseconds have passed; its reply is dropped.  A step that may
  wait is no such action and is left out. -/
  | later (millis : Nat) (action : Option Action)
  | prepare (restart : Bool)
  | forceRestart
  /-- Builds a network and reads all events. -/
  | build (enclave : String) (network : NetworkConfig)
  | test (settings : SuiteSettings) (test : SuiteTest)
  | suite (settings : SuiteSettings) (tests : List SuiteTest)
  | experiment (service : ExperimentService)
  | restartExperiment (service : ExperimentService)
  | sleep (millis : Nat) (operation : String)
  | awaitCancellation

/-- The milliseconds that a step may take: thirty days. -/
def stepLimit : Nat := 30 * 24 * 3600 * 1000

/-- How many times submitted faults can be looked at within one step: there is a millisecond at
least between two looks. -/
def stepPatience : Nat := stepLimit + 1

namespace World

/-- Reads the events of a stream as they come, which nothing cancels. -/
def drain (staysOpen : Bool) : List TimedEvent → World → Outcome (List BuildEvent) × World
  | [], w =>
      if staysOpen then (.abandoned, (w.wait (fun _ => false) none).2)
      else (.done [], w)
  | e :: rest, w =>
      match w.wait (fun _ => false) (some (w.now + e.delay)) with
      | (none, w) => (.abandoned, w)
      | (some _, w) =>
          match drain staysOpen rest w with
          | (.done events, w) => (.done (e.event :: events), w)
          | other => other

/-- Builds a network and reads all events. -/
def buildAll (w : World) (enclave : String) (network : NetworkConfig) :
    Outcome (List BuildEvent) × World :=
  match w.build enclave network with
  | (.ok stream, w) => drain stream.staysOpen stream.events w
  | (.error failure, w) => (.failed failure, w)

/-- Carries out a run whose notifications nobody reads, with the current token. -/
def runUnread {α : Type} (w : World) (f : α → Reply) (r : Run α) : Outcome Reply × World :=
  replyToRun f (w.carryOut ⟨w.token, false⟩ r)

/-- Carries out a run of the kept manager. -/
def runManager {α : Type} (w : World) (f : α → Reply) (r : EnclaveManager → Run α) :
    Outcome Reply × World :=
  w.withManager fun kept => replyToRun f (w.carryOut ⟨kept.token, true⟩ (r kept.manager))

/-- Takes a step of which the deadline is set. -/
def takeWithin (step : Step) (w : World) : Outcome Reply × World :=
  match step with
  | .act action => w.perform action
  | .later millis (some action) => reply .accepted (w.appoint millis action)
  | .later _ none => reply .accepted w
  | .prepare restart =>
      w.runManager (fun p => .text p.name) fun manager => manager.prepare restart
  | .forceRestart => w.runManager (fun _ => .unit) EnclaveManager.forceRestart
  | .build enclave network => replyToRun .events (w.buildAll enclave network)
  | .test settings test =>
      w.runUnread (.testArtifact (TestRun.start test).state) (test.run settings)
  | .suite settings tests => w.runUnread .report (runSuite settings tests)
  | .experiment service => w.runUnread .report service.start
  | .restartExperiment service => w.runUnread (fun _ => .unit) service.forceRestart
  | .sleep millis operation =>
      w.runUnread (fun _ => .unit) (Run.sleepMillis millis operation)
  | .awaitCancellation => w.runUnread (fun _ => .unit) Run.awaitCancellation

/-- Takes a step, within thirty days from now. -/
def take (step : Step) (w : World) : Outcome Reply × World :=
  takeWithin step { w with deadline := some (w.now + stepLimit) }

end World
end Simulation
end DevnetChaos
