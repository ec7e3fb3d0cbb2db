import DevnetChaos.Simulation.World

/-!
# Taking actions

What each action changes in a simulated deployment and what comes back.  No action lets time pass
or makes an appointment.

Main definitions:

- `World.perform`: takes one action.
-/

namespace DevnetChaos
namespace Simulation
namespace World

/-- A reply to an action that cannot fail. -/
def reply (r : Reply) (w : World) : Outcome Reply × World := (.done r, w)

/-- The reply to a call that may have failed. -/
def replyTo {α : Type} (f : α → Reply) : Except Failure α × World → Outcome Reply × World
  | (.ok a, w) => (.done (f a), w)
  | (.error failure, w) => (.failed failure, w)

/-- The reply to a run. -/
def replyToRun {α : Type} (f : α → Reply) : Outcome α × World → Outcome Reply × World
  | (.done a, w) => (.done (f a), w)
  | (.failed failure, w) => (.failed failure, w)
  | (.abandoned, w) => (.abandoned, w)

/-- The failure of an action that needs a manager. -/
def noManager : Failure := .internal "no manager"

/-- Goes on with the kept manager. -/
def withManager (w : World) (f : KeptManager → Outcome Reply × World) : Outcome Reply × World :=
  match w.manager with
  | some kept => f kept
  | none => (.failed noManager, w)

/-- The world in which a manager is kept. -/
def keep (w : World) (manager : EnclaveManager) : World :=
  let bus := Bus.ofCapacity manager.settings.notificationCapacity
  { w with manager := some ⟨manager, w.token, bus⟩ }

/-- The world in which the kept bus is another one. -/
def setBus (w : World) (kept : KeptManager) (bus : Bus) : World :=
  { w with manager := some { kept with bus } }

/-- The handle of the submission at a place, if there is one and it was accepted. -/
def handleAt? (w : World) (index : Nat) : Option FaultHandle :=
  (w.faults.submissions[index]?).bind (·.handle)

/-- Who makes calls at once: the current token, and the bus of the kept manager. -/
def instantCaller (w : World) : Caller := ⟨w.token, true⟩

/-- The disturbances with a change. -/
def disturb (w : World) (change : Disturbances → Disturbances) : World :=
  { w with disturbances := change w.disturbances }

/-- Takes an action. -/
def perform (action : Action) (w : World) : Outcome Reply × World :=
  match action with
  | .addPod name labels phase =>
      reply .accepted { w with cluster := w.cluster.addPod name labels phase }
  | .addTopology t => reply .accepted { w with cluster := w.cluster.addTopology t }
  | .removePod name =>
      reply (.pod (w.cluster.pod? name)) { w with cluster := w.cluster.remove name }
  | .clearPods => reply .accepted { w with cluster := .empty }
  | .setPhase name phase =>
      reply (.flag (w.cluster.pod? name).isSome)
        { w with cluster := w.cluster.setPhase name phase }
  | .setPhaseMatching requirements phase =>
      reply (.count (w.cluster.countSelected requirements))
        { w with cluster := w.cluster.setPhaseMatching requirements phase }
  | .listPods => reply (.podList w.cluster.phases) w
  | .podsLabelled key value => replyTo .texts (w.podsLabelled key value, w)
  | .pod name => replyTo .pod (w.pod? name, w)
  | .hidePod name =>
      reply .accepted (w.disturb fun d => { d with hiddenPods := name :: d.hiddenPods })
  | .clusterOutage message => reply .accepted (w.disturb fun d => { d with outage := message })
  | .seedEnclave enclave services =>
      reply .accepted { w with host := w.host.seed enclave services }
  | .scriptBuild events =>
      reply .accepted
        { w with host := { w.host with scriptedBuilds := w.host.scriptedBuilds ++ [events] } }
  | .timeBuild stream =>
      reply .accepted (w.disturb fun d => { d with timedBuilds := d.timedBuilds ++ [stream] })
  | .forceExistence answers =>
      reply .accepted
        (w.disturb fun d => { d with forcedExistence := d.forcedExistence ++ answers })
  | .reachHost reachable => reply .accepted { w with host := { w.host with reachable } }
  | .calls => reply (.calls w.host.calls) w
  | .mutations => reply (.calls w.host.mutations) w
  | .clearCalls => reply .accepted { w with host := { w.host with calls := [] } }
  | .hasEnclave enclave => reply (.flag (w.host.enclaves.contains enclave)) w
  | .servicesOf enclave => reply (.services (w.host.servicesOf? enclave)) w
  | .enclaveExists enclave => replyTo .flag (w.lookUp enclave)
  | .createEnclave enclave => replyTo (fun _ => .unit) (w.create enclave)
  | .destroyEnclave enclave => replyTo (fun _ => .unit) (w.destroy enclave)
  | .runningServices enclave => replyTo .texts (w.services enclave)
  | .successfulBuild nodes => reply (.events (DevnetChaos.successfulBuild nodes)) w
  | .manage d settings network =>
      match EnclaveManager.ofNetwork d settings network with
      | .ok manager => reply (.managed manager.enclave manager.declared) (w.keep manager)
      | .error failure => (.failed failure, w)
  | .observe =>
      w.withManager fun kept =>
        replyToRun (fun state => .text state.name)
          (kept.manager.observe.execute (respondAtOnce ⟨kept.token, true⟩) w)
  | .notifications =>
      w.withManager fun kept => reply (.notifications kept.bus) (w.setBus kept kept.bus.markRead)
  | .unsubscribe =>
      w.withManager fun kept => reply .accepted (w.setBus kept kept.bus.unsubscribe)
  | .scriptFault script => reply .accepted { w with faults := w.faults.addScript script }
  | .defaultFault script =>
      reply .accepted { w with faults := { w.faults with defaultScript := script } }
  | .reachFaults reachable => reply .accepted { w with faults := { w.faults with reachable } }
  | .submit fault => replyTo (fun handle => .text handle.text) (w.submit fault)
  | .status (.place index) =>
      match w.handleAt? index with
      | some handle => replyTo .status (w.status handle)
      | none => (.failed (.internal "no handle"), w)
  | .status (.text name) => replyTo .status (w.statusOfStranger name)
  | .submissions => reply (.submissions w.faults.submissions) w
  | .statusQueries => reply (.count w.faults.statusQueries) w
  | .findPods faults =>
      match (DevnetChaos.podsUnderTest faults).execute (respondAtOnce w.instantCaller) w with
      | (.done pods, w) => reply (.podsUnderTest pods) { w with podsUnderTest := pods }
      | (.failed failure, w) => (.failed failure, w)
      | (.abandoned, w) => (.abandoned, w)
  | .check pods =>
      replyToRun .verdicts
        ((runChecks (pods.getD w.podsUnderTest)).execute (respondAtOnce w.instantCaller) w)
  | .persist artifacts => replyTo (fun _ => .unit) (w.persist artifacts)
  | .load => reply (.artifacts w.memory.artifacts) w
  | .snapshot => reply (.artifacts w.memory.artifacts) w
  | .persistCalls => reply (.count w.memory.persistCalls) w
  | .breakSink broken => reply .accepted (w.disturb fun d => { d with sinkBroken := broken })
  | .cancel => reply .accepted w.cancel
  | .newToken =>
      reply .accepted { w with token := w.token + 1 }
  | .isCancelled => reply (.flag (w.isCancelled w.token)) w
  | .takeLog => reply (.log (markedLines w.journal)) { w with journal := [] }

end World
end Simulation
end DevnetChaos
