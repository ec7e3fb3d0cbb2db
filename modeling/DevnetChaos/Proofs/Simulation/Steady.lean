import DevnetChaos.Proofs.Run.Health
import DevnetChaos.Proofs.Simulation.FaultEngine
import DevnetChaos.Proofs.Simulation.Quiet

/-!
# Steady worlds

In a steady world nothing is disturbed, cancelled or scheduled, and no wait is left.  Every wait
passes, every entry is written, and the cluster changes only when a devnet is built or destroyed.

Main definitions:

- `World.Steady`: a steady world with a given cluster, host of enclaves and fault platform.
- `World.holding`: a deployment with some pods in which nothing has happened yet.

Main results:

- `Steady.readsCluster`: questions about pods are answered from the cluster.
- `Steady.sleep`, `Steady.note`, `Steady.publish`, `Steady.persist`, `Steady.now`: calls after which
  the world is as steady as before.
- `Steady.enclaveExists`, `Steady.createEnclave`, `Steady.buildNetwork`: calls to the host.
- `Steady.submitFault`, `Steady.faultStatus`: calls to the fault platform.
-/

namespace DevnetChaos
namespace Simulation

open Run

/-- A world with a given cluster, host of enclaves and fault platform, in which nothing is
disturbed, cancelled or scheduled, and no wait is left. -/
structure World.Steady (c : Cluster) (h : EnclaveHost) (e : FaultEngine) (w : World) : Prop where
  cluster : w.cluster = c
  host : w.host = h
  faults : w.faults = e
  attached : w.attached = true
  disturbances : w.disturbances = .none
  deadline : w.deadline = none
  agenda : w.agenda = []
  cancelledTokens : w.cancelledTokens = []

namespace World
namespace Steady

variable {c : Cluster} {h : EnclaveHost} {e : FaultEngine} {w : World} {caller : Caller}

/-- In a steady world the cluster can always be asked. -/
theorem unlessOutage_eq {α : Type} (hw : Steady c h e w) (answer : α) :
    w.unlessOutage answer = .ok answer := by
  rw [unlessOutage, hw.disturbances]
  rfl

/-- Questions about pods are answered from the cluster. -/
theorem readsCluster (hw : Steady c h e w) : ReadsCluster (respond caller) w c where
  labelled := by
    intro key value
    have hlabelled : w.podsLabelled key value = .ok (c.labelled key value) := by
      rw [World.podsLabelled, hw.cluster, hw.unlessOutage_eq]
    exact congrArg (fun x => (some x, w)) hlabelled
  pod := by
    intro name
    have hpod : World.pod? w name = .ok (c.pod? name) := by
      rw [World.pod?, hw.cluster, hw.unlessOutage_eq, hw.disturbances]
      rfl
    exact congrArg (fun x => (some x, w)) hpod

/-! ## Waits -/

/-- Nobody is cancelled in a steady world. -/
theorem isCancelled_eq (hw : Steady c h e w) (token : Nat) : w.isCancelled token = false := by
  simp [isCancelled, hw.cancelledTokens]

/-- Every wait passes. -/
theorem pause_eq (hw : Steady c h e w) (token millis : Nat) :
    w.pause token millis = (some .elapsed, { w with agenda := [], now := w.now + millis }) :=
  pause_of_idle (hw.isCancelled_eq token) hw.deadline hw.agenda millis

/-- A pause takes its time. -/
theorem pause (hw : Steady c h e w) (millis : Nat) :
    Succeeds (respond caller) (Run.pause millis) w fun a w' => a = .elapsed ∧ Steady c h e w' := by
  refine Succeeds.call (hw.pause_eq caller.token millis) (Succeeds.pure ⟨rfl, ?_⟩)
  exact { hw with agenda := rfl }

/-- A wait takes its time, and nothing else happens. -/
theorem sleep (hw : Steady c h e w) (duration : Duration) (operation : String) :
    Succeeds (respond caller) (Run.sleep duration operation) w fun _ w' => Steady c h e w' := by
  refine (hw.pause duration.wholeMillis).bind ?_
  rintro _ w' ⟨rfl, hw'⟩
  exact Succeeds.pure hw'

/-- A wait that is left out if there is no time to wait for. -/
theorem sleepUnlessZero {α : Type} {f : Unit → Run α} {Q : α → World → Prop}
    (hw : Steady c h e w) (duration : Duration) (operation : String)
    (hf : ∀ w', Steady c h e w' → Succeeds (respond caller) (f ()) w' Q) :
    Succeeds (respond caller)
      (if duration ≠ .zero then Run.sleep duration operation >>= f else f ()) w Q := by
  split
  · exact (hw.sleep duration operation).bind fun _ w' hw' => hf w' hw'
  · exact hf w hw

theorem now (hw : Steady c h e w) :
    Succeeds (respond caller) Run.now w fun _ w' => Steady c h e w' :=
  Succeeds.call rfl (Succeeds.pure hw)

/-! ## Calls that tell others -/

theorem note (hw : Steady c h e w) (entry : JournalEntry) :
    Succeeds (respond caller) (Run.note entry) w fun _ w' => Steady c h e w' := by
  refine Succeeds.call rfl (Succeeds.pure ?_)
  exact { hw with }

theorem publish (hw : Steady c h e w) (n : Notification) :
    Succeeds (respond caller) (Run.publish n) w fun _ w' => Steady c h e w' := by
  refine Succeeds.call rfl (Succeeds.pure ?_)
  split
  · exact { hw with }
  · exact hw

theorem persist (hw : Steady c h e w) (artifacts : List Artifact) :
    Succeeds (respond caller) (Run.persist artifacts) w fun _ w' => Steady c h e w' := by
  have hpersist : World.persist w artifacts =
      (.ok (), { w with memory := w.memory.persist artifacts }) := by
    simp [World.persist, hw.disturbances, Disturbances.none]
  refine Succeeds.call (congrArg (fun x => (some x.1, x.2)) hpersist) (Succeeds.pure ?_)
  exact { hw with }

/-! ## Calls to the host of enclaves -/

/-- A question about an enclave changes the host as it says. -/
theorem enclaveExists (hw : Steady c h e w) {enclave : String} {found : Bool} {h' : EnclaveHost}
    (hfound : h.lookUp enclave = (.ok found, h')) :
    Succeeds (respond caller) (Run.enclaveExists enclave) w
      fun a w' => a = found ∧ Steady c h' e w' := by
  have hworld : w.lookUp enclave = (.ok found, { w with host := h' }) := by
    simp only [World.lookUp, hw.host, hfound, hw.disturbances, Disturbances.none]
  refine Succeeds.call (congrArg (fun x => (some x.1, x.2)) hworld) (Succeeds.pure ⟨rfl, ?_⟩)
  exact { hw with host := rfl }

/-- An enclave is created as the host says. -/
theorem createEnclave (hw : Steady c h e w) {enclave : String} {h' : EnclaveHost}
    (hcreated : h.create enclave = (.ok (), h')) :
    Succeeds (respond caller) (Run.createEnclave enclave) w fun _ w' => Steady c h' e w' := by
  have hworld : w.create enclave = (.ok (), { w with host := h' }) := by
    simp only [World.create, hw.host, hcreated]
  refine Succeeds.call (congrArg (fun x => (some x.1, x.2)) hworld) (Succeeds.pure ?_)
  exact { hw with host := rfl }

/-- A build that succeeds adds the pods of its topology. -/
theorem buildNetwork (hw : Steady c h e w) {enclave : String} {network : NetworkConfig}
    {events : List BuildEvent} {t : Topology} {h' : EnclaveHost}
    (hbuilt : h.build enclave network = (.ok ⟨events, some t⟩, h')) :
    Succeeds (respond caller) (Run.buildNetwork enclave network) w
      fun a w' => a = .ofEvents events ∧ Steady (c.addTopology t) h' e w' := by
  have hworld : w.build enclave network =
      (.ok (.ofEvents events), { w with host := h', cluster := c.addTopology t }) := by
    simp only [World.build, hw.disturbances, Disturbances.none, hw.host, hbuilt, hw.attached,
      hw.cluster, if_true]
  refine Succeeds.call (congrArg (fun x => (some x.1, x.2)) hworld) (Succeeds.pure ⟨rfl, ?_⟩)
  exact { hw with cluster := rfl, host := rfl }

/-! ## Calls to the fault platform -/

/-- A submission that is accepted and touches no pod changes only the fault platform. -/
theorem submitFault (hw : Steady c h e w) {fault : Fault} {handle : FaultHandle}
    {e' : FaultEngine} (hsubmit : e.submit fault = (.ok (handle, none), e')) :
    Succeeds (respond caller) (Run.submitFault fault) w
      fun a w' => a = handle ∧ Steady c h e' w' := by
  have hworld : World.submit w fault = (.ok handle, { w with faults := e' }) := by
    simp only [World.submit, hw.faults, hsubmit]
  refine Succeeds.call (congrArg (fun x => (some x.1, x.2)) hworld) (Succeeds.pure ⟨rfl, ?_⟩)
  exact { hw with faults := rfl }

/-- A question about a fault changes the fault platform as it says. -/
theorem faultStatus (hw : Steady c h e w) {handle : FaultHandle} {answer : FaultStatus}
    {e' : FaultEngine} (hstatus : e.status handle = (.ok answer, e')) :
    Succeeds (respond caller) (Run.faultStatus handle) w
      fun a w' => a = answer ∧ Steady c h e' w' := by
  have hworld : World.status w handle = (.ok answer, { w with faults := e' }) := by
    simp only [World.status, hw.faults, hstatus]
  refine Succeeds.call (congrArg (fun x => (some x.1, x.2)) hworld) (Succeeds.pure ⟨rfl, ?_⟩)
  exact { hw with faults := rfl }

end Steady

/-! ## Deployments that hold pods -/

/-- A deployment whose cluster holds some pods, with scripts for its fault platform. -/
def holding (c : Cluster) (defaultScript : SubmissionScript) (scripts : List SubmissionScript) :
    World :=
  { World.empty .standard true with
    cluster := c, faults := { FaultEngine.empty with defaultScript, scripts } }

/-- A deployment that holds pods is steady, with nothing to happen in it. -/
theorem steady_holding (c : Cluster) (defaultScript : SubmissionScript)
    (scripts : List SubmissionScript) :
    (holding c defaultScript scripts).Steady c (.empty .standard)
      { FaultEngine.empty with defaultScript, scripts } :=
  ⟨rfl, rfl, rfl, rfl, rfl, rfl, rfl, rfl⟩

end World
end Simulation
end DevnetChaos
