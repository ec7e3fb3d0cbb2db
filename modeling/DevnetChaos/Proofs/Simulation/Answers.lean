import DevnetChaos.Proofs.Enclave.Endings
import DevnetChaos.Simulation.Time

/-!
# The failures of a simulated deployment

Whatever state a simulated deployment is in, a call that fails does so with the failure of a backend
or of the store, and never with one that says that no platform was called.

Main results:

- `EnclaveHost.build_isLate`, `FaultEngine.submit_isLate` and the like: the failures of one call.
- `World.respond_isLate`: the failures of all calls.
- `World.trace_isLate`: what a run is told.
-/

namespace DevnetChaos

open Run

variable {failure : Failure}

/-! ## The host of enclaves -/

namespace EnclaveHost

variable {h : EnclaveHost} {enclave : String}

theorem isLate_unreachable : unreachable.IsLate := Failure.isLate_ofPlatform _ _

/-- A question about an enclave fails only where the host cannot be reached. -/
theorem lookUp_isLate (hfails : (h.lookUp enclave).1 = .error failure) : failure.IsLate := by
  simp only [lookUp] at hfails
  split at hfails
  · cases hfails
  · cases hfails
    exact isLate_unreachable

/-- An enclave that exists is not created again, which the platform says. -/
theorem create_isLate (hfails : (h.create enclave).1 = .error failure) : failure.IsLate := by
  simp only [create] at hfails
  split at hfails
  · cases hfails
    exact isLate_unreachable
  · split at hfails
    · cases hfails
      exact Failure.isLate_ofPlatform _ _
    · cases hfails

/-- An enclave that does not exist is not torn down, which the platform says. -/
theorem destroy_isLate (hfails : (h.destroy enclave).1 = .error failure) : failure.IsLate := by
  simp only [destroy] at hfails
  split at hfails
  · cases hfails
    exact isLate_unreachable
  · split at hfails
    · cases hfails
      exact Failure.isLate_ofPlatform _ _
    · cases hfails

/-- The services of an enclave that does not exist are not told, which the platform says. -/
theorem services_isLate (hfails : (h.services enclave).1 = .error failure) : failure.IsLate := by
  simp only [services] at hfails
  split at hfails
  · cases hfails
    exact isLate_unreachable
  · split at hfails
    · cases hfails
      exact Failure.isLate_ofPlatform _ _
    · cases hfails

/-- Every network declares a topology, so that a build is never refused for its parameters. -/
theorem build_isLate {network : NetworkConfig}
    (hfails : (h.build enclave network).1 = .error failure) : failure.IsLate := by
  simp only [build, Topology.ofNetwork_eq] at hfails
  split at hfails
  · cases hfails
    exact isLate_unreachable
  · split at hfails
    · cases hfails
      exact Failure.isLate_ofPlatform _ _
    · split at hfails <;> cases hfails

end EnclaveHost

/-! ## The fault platform -/

namespace FaultEngine

variable {e : FaultEngine}

/-- A fault is rejected by the platform. -/
theorem submit_isLate {fault : Fault} (hfails : (e.submit fault).1 = .error failure) :
    failure.IsLate := by
  simp only [submit, submitAs] at hfails
  split at hfails
  · cases hfails
    exact Failure.isLate_ofPlatform _ _
  · split at hfails
    · cases hfails
      exact Failure.isLate_ofPlatform _ _
    · cases hfails

/-- The status of a submission that the platform does not know is refused by it. -/
theorem status_isLate {handle : FaultHandle} (hfails : (e.status handle).1 = .error failure) :
    failure.IsLate := by
  simp only [status, answer] at hfails
  split at hfails
  · cases hfails
    exact Failure.isLate_ofPlatform _ _
  · split at hfails
    · cases hfails
      exact Failure.isLate_ofPlatform _ _
    · cases hfails

end FaultEngine

/-! ## The deployment -/

namespace Simulation.World

variable {w : World} {enclave : String}

/-- A deployment fails to answer a question about an enclave as its host does. -/
theorem lookUp_isLate (hfails : (w.lookUp enclave).1 = .error failure) : failure.IsLate := by
  simp only [lookUp] at hfails
  split at hfails
  · cases hfails
  · exact EnclaveHost.lookUp_isLate hfails

/-- A deployment fails to tear an enclave down as its host does. -/
theorem destroy_isLate (hfails : (w.destroy enclave).1 = .error failure) : failure.IsLate := by
  simp only [destroy] at hfails
  split at hfails
  · next hhost =>
    cases hfails
    exact EnclaveHost.destroy_isLate hhost
  · cases hfails

/-- A deployment fails to build a network as its host does. -/
theorem build_isLate {network : NetworkConfig}
    (hfails : (w.build enclave network).1 = .error failure) : failure.IsLate := by
  simp only [build] at hfails
  split at hfails
  · cases hfails
  · split at hfails
    · next hhost =>
      cases hfails
      exact EnclaveHost.build_isLate hhost
    · cases hfails

/-- A deployment fails to submit a fault as its fault platform does. -/
theorem submit_isLate {fault : Fault} (hfails : (w.submit fault).1 = .error failure) :
    failure.IsLate := by
  simp only [submit] at hfails
  split at hfails
  · next hfaults =>
    cases hfails
    exact FaultEngine.submit_isLate hfaults
  · cases hfails

/-- During an outage the cluster says so. -/
theorem unlessOutage_isLate {α : Type} {answer : α}
    (hfails : w.unlessOutage answer = .error failure) : failure.IsLate := by
  rw [unlessOutage] at hfails
  split at hfails
  · cases hfails
    exact Failure.isLate_ofPlatform _ _
  · cases hfails

/-- A store of artifacts that is broken says so. -/
theorem persist_isLate {artifacts : List Artifact}
    (hfails : (w.persist artifacts).1 = .error failure) : failure.IsLate := by
  rw [persist] at hfails
  split at hfails
  · cases hfails
    rfl
  · cases hfails

/-- The failures that a run may be told. -/
theorem respond_isLate {caller : Caller} {c : Call} {answer : c.Answer} {w' : World}
    (h : respond caller c w = (some answer, w')) :
    ∀ failure ∈ (Exchange.mk c (some answer)).failure?, failure.IsLate := by
  intro failure hfailure
  cases c with
  | enclaveExists enclave =>
    have hanswer : (w.lookUp enclave).1 = answer := Option.some.inj (congrArg Prod.fst h)
    cases answer with
    | ok => cases hfailure
    | error =>
      cases hfailure
      exact lookUp_isLate hanswer
  | createEnclave enclave =>
    have hanswer : (w.create enclave).1 = answer := Option.some.inj (congrArg Prod.fst h)
    cases answer with
    | ok => cases hfailure
    | error =>
      cases hfailure
      exact EnclaveHost.create_isLate hanswer
  | destroyEnclave enclave =>
    have hanswer : (w.destroy enclave).1 = answer := Option.some.inj (congrArg Prod.fst h)
    cases answer with
    | ok => cases hfailure
    | error =>
      cases hfailure
      exact destroy_isLate hanswer
  | runningServices enclave =>
    have hanswer : (w.services enclave).1 = answer := Option.some.inj (congrArg Prod.fst h)
    cases answer with
    | ok => cases hfailure
    | error =>
      cases hfailure
      exact EnclaveHost.services_isLate hanswer
  | buildNetwork enclave network =>
    have hanswer : (w.build enclave network).1 = answer := Option.some.inj (congrArg Prod.fst h)
    cases answer with
    | ok => cases hfailure
    | error =>
      cases hfailure
      exact build_isLate hanswer
  | submitFault fault =>
    have hanswer : (w.submit fault).1 = answer := Option.some.inj (congrArg Prod.fst h)
    cases answer with
    | ok => cases hfailure
    | error =>
      cases hfailure
      exact submit_isLate hanswer
  | faultStatus handle =>
    have hanswer : (w.status handle).1 = answer := Option.some.inj (congrArg Prod.fst h)
    cases answer with
    | ok => cases hfailure
    | error =>
      cases hfailure
      exact FaultEngine.status_isLate hanswer
  | podsLabelled key value =>
    have hanswer : w.podsLabelled key value = answer := Option.some.inj (congrArg Prod.fst h)
    cases answer with
    | ok => cases hfailure
    | error =>
      cases hfailure
      exact unlessOutage_isLate hanswer
  | pod name =>
    have hanswer : w.pod? name = answer := Option.some.inj (congrArg Prod.fst h)
    cases answer with
    | ok => cases hfailure
    | error =>
      cases hfailure
      exact unlessOutage_isLate hanswer
  | persist artifacts =>
    have hanswer : (w.persist artifacts).1 = answer := Option.some.inj (congrArg Prod.fst h)
    cases answer with
    | ok => cases hfailure
    | error =>
      cases hfailure
      exact persist_isLate hanswer
  | now | pause | awaitCancellation | note | publish => cases hfailure

/-- All failures that a run is told in a simulated deployment. -/
theorem trace_isLate {α : Type} (caller : Caller) (r : Run α) (w : World) :
    ∀ x ∈ r.trace (respond caller) w, ∀ failure ∈ x.failure?, failure.IsLate := by
  induction r generalizing w with
  | ended outcome => simp [trace]
  | call c next ih =>
    rw [trace]
    split
    · next answer w' hanswer =>
      rw [List.forall_mem_cons]
      exact ⟨respond_isLate hanswer, ih answer w'⟩
    · -- The run is abandoned here, and is told nothing any more.
      rw [List.forall_mem_singleton]
      intro failure hfailure
      cases c <;> cases hfailure

end Simulation.World
end DevnetChaos
