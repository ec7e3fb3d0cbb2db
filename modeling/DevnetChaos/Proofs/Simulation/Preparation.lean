import DevnetChaos.Proofs.Enclave.BuildWatch
import DevnetChaos.Proofs.Simulation.EnclaveHost
import DevnetChaos.Proofs.Simulation.Steady

/-!
# Preparing a devnet in a steady world

In a steady world whose host knows nothing of an enclave, a manager that declares a topology
creates the enclave and builds the network, and the cluster then has the pods of that topology.

Main results:

- `Steady.patient`: every wait of a watch passes.
- `EnclaveManager.prepare_steady`: preparation in a steady world.
-/

namespace DevnetChaos

open Run Simulation

variable {c : Cluster} {h : EnclaveHost} {e : FaultEngine} {w : World} {caller : Caller}

/-- In a steady world every wait passes. -/
theorem Simulation.World.Steady.patient : Patient (World.respond caller) (World.Steady c h e) :=
  ⟨fun _ millis hw => hw.pause millis, fun _ entry hw => hw.note entry⟩

/-! ## Preparation -/

namespace EnclaveManager

variable {m : EnclaveManager} {t : Topology}

/-- The enclave is created and the network is built in it. -/
theorem createAndBuild_steady (hlimit : m.settings.buildLimit = none) (hh : h.Fresh m.enclave)
    (ht : Topology.ofNetwork h.defaults m.network = .ok t) (hw : w.Steady c h e) :
    Succeeds (World.respond caller) m.createAndBuild w
      fun _ w' => ∃ h', w'.Steady (c.addTopology t) h' e := by
  let h₁ := h.record .lookUp m.enclave
  have hh₁ : h₁.Fresh m.enclave := hh.record .lookUp
  obtain ⟨h₃, hbuild⟩ := (hh₁.record .create).build_eq ht
  refine (hw.enclaveExists hh.lookUp_eq).bind ?_
  rintro _ w₁ ⟨rfl, hw₁⟩
  refine (hw₁.createEnclave hh₁.create_eq).bind fun _ w₂ hw₂ => ?_
  refine (hw₂.publish _).bind fun _ w₃ hw₃ => ?_
  refine (hw₃.buildNetwork hbuild).bind ?_
  rintro _ w₄ ⟨rfl, hw₄⟩
  have hevents : buildSucceeds
      ((BuildStream.ofEvents (successfulBuild t.size)).events.map (·.event)) = true := rfl
  have hwatch : Succeeds (World.respond caller)
      ((BuildStream.ofEvents (successfulBuild t.size)).watch m.settings.buildLimit) w₄
        fun _ w' => w'.Steady (c.addTopology t) h₃ e := by
    rw [hlimit]
    exact watchEvents_succeeds World.Steady.patient hw₄ _ _ (inTime_ofEvents none _) hevents
  refine hwatch.bind fun _ w₅ hw₅ => ?_
  exact (hw₅.publish _).mono fun _ _ hw₆ => ⟨h₃, hw₆⟩

/-- A host without the enclave of a manager is prepared by building its network, whether or not the
devnet is to be made anew. -/
theorem prepare_steady (hlimit : m.settings.buildLimit = none) (hh : h.Fresh m.enclave)
    (ht : Topology.ofNetwork h.defaults m.network = .ok t) (hw : w.Steady c h e)
    (restart : Bool) :
    Succeeds (World.respond caller) (m.prepare restart) w
      fun preparation w' => preparation = .created ∧ ∃ h', w'.Steady (c.addTopology t) h' e := by
  have hh₁ : (h.record .lookUp m.enclave).Fresh m.enclave := hh.record .lookUp
  cases restart with
  | true =>
    have hrebuild : Succeeds (World.respond caller) m.rebuild w
        fun existed w' => existed = false ∧ ∃ h', w'.Steady (c.addTopology t) h' e := by
      refine (hw.enclaveExists hh.lookUp_eq).bind ?_
      rintro _ w₁ ⟨rfl, hw₁⟩
      refine (createAndBuild_steady hlimit hh₁ ht hw₁).bind fun _ w₂ hw₂ => ?_
      exact Succeeds.pure ⟨rfl, hw₂⟩
    refine hrebuild.bind ?_
    rintro _ w₁ ⟨rfl, hw₁⟩
    exact Succeeds.pure ⟨rfl, hw₁⟩
  | false =>
    have hinspect : Succeeds (World.respond caller) m.inspect w
        fun o w' => o.state = .absent ∧ w'.Steady c (h.record .lookUp m.enclave) e := by
      refine (hw.enclaveExists hh.lookUp_eq).bind ?_
      rintro _ w₁ ⟨rfl, hw₁⟩
      refine (hw₁.publish _).bind fun _ w₂ hw₂ => ?_
      exact Succeeds.pure ⟨rfl, hw₂⟩
    refine hinspect.bind fun o w₁ ⟨hstate, hw₁⟩ => ?_
    rw [prepareFrom, hstate]
    refine (createAndBuild_steady hlimit hh₁ ht hw₁).bind fun _ w₂ hw₂ => ?_
    exact Succeeds.pure ⟨rfl, hw₂⟩

end EnclaveManager
end DevnetChaos
