import DevnetChaos.Network
import DevnetChaos.Proofs.Results
import DevnetChaos.Proofs.TextMap

/-!
# Filled clients

A filled client has no open field.  Filling it once more, with whatever defaults, changes nothing,
and it comes back unchanged from the group of nodes that it is written into.

Main definitions:

- `Labels.Complete`: labels that say role and client.
- `ExecutionClient.Filled`, `ValidatorClient.Filled`, `ConsensusClient.Filled`: clients without an
  open field.
- `ConsensusClient.SidecarRule`: a sidecar is described exactly where there is one.

Main results:

- `ExecutionClient.backfill_filled`, `ConsensusClient.backfill_filled`: filling leaves no field
  open.
- `ExecutionClient.Filled.backfill_eq`, `ConsensusClient.Filled.backfill_eq`: nothing is left to
  fill.
- `ConsensusClient.backfill_eq_ok`: when a consensus client can be filled, and what comes out.
- `Participant.clients_eq`: the clients of a group can always be filled.
- `Participant.clients_ofClients`: filled clients come back from their group.
-/

namespace DevnetChaos

/-! ## Labels -/

/-- Labels that say role and client. -/
structure Labels.Complete (labels : Labels) : Prop where
  clientType : labels.contains clientTypeLabel = true
  serviceType : labels.contains serviceTypeLabel = true

theorem Labels.withDefaults_complete (labels : Labels) (role : Role) (client : String) :
    (labels.withDefaults role client).Complete := by
  constructor <;> simp [Labels.withDefaults, TextMap.contains_insertNew]

/-- Labels that say role and client are kept. -/
theorem Labels.Complete.withDefaults_eq {labels : Labels} (h : labels.Complete) (role : Role)
    (client : String) : labels.withDefaults role client = labels := by
  rw [Labels.withDefaults, TextMap.insertNew_of_contains _ h.clientType,
    TextMap.insertNew_of_contains _ h.serviceType]

/-! ## Execution clients -/

namespace ExecutionClient

/-- An execution client without an open field. -/
structure Filled (c : ExecutionClient) : Prop where
  image : c.image.isSome
  cpu : c.cpu.isSome
  memory : c.memory.isSome
  labels : c.labels.Complete

/-- Filling leaves no field open. -/
theorem backfill_filled (d : ClientDefaults) (c : ExecutionClient) : (c.backfill d).Filled :=
  ⟨rfl, rfl, rfl, Labels.withDefaults_complete ..⟩

/-- A filled client stays as it is. -/
theorem Filled.backfill_eq {c : ExecutionClient} (h : c.Filled) (d : ClientDefaults) :
    c.backfill d = c := by
  obtain ⟨image, himage⟩ := Option.isSome_iff_exists.1 h.image
  obtain ⟨cpu, hcpu⟩ := Option.isSome_iff_exists.1 h.cpu
  obtain ⟨memory, hmemory⟩ := Option.isSome_iff_exists.1 h.memory
  obtain ⟨kind, _, _, _, labels⟩ := c
  simp_all [backfill, h.labels.withDefaults_eq]

@[simp] theorem backfill_kind (d : ClientDefaults) (c : ExecutionClient) :
    (c.backfill d).kind = c.kind := rfl

end ExecutionClient

/-! ## Sidecars -/

namespace ValidatorClient

/-- A sidecar without an open field. -/
structure Filled (v : ValidatorClient) : Prop where
  kind : v.kind.isSome
  image : v.image.isSome
  cpu : v.cpu.isSome
  memory : v.memory.isSome
  labels : v.labels.Complete

/-- Filling leaves no field open. -/
theorem backfill_filled (d : ClientDefaults) (owner : ConsensusKind) (v : ValidatorClient) :
    (v.backfill d owner).Filled :=
  ⟨rfl, rfl, rfl, rfl, Labels.withDefaults_complete ..⟩

/-- A filled sidecar stays as it is, also under another owner. -/
theorem Filled.backfill_eq {v : ValidatorClient} (h : v.Filled) (d : ClientDefaults)
    (owner : ConsensusKind) : v.backfill d owner = v := by
  obtain ⟨kind, hkind⟩ := Option.isSome_iff_exists.1 h.kind
  obtain ⟨image, himage⟩ := Option.isSome_iff_exists.1 h.image
  obtain ⟨cpu, hcpu⟩ := Option.isSome_iff_exists.1 h.cpu
  obtain ⟨memory, hmemory⟩ := Option.isSome_iff_exists.1 h.memory
  obtain ⟨_, _, _, _, labels⟩ := v
  simp_all [backfill, h.labels.withDefaults_eq]

end ValidatorClient

/-! ## Consensus clients -/

namespace ConsensusClient

/-- A sidecar is described exactly where there is one. -/
def SidecarRule (c : ConsensusClient) : Prop := c.validator.isSome = c.hasSidecar

/-- A consensus client without an open field, and with its sidecar if it has one. -/
structure Filled (c : ConsensusClient) : Prop where
  image : c.image.isSome
  cpu : c.cpu.isSome
  memory : c.memory.isSome
  labels : c.labels.Complete
  rule : c.SidecarRule
  sidecar : ∀ v ∈ c.validator, v.Filled

/-- The client as filling leaves it, if it can be filled. -/
def filled (d : ClientDefaults) (c : ConsensusClient) : ConsensusClient :=
  { c.backfillBeacon d with
    validator :=
      if c.hasSidecar then some ((c.validator.getD (.ofKind none)).backfill d c.kind)
      else none }

/-- A consensus client can be filled unless it describes a sidecar that it says it does not
have. -/
theorem backfill_eq_ok {d : ClientDefaults} {c c' : ConsensusClient} :
    c.backfill d = .ok c' ↔ (c.validator.isSome → c.hasSidecar) ∧ c' = c.filled d := by
  obtain ⟨kind, image, flag, validator, cpu, memory, labels⟩ := c
  cases flag with
  | true =>
    have hfilled : backfill d ⟨kind, image, true, validator, cpu, memory, labels⟩ =
        .ok (filled d ⟨kind, image, true, validator, cpu, memory, labels⟩) := rfl
    rw [hfilled, Except.ok.injEq]
    exact ⟨fun h => ⟨fun _ => rfl, h.symm⟩, fun h => h.2.symm⟩
  | false =>
    cases validator with
    | none =>
      have hfilled : backfill d ⟨kind, image, false, none, cpu, memory, labels⟩ =
          .ok (filled d ⟨kind, image, false, none, cpu, memory, labels⟩) := rfl
      rw [hfilled, Except.ok.injEq]
      exact ⟨fun h => ⟨fun hsome => hsome, h.symm⟩, fun h => h.2.symm⟩
    | some v => simp [backfill, attemptBackfill]

theorem filled_filled (d : ClientDefaults) (c : ConsensusClient) : (c.filled d).Filled where
  image := rfl
  cpu := rfl
  memory := rfl
  labels := Labels.withDefaults_complete ..
  rule := by
    by_cases hflag : c.hasSidecar <;> simp [SidecarRule, filled, backfillBeacon, hflag]
  sidecar := by
    intro v hv
    by_cases hflag : c.hasSidecar
    · simp only [filled, hflag, if_true, Option.mem_some_iff] at hv
      exact hv ▸ ValidatorClient.backfill_filled ..
    · simp [filled, hflag] at hv

/-- Filling leaves no field open. -/
theorem backfill_filled {d : ClientDefaults} {c c' : ConsensusClient}
    (h : c.backfill d = .ok c') : c'.Filled := by
  rw [(backfill_eq_ok.1 h).2]
  exact filled_filled d c

/-- A filled client stays as it is. -/
theorem Filled.backfill_eq {c : ConsensusClient} (h : c.Filled) (d : ClientDefaults) :
    c.backfill d = .ok c := by
  have hbeacon : c.backfillBeacon d = c := by
    obtain ⟨image, himage⟩ := Option.isSome_iff_exists.1 h.image
    obtain ⟨cpu, hcpu⟩ := Option.isSome_iff_exists.1 h.cpu
    obtain ⟨memory, hmemory⟩ := Option.isSome_iff_exists.1 h.memory
    have hlabels := h.labels.withDefaults_eq .consensus c.kind.name
    obtain ⟨_, _, _, _, _, _, labels⟩ := c
    simp_all [backfillBeacon]
  have hrule : c.validator.isSome = c.hasSidecar := h.rule
  refine backfill_eq_ok.2 ⟨fun hsome => hrule ▸ hsome, ?_⟩
  have hsidecar := h.sidecar
  rw [filled, hbeacon]
  obtain ⟨kind, image, flag, validator, cpu, memory, labels⟩ := c
  obtain rfl : flag = validator.isSome := hrule.symm
  cases validator with
  | none => rfl
  | some v => simp [(hsidecar v rfl).backfill_eq d kind]

theorem backfill_kind {d : ClientDefaults} {c c' : ConsensusClient} (h : c.backfill d = .ok c') :
    c'.kind = c.kind := by
  rw [(backfill_eq_ok.1 h).2]
  rfl

end ConsensusClient

/-! ## Groups of nodes -/

namespace Participant

/-- The clients of a group can always be filled: a group describes a sidecar only where it asks for
one. -/
theorem clients_eq (d : ClientDefaults) (p : Participant) :
    p.clients d = .ok (p.executionClient.backfill d, p.consensusClient.filled d) := by
  have hfilled : p.consensusClient.backfill d = .ok (p.consensusClient.filled d) := by
    refine ConsensusClient.backfill_eq_ok.2 ⟨fun hsome => ?_, rfl⟩
    by_cases hflag : p.separateValidator
    · exact hflag
    · simp [consensusClient, hflag] at hsome
  rw [clients, hfilled]
  rfl

theorem executionClient_ofClients (el : ExecutionClient) (cl : ConsensusClient) :
    (ofClients el cl).executionClient = el := rfl

/-- A consensus client is read back from its group, if it keeps the sidecar rule. -/
theorem consensusClient_ofClients (el : ExecutionClient) {cl : ConsensusClient}
    (hrule : cl.SidecarRule) : (ofClients el cl).consensusClient = cl := by
  obtain ⟨kind, image, flag, validator, cpu, memory, labels⟩ := cl
  cases flag with
  | false =>
    cases validator with
    | none => rfl
    | some v => simp [ConsensusClient.SidecarRule] at hrule
  | true =>
    cases validator with
    | none => simp [ConsensusClient.SidecarRule] at hrule
    | some v => rfl

/-- Filled clients come back from their group. -/
theorem clients_ofClients {el : ExecutionClient} {cl : ConsensusClient} (hel : el.Filled)
    (hcl : cl.Filled) (d : ClientDefaults) : (ofClients el cl).clients d = .ok (el, cl) := by
  unfold clients
  rw [executionClient_ofClients, consensusClient_ofClients el hcl.rule, hcl.backfill_eq d,
    hel.backfill_eq d]
  rfl

end Participant
end DevnetChaos
