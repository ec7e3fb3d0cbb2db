import DevnetChaos.Proofs.Topology.Numbered

/-!
# What filling changes

Filling a client settles every field that was left open and nothing else: a field or a label that is
set keeps its value, and the only labels that are added say role and client.  It is refused for one
reason, a sidecar that is described although the client says it has none, and then flag and sidecar
are left as they are.

Main definitions:

- `Settles`: a field that keeps its value, or takes a fallback where it has none.
- `Labels.Completes`, `ExecutionClient.Completes`, `ValidatorClient.Completes`,
  `ConsensusClient.Completes`: what becomes of a client when it is filled.

Main results:

- `ExecutionClient.backfill_completes`, `ValidatorClient.backfill_completes`,
  `ConsensusClient.filled_completes`: filling settles the open fields only.
- `ConsensusClient.attemptBackfill_eq`: when filling is refused, and what is left.
- `backfill_complete`: filling is complete, keeps what is set, and is done once and for all.
-/

namespace DevnetChaos

/-! ## Fields -/

/-- A field before and after it is settled: it keeps its value, or takes a fallback where it has
none. -/
structure Settles {α : Type} (fallback : α) (before after : Option α) : Prop where
  kept : ∀ a, before = some a → after = some a
  taken : before = none → after = some fallback

theorem settles_getD {α : Type} (fallback : α) (before : Option α) :
    Settles fallback before (some (before.getD fallback)) := by
  constructor
  · rintro a rfl
    rfl
  · rintro rfl
    rfl

/-- Labels before and after the default labels are added: only the labels for role and client are
settled. -/
structure Labels.Completes (role : Role) (client : String) (before after : Labels) : Prop where
  serviceType :
    Settles role.serviceType (before.get? serviceTypeLabel) (after.get? serviceTypeLabel)
  clientType : Settles client (before.get? clientTypeLabel) (after.get? clientTypeLabel)
  others : ∀ key, key ≠ serviceTypeLabel → key ≠ clientTypeLabel →
    after.get? key = before.get? key

/-- Labels are completed by those that the defaults give. -/
theorem Labels.withDefaults_completes (labels : Labels) (role : Role) (client : String) :
    Labels.Completes role client labels (labels.withDefaults role client) := by
  have hne : serviceTypeLabel ≠ clientTypeLabel := by decide
  -- The label for the role is added last and does not disturb the one for the client.
  have hfound (key : String) : (labels.withDefaults role client).get? key =
      if key = serviceTypeLabel then some ((labels.get? serviceTypeLabel).getD role.serviceType)
      else if key = clientTypeLabel then some ((labels.get? clientTypeLabel).getD client)
      else labels.get? key := by
    rw [Labels.withDefaults, TextMap.get?_insertNew, TextMap.get?_insertNew,
      TextMap.get?_insertNew, if_neg hne]
  constructor
  · rw [hfound, if_pos rfl]
    exact settles_getD _ _
  · rw [hfound, if_neg hne.symm, if_pos rfl]
    exact settles_getD _ _
  · intro key hservice hclient
    rw [hfound, if_neg hservice, if_neg hclient]

/-! ## Clients -/

/-- An execution client before and after it is filled. -/
structure ExecutionClient.Completes (d : ClientDefaults) (before after : ExecutionClient) :
    Prop where
  kind : after.kind = before.kind
  image : Settles (d.executionImage before.kind) before.image after.image
  cpu : Settles (d.resources .execution).cpuMillicores before.cpu after.cpu
  memory : Settles (d.resources .execution).memoryMegabytes before.memory after.memory
  labels : Labels.Completes .execution before.kind.name before.labels after.labels

/-- An execution client is completed. -/
theorem ExecutionClient.backfill_completes (d : ClientDefaults) (c : ExecutionClient) :
    c.Completes d (c.backfill d) where
  kind := rfl
  image := settles_getD _ _
  cpu := settles_getD _ _
  memory := settles_getD _ _
  labels := Labels.withDefaults_completes _ _ _

/-- A sidecar before and after it is filled; it takes its type from its owner, and then its image
and its labels from its type. -/
structure ValidatorClient.Completes (d : ClientDefaults) (owner : ConsensusKind)
    (before after : ValidatorClient) : Prop where
  kind : Settles owner before.kind after.kind
  image : Settles (d.validatorImage (before.kind.getD owner)) before.image after.image
  cpu : Settles (d.resources .validator).cpuMillicores before.cpu after.cpu
  memory : Settles (d.resources .validator).memoryMegabytes before.memory after.memory
  labels : Labels.Completes .validator (before.kind.getD owner).name before.labels after.labels

/-- A validator client is completed, with the kind of its owner if it has none. -/
theorem ValidatorClient.backfill_completes (d : ClientDefaults) (owner : ConsensusKind)
    (v : ValidatorClient) : v.Completes d owner (v.backfill d owner) where
  kind := settles_getD _ _
  image := settles_getD _ _
  cpu := settles_getD _ _
  memory := settles_getD _ _
  labels := Labels.withDefaults_completes _ _ _

namespace ConsensusClient

/-- A consensus client before and after it is filled.  A sidecar that is not described is filled
like one of which nothing is said. -/
structure Completes (d : ClientDefaults) (before after : ConsensusClient) : Prop where
  kind : after.kind = before.kind
  hasSidecar : after.hasSidecar = before.hasSidecar
  image : Settles (d.beaconImage before.kind) before.image after.image
  cpu : Settles (d.resources .consensus).cpuMillicores before.cpu after.cpu
  memory : Settles (d.resources .consensus).memoryMegabytes before.memory after.memory
  labels : Labels.Completes .consensus before.kind.name before.labels after.labels
  sidecar : ∀ v, after.validator = some v →
    (before.validator.getD (.ofKind none)).Completes d before.kind v

/-- A consensus client is completed, with its validator client. -/
theorem filled_completes (d : ClientDefaults) (c : ConsensusClient) :
    c.Completes d (c.filled d) where
  kind := rfl
  hasSidecar := rfl
  image := settles_getD _ _
  cpu := settles_getD _ _
  memory := settles_getD _ _
  labels := Labels.withDefaults_completes _ _ _
  sidecar := by
    intro v hv
    by_cases hflag : c.hasSidecar
    · simp only [filled, hflag, if_true, Option.some.injEq] at hv
      rw [← hv]
      exact ValidatorClient.backfill_completes _ _ _
    · simp [filled, hflag] at hv

/-- Filling is refused exactly where a sidecar is described that is said not to be there; then only
the fields of the beacon node are filled. -/
theorem attemptBackfill_eq (d : ClientDefaults) (c : ConsensusClient) :
    c.attemptBackfill d =
      if c.hasSidecar = false ∧ c.validator.isSome then
        (c.backfillBeacon d, some c.sidecarFailure)
      else (c.filled d, none) := by
  obtain ⟨kind, image, flag, validator, cpu, memory, labels⟩ := c
  cases flag with
  | true => rfl
  | false => cases validator <;> rfl

/-- A filled client is filled already, whatever the defaults are. -/
theorem Filled.attemptBackfill_eq {c : ConsensusClient} (h : c.Filled) (d : ClientDefaults) :
    c.attemptBackfill d = (c, none) := by
  have hrule : c.validator.isSome = c.hasSidecar := h.rule
  have hself : c = c.filled d := (backfill_eq_ok.1 (h.backfill_eq d)).2
  rw [ConsensusClient.attemptBackfill_eq, if_neg, ← hself]
  rintro ⟨hnone, hsome⟩
  rw [hrule, hnone] at hsome
  cases hsome

end ConsensusClient

/-! ## Filling -/

/-- Filling is complete, keeps what is set, and is done once and for all.

An execution client is always filled.  A consensus client is refused exactly if it describes a
sidecar that it says it does not have, and then its flag and its sidecar are left as they were.  A
filled client has no open field and keeps the sidecar rule, every field and every label that was set
is as before, and filling it again with other defaults changes nothing.  So network parameters
always declare a topology, and all of its nodes keep the sidecar rule. -/
theorem backfill_complete (d : ClientDefaults) (el : ExecutionClient) (cl : ConsensusClient)
    (network : NetworkConfig) :
    ((el.backfill d).Filled ∧ el.Completes d (el.backfill d) ∧
        ∀ d', (el.backfill d).backfill d' = el.backfill d) ∧
      ((cl.attemptBackfill d).2.isSome ↔ cl.hasSidecar = false ∧ cl.validator.isSome) ∧
      (∀ c failure, cl.attemptBackfill d = (c, some failure) →
        failure = .sidecar cl.kind.name
            "has_validator_sidecar is false but a validator client is set" ∧
          c.hasSidecar = cl.hasSidecar ∧ c.validator = cl.validator) ∧
      (∀ c, cl.attemptBackfill d = (c, none) →
        c.Filled ∧ cl.Completes d c ∧ ∀ d', c.attemptBackfill d' = (c, none)) ∧
      ∃ t, Topology.ofNetwork d network = .ok t ∧ ∀ n ∈ t.nodes, n.consensus.SidecarRule := by
  have hel : (el.backfill d).Filled := el.backfill_filled d
  have hattempt := cl.attemptBackfill_eq d
  refine ⟨⟨hel, el.backfill_completes d, hel.backfill_eq⟩, ?_, ?_, ?_, ?_⟩
  · by_cases hrefused : cl.hasSidecar = false ∧ cl.validator.isSome
    · simp [hattempt, hrefused]
    · rw [hattempt, if_neg hrefused]
      simp [hrefused]
  · intro c failure h
    by_cases hrefused : cl.hasSidecar = false ∧ cl.validator.isSome
    · rw [hattempt, if_pos hrefused] at h
      cases h
      exact ⟨rfl, rfl, rfl⟩
    · rw [hattempt, if_neg hrefused] at h
      cases h
  · intro c h
    by_cases hrefused : cl.hasSidecar = false ∧ cl.validator.isSome
    · rw [hattempt, if_pos hrefused] at h
      cases h
    · rw [hattempt, if_neg hrefused] at h
      cases h
      have hfilled := cl.filled_filled d
      exact ⟨hfilled, cl.filled_completes d, hfilled.attemptBackfill_eq⟩
  · refine ⟨_, Topology.ofNetwork_eq d network, fun n hn => ?_⟩
    exact ((Topology.declared_numbered d _ _).consensus n hn).rule

/-- A client with an image and a label of its own, and with a sidecar of which nothing is said. -/
def pinnedTeku : ConsensusClient :=
  { ConsensusClient.ofKind .teku with
    image := some "teku:pinned"
    hasSidecar := true
    labels := .ofList [(clientTypeLabel, "custom")] }

/-- A client that describes a sidecar and says that there is none. -/
def describedLodestar : ConsensusClient :=
  { ConsensusClient.ofKind .lodestar with validator := some (.ofKind (some .teku)) }

/-- A pinned sidecar is completed, and one that is described but not there is refused as it was. -/
theorem backfill_complete_teku :
    (∃ c, pinnedTeku.attemptBackfill .standard = (c, none) ∧ c.Filled ∧
        pinnedTeku.Completes .standard c ∧ ∀ d', c.attemptBackfill d' = (c, none)) ∧
      ∃ c failure, describedLodestar.attemptBackfill .standard = (c, some failure) ∧
        failure = .sidecar "lodestar"
            "has_validator_sidecar is false but a validator client is set" ∧
          c.hasSidecar = false ∧ c.validator = some (.ofKind (some .teku)) := by
  let besu := ExecutionClient.ofKind .besu
  obtain ⟨-, -, -, hfilled, -⟩ := backfill_complete .standard besu pinnedTeku .empty
  obtain ⟨-, -, hrefused, -, -⟩ := backfill_complete .standard besu describedLodestar .empty
  exact ⟨⟨_, rfl, hfilled _ rfl⟩, ⟨_, _, rfl, hrefused _ _ rfl⟩⟩

end DevnetChaos
