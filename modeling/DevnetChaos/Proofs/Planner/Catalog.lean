import DevnetChaos.Planner.Plan
import DevnetChaos.Proofs.Client.Filled
import Mathlib.Data.List.Nodup
import Mathlib.Data.List.Perm.Subperm

/-!
# Catalogs and sizes

A catalog comes from declarations without repeats, so it holds at most one client of each kind and
is short.  The product that sizes a network therefore stays far below a word.

Main results:

- `PlannerConfig.ensureUnique_eq_ok`: which declarations pass the check for repeats.
- `PlannerConfig.catalog_eq_ok`: where a catalog comes from.
- `Catalog.Declared.counterparts_le`: no side has more clients than there are implementations.
- `SizingPolicy.base_of_size`: the number of nodes with the target client.
-/

namespace DevnetChaos

/-! ## Repeats -/

namespace PlannerConfig

/-- There is no repeat exactly if the elements differ from each other and from those seen. -/
theorem firstRepeat?_eq_none {α : Type} [BEq α] [LawfulBEq α] {seen xs : List α} :
    firstRepeat? seen xs = none ↔ xs.Nodup ∧ ∀ x ∈ xs, x ∉ seen := by
  induction xs generalizing seen with
  | nil => simp [firstRepeat?]
  | cons x rest ih =>
    rw [firstRepeat?]
    by_cases hx : x ∈ seen
    · simp [hx]
    · simp only [List.contains_eq_mem, hx, decide_false, Bool.false_eq_true, if_false, ih,
        List.mem_cons, List.nodup_cons, not_or, forall_eq_or_imp, not_false_eq_true, true_and]
      constructor
      · rintro ⟨hrest, hnew⟩
        exact ⟨⟨fun hmem => (hnew x hmem).1 rfl, hrest⟩, fun y hy => (hnew y hy).2⟩
      · rintro ⟨⟨hfirst, hrest⟩, hnew⟩
        exact ⟨hrest, fun y hy => ⟨fun heq => hfirst (heq ▸ hy), hnew y hy⟩⟩

/-- The check for repeats passes exactly if every client is declared once. -/
theorem ensureUnique_eq_ok {c : PlannerConfig} {u : Unit} :
    c.ensureUnique = .ok u ↔
      (c.execution.map (·.kind)).Nodup ∧ (c.consensus.map (·.kind)).Nodup := by
  unfold ensureUnique
  have hexecution := @firstRepeat?_eq_none _ _ _ [] (c.execution.map (·.kind))
  have hconsensus := @firstRepeat?_eq_none _ _ _ [] (c.consensus.map (·.kind))
  simp only [List.not_mem_nil, not_false_eq_true, implies_true, and_true] at hexecution hconsensus
  cases hel : firstRepeat? [] (c.execution.map (·.kind)) with
  | some kind => simp [← hexecution, hel]
  | none =>
    cases hcl : firstRepeat? [] (c.consensus.map (·.kind)) with
    | some kind => simp [← hexecution, ← hconsensus, hcl]
    | none => simp [← hexecution, ← hconsensus, hel, hcl]

end PlannerConfig

/-! ## Catalogs -/

namespace Catalog

/-- The clients of a catalog are the declared versions with their fields filled, in declaration
order, and no client is declared twice. -/
structure Declared (catalog : Catalog) (d : ClientDefaults) (c : PlannerConfig) : Prop where
  execution : catalog.execution = c.execution.map (·.client d)
  consensus : c.consensus.map (·.client d) = catalog.consensus.map .ok
  executionKinds : (catalog.execution.map (·.kind)).Nodup
  consensusKinds : (catalog.consensus.map (·.kind)).Nodup

end Catalog

namespace PlannerConfig

/-- A consensus version keeps its kind. -/
theorem consensus_kinds {d : ClientDefaults} {versions : List ConsensusVersion}
    {clients : List ConsensusClient} (h : versions.map (·.client d) = clients.map .ok) :
    clients.map (·.kind) = versions.map (·.kind) := by
  induction versions generalizing clients with
  | nil =>
    cases clients with
    | nil => rfl
    | cons cl rest => simp at h
  | cons v later ih =>
    cases clients with
    | nil => simp at h
    | cons cl rest =>
      simp only [List.map_cons, List.cons.injEq] at h
      rw [List.map_cons, List.map_cons, ih h.2, ConsensusClient.backfill_kind h.1]
      rfl

/-- A catalog comes from declarations without repeats. -/
theorem catalog_eq_ok {d : ClientDefaults} {c : PlannerConfig} {catalog : Catalog}
    (h : c.catalog d = .ok catalog) : catalog.Declared d c := by
  unfold PlannerConfig.catalog at h
  obtain ⟨_, hunique, h⟩ := bind_eq_ok.1 h
  obtain ⟨consensus, hconsensus, h⟩ := bind_eq_ok.1 h
  cases h
  obtain ⟨helKinds, hclKinds⟩ := ensureUnique_eq_ok.1 hunique
  have hclients := mapM_eq_ok.1 hconsensus
  refine ⟨rfl, hclients, ?_, ?_⟩
  · rw [executionCatalog, List.map_map]
    exact helKinds
  · rw [consensus_kinds hclients]
    exact hclKinds

end PlannerConfig

namespace Catalog
namespace Declared

variable {catalog : Catalog} {d : ClientDefaults} {c : PlannerConfig}

/-- Every execution client of a catalog is filled. -/
theorem execution_filled (h : catalog.Declared d c) {el : ExecutionClient}
    (hel : el ∈ catalog.execution) : el.Filled := by
  rw [h.execution] at hel
  obtain ⟨v, _, rfl⟩ := List.mem_map.1 hel
  exact ExecutionClient.backfill_filled ..

/-- Every consensus client of a catalog is filled. -/
theorem consensus_filled (h : catalog.Declared d c) {cl : ConsensusClient}
    (hcl : cl ∈ catalog.consensus) : cl.Filled := by
  have hmem : Except.ok cl ∈ c.consensus.map (·.client d) :=
    h.consensus ▸ List.mem_map_of_mem hcl
  obtain ⟨v, _, hv⟩ := List.mem_map.1 hmem
  exact ConsensusClient.backfill_filled hv

theorem execution_nodup (h : catalog.Declared d c) : catalog.execution.Nodup :=
  List.Nodup.of_map _ h.executionKinds

theorem consensus_nodup (h : catalog.Declared d c) : catalog.consensus.Nodup :=
  List.Nodup.of_map _ h.consensusKinds

/-- No side has more clients than there are implementations. -/
theorem counterparts_le (h : catalog.Declared d c) (target : ClientKind) :
    catalog.counterparts target ≤ 7 := by
  cases target with
  | execution kind =>
    have hall : catalog.consensus.map (·.kind) ⊆ ConsensusKind.all := by
      intro k _
      cases k <;> decide
    have hle := (List.subperm_of_subset h.consensusKinds hall).length_le
    rw [List.length_map] at hle
    exact Nat.le_trans hle (by decide)
  | consensus kind =>
    have hall : catalog.execution.map (·.kind) ⊆ ExecutionKind.all := by
      intro k _
      cases k <;> decide
    have hle := (List.subperm_of_subset h.executionKinds hall).length_le
    rw [List.length_map] at hle
    exact hle

end Declared
end Catalog

/-! ## Sizes -/

namespace SizingPolicy

/-- A network is sized only for a multiplier that is not zero. -/
theorem size_eq_ok {policy : SizingPolicy} {counterparts : Nat} {size : NetworkSize}
    (h : policy.size counterparts = .ok size) :
    policy.factor ≠ 0 ∧ size.base = wrap64 (policy.factor.toNat * counterparts) := by
  unfold SizingPolicy.size at h
  split at h
  · cases h
  · next hfactor =>
    refine ⟨hfactor, ?_⟩
    dsimp only at h
    split at h
    · cases h
      rfl
    · split at h
      · cases h
      · split at h
        all_goals
          cases h
          rfl

/-- The number of nodes with the target client is the exact product, as there are few clients. -/
theorem base_of_size {policy : SizingPolicy} {counterparts : Nat} {size : NetworkSize}
    (h : policy.size counterparts = .ok size) (hfew : counterparts ≤ 7) :
    size.base = policy.factor.toNat * counterparts := by
  rw [(size_eq_ok h).2]
  have hfactor : policy.factor.toNat < 4294967296 := policy.factor.toNat_lt
  have hproduct : policy.factor.toNat * counterparts ≤ 4294967296 * 7 :=
    Nat.mul_le_mul (Nat.le_of_lt hfactor) hfew
  exact wrap64_of_lt (Nat.lt_of_le_of_lt hproduct (by decide))

end SizingPolicy
end DevnetChaos
