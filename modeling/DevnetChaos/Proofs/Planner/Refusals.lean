import DevnetChaos.Proofs.Planner.Seed

/-!
# Why planning is refused

Planning is refused for what its document declares, and for nothing else: the services that it
names are its own, so none of the checks on services, selectors and topologies that it shares with
the rest of the program can fail on the way.

Main definitions:

- `Failure.IsDeclared`: failures that a document is to blame for.
- `InputFault.IsDeclared`: the same for the reading of input.

Main results:

- `PlannerConfig.faultPlan_declared`, `parseDimensions_declared`, `PlannerConfig.compose_declared`,
  `PlannerConfig.compile_declared`: the stages of planning.
- `Catalog.Declared.pad_declared`: padding does not run out of clients while it is drawn.
- `PlannerConfig.plan_outcomes`: a plan is refused for its document, or it can be run.
-/

namespace DevnetChaos

/-! ## Failures of documents -/

/-- Failures that a document is to blame for: an unsupported word or value, or a sidecar that is
described but not there. -/
inductive Failure.IsDeclared : Failure → Prop
  | configuration (cause : Misconfiguration) : IsDeclared (.configuration cause)
  | sidecar (client reason : String) : IsDeclared (.sidecar client reason)

/-- Such failures are found before anything is run, and running again does not help. -/
theorem Failure.IsDeclared.hints {failure : Failure} (h : failure.IsDeclared) :
    failure.isPreflight = true ∧ failure.isRetryable = false := by
  cases h <;> exact ⟨rfl, rfl⟩

/-- Input that is refused because of its document.  A duration that stops the program is no
refusal. -/
inductive InputFault.IsDeclared : InputFault → Prop
  | refused {failure : Failure} (h : failure.IsDeclared) : IsDeclared (.refused failure)
  | durationRange : IsDeclared .durationRange

/-- A refusal of bad input is a failure of a document. -/
theorem Input.refuse_declared {α : Type} (cause : Misconfiguration) :
    FailsOnly InputFault.IsDeclared (Input.refuse cause : Input α) :=
  .error (.refused (.configuration cause))

theorem Input.ofExcept_declared {α : Type} {x : Except Failure α}
    (h : FailsOnly Failure.IsDeclared x) :
    FailsOnly InputFault.IsDeclared (Input.ofExcept x) := by
  cases x with
  | ok a => exact .ok a
  | error failure => exact .error (.refused (h failure rfl))

/-- A text that is no duration is refused, and one that is too long stops the program. -/
theorem Input.duration_declared (text : String) :
    FailsOnly InputFault.IsDeclared (Input.duration text) := by
  unfold Input.duration
  split
  · exact .ok _
  · exact Input.refuse_declared _
  · exact .error .durationRange

/-! ## Words -/

/-- A word outside a vocabulary is refused. -/
theorem wordOf_declared {α : Type} (vocabulary : String) (all : List α) (name : α → String)
    (s : String) : FailsOnly Failure.IsDeclared (wordOf vocabulary all name s) := by
  unfold wordOf
  split
  · exact .ok _
  · exact .error (.configuration _)

/-- A word that names no client of either kind is refused. -/
theorem ClientKind.ofName_declared (s : String) :
    FailsOnly Failure.IsDeclared (ClientKind.ofName s) := by
  unfold ofName
  split
  · exact .ok _
  · exact .error (.configuration _)

theorem PacketDirection.ofName_declared (s : String) :
    FailsOnly Failure.IsDeclared (PacketDirection.ofName s) := by
  unfold ofName
  split
  · exact .ok _
  · exact .error (.configuration _)

/-- The words of the fault section are in their vocabularies, or one of them is refused. -/
theorem PlannerConfig.faultPlan_declared (c : PlannerConfig) :
    FailsOnly Failure.IsDeclared c.faultPlan := by
  unfold faultPlan
  refine .bind (wordOf_declared _ _ _ _) fun faultType _ => ?_
  refine .check (.configuration _) ?_
  refine .bind (.mapM (fun _ => wordOf_declared _ _ _ _) _) fun targeting _ => ?_
  refine .check (.configuration _) ?_
  refine .bind (.mapM (fun _ => wordOf_declared _ _ _ _) _) fun attackSizes _ => ?_
  refine .bind (ClientKind.ofName_declared _) fun target _ => ?_
  exact .check (.configuration _) (.ok _)

/-! ## Parameters -/

namespace Parameter

variable (type : FaultType) (entries : Dimension) (key : String)

/-- A parameter that is no scalar is refused. -/
theorem text?_declared : FailsOnly InputFault.IsDeclared (text? type entries key) := by
  unfold text?
  split
  · exact .ok _
  · split
    · exact .ok _
    · exact Input.refuse_declared _

/-- A missing parameter is refused. -/
theorem text_declared : FailsOnly InputFault.IsDeclared (text type entries key) := by
  refine .bind (text?_declared type entries key) fun s? _ => ?_
  split
  · exact .ok _
  · exact Input.refuse_declared _

theorem span_declared : FailsOnly InputFault.IsDeclared (span type entries key) :=
  .bind (text_declared type entries key) fun s _ => Input.duration_declared s

/-- A number that is no percentage is refused. -/
theorem percent_declared : FailsOnly InputFault.IsDeclared (percent type entries key) := by
  refine .bind (text_declared type entries key) fun s _ => ?_
  split
  · exact .ok _
  · exact Input.refuse_declared _

theorem skew_declared : FailsOnly InputFault.IsDeclared (skew type entries key) :=
  .bind (text_declared type entries key) fun _ _ =>
    .bind (Input.duration_declared _) fun _ _ => .ok _

theorem direction_declared : FailsOnly InputFault.IsDeclared (direction type entries key) :=
  .bind (text_declared type entries key) fun s _ =>
    Input.ofExcept_declared (PacketDirection.ofName_declared s)

/-- For every type of fault, parameters that do not fit it are refused. -/
theorem params_declared : FailsOnly InputFault.IsDeclared (params type entries) := by
  cases type with
  | clockSkew =>
    refine .bind (skew_declared _ _ _) fun skew _ => ?_
    exact .bind (span_declared _ _ _) fun _ _ => .ok _
  | restartFailures => exact .ok _
  | ioLatency =>
    refine .bind (span_declared _ _ _) fun delay _ => ?_
    refine .bind (percent_declared _ _ _) fun percent _ => ?_
    exact .bind (span_declared _ _ _) fun _ _ => .ok _
  | networkLatency =>
    refine .bind (span_declared _ _ _) fun delay _ => ?_
    refine .bind (span_declared _ _ _) fun jitter _ => ?_
    refine .bind (span_declared _ _ _) fun duration _ => ?_
    exact .bind (percent_declared _ _ _) fun _ _ => .ok _
  | packetDrop =>
    refine .bind (percent_declared _ _ _) fun percent _ => ?_
    refine .bind (direction_declared _ _ _) fun direction _ => ?_
    exact .bind (span_declared _ _ _) fun _ _ => .ok _

end Parameter

/-- A dimension is refused for one of its parameters or for its grace period. -/
theorem ParamDimension.parse_declared (type : FaultType) (entries : Dimension) :
    FailsOnly InputFault.IsDeclared (ParamDimension.parse type entries) := by
  refine .bind (Parameter.params_declared type entries) fun params _ => ?_
  refine .bind (Parameter.text?_declared type entries _) fun s? _ => ?_
  split
  · exact .ok _
  · exact .bind (Input.duration_declared _) fun _ _ => .ok _

/-- Dimensions hold the parameters of their fault, or one of them is refused. -/
theorem parseDimensions_declared (type : FaultType) (dimensions : List Dimension) :
    FailsOnly InputFault.IsDeclared (parseDimensions type dimensions) := by
  unfold parseDimensions
  split
  · exact .bind (ParamDimension.parse_declared type _) fun _ _ => .ok _
  · exact .mapM (ParamDimension.parse_declared type) dimensions

/-! ## Networks -/

/-- A consensus client can be filled unless its sidecar is described but not there. -/
theorem ConsensusClient.backfill_declared (d : ClientDefaults) (c : ConsensusClient) :
    FailsOnly Failure.IsDeclared (c.backfill d) := by
  unfold backfill attemptBackfill
  cases c.hasSidecar with
  | true => exact .ok _
  | false =>
    cases c.validator with
    | none => exact .ok _
    | some v => exact .error (.sidecar _ _)

/-- A share that is no proper fraction is refused. -/
theorem SizingPolicy.size_declared (policy : SizingPolicy) (counterparts : Nat) :
    FailsOnly Failure.IsDeclared (policy.size counterparts) := by
  unfold size
  by_cases hfactor : policy.factor = 0
  · rw [if_pos hfactor]
    exact .error (.configuration _)
  · rw [if_neg hfactor]
    cases policy.share with
    | none => exact .ok _
    | some share =>
      change FailsOnly _ (if !validShare share then _ else if share == 0.0 then _ else _)
      split
      · exact .error (.configuration _)
      · split
        · exact .ok _
        · exact .ok _

namespace Catalog

/-- A target that no version is given for is refused. -/
theorem targetPairs_declared (c : Catalog) (target : ClientKind) :
    FailsOnly Failure.IsDeclared (c.targetPairs target) := by
  unfold targetPairs
  split
  · split
    · exact .ok _
    · exact .error (.configuration _)
  · split
    · exact .ok _
    · exact .error (.configuration _)

/-- Padding fails only where nothing is eligible; then nothing is drawn at all. -/
theorem Declared.pad_declared {catalog : Catalog} {d : ClientDefaults} {c : PlannerConfig}
    (h : catalog.Declared d c) (target : ClientKind) (count first : Nat) (votes : UInt32)
    (source : Random.Source) :
    FailsOnly Failure.IsDeclared (catalog.pad target count first votes source).1 := by
  obtain ⟨hels, hcls⟩ := h.length_le
  rcases pad_refused_or_padded hels hcls target count first votes with hrefused | hpadded
  · rw [hrefused source]
    exact .error (.configuration _)
  · obtain ⟨nodes, rest, hpad⟩ := hpadded source
    rw [hpad]
    exact .ok nodes

end Catalog

/-- A suite that is not refused has tests. -/
theorem FaultPlan.compile_ne_nil {plan : FaultPlan} {d : ClientDefaults}
    {dimensions : List ParamDimension} {t : Topology} {bootnode : Option Nat}
    {tests : List SuiteTest} (h : plan.compile d dimensions t bootnode = .ok tests) :
    tests ≠ [] := by
  obtain ⟨compiled, -, h⟩ := bind_eq_ok.1 h
  rintro rfl
  split at h
  · cases h
  · next hsome =>
    cases h
    exact hsome rfl

namespace PlannerConfig

/-- Two versions of one client are refused. -/
theorem ensureUnique_declared (c : PlannerConfig) :
    FailsOnly Failure.IsDeclared c.ensureUnique := by
  unfold ensureUnique
  split
  · exact .error (.configuration _)
  · split
    · exact .error (.configuration _)
    · exact .ok _

/-- Versions are refused if one is given twice, or for a sidecar that is described but not there. -/
theorem catalog_declared (d : ClientDefaults) (c : PlannerConfig) :
    FailsOnly Failure.IsDeclared (c.catalog d) := by
  refine .bind (ensureUnique_declared c) fun _ _ => ?_
  refine .bind (.mapM (fun v => ?_) c.consensus) fun consensus _ => .ok _
  exact ConsensusClient.backfill_declared d v.declared

/-- A bootnode whose clients are not among the versions is refused. -/
theorem bootnodeNodes_declared (c : PlannerConfig) (catalog : Catalog) :
    FailsOnly Failure.IsDeclared (c.bootnodeNodes catalog) := by
  unfold bootnodeNodes
  split
  · exact .ok _
  · split
    · split
      · exact .ok _
      · exact .error (.configuration _)
    · exact .error (.configuration _)

/-- A network is refused for its versions, its target, its size or its bootnode. -/
theorem skeleton_declared (d : ClientDefaults) (c : PlannerConfig) (target : ClientKind) :
    FailsOnly Failure.IsDeclared (c.skeleton d target) := by
  refine .bind (catalog_declared d c) fun catalog _ => ?_
  refine .bind (bootnodeNodes_declared c catalog) fun bootnode _ => ?_
  refine .bind (SizingPolicy.size_declared _ _) fun size _ => ?_
  exact .bind (.map _ (catalog.targetPairs_declared target)) fun _ _ => .ok _

/-- A network is composed, or its document is refused. -/
theorem compose_declared (d : ClientDefaults) (c : PlannerConfig) (target : ClientKind)
    (source : Random.Source) :
    FailsOnly Failure.IsDeclared (c.compose d target source).1 := by
  unfold compose
  split
  · next failure hskeleton => exact .error (skeleton_declared d c target failure hskeleton)
  · next s hskeleton =>
    have hdeclared := catalog_eq_ok (skeleton_eq_ok hskeleton).1
    have hpad := hdeclared.pad_declared target (s.size.target - s.size.base)
      (s.firstIndex + s.size.base) c.params.keysPerNode source
    split
    · next failure rest hfails =>
      rw [hfails] at hpad
      exact .error (hpad failure rfl)
    · exact .ok _

/-- On a composed network every combination is compiled or left out; only a suite without tests is
refused. -/
theorem compile_declared {d : ClientDefaults} {c : PlannerConfig} {fault : FaultPlan}
    {source : Random.Source} {t : Topology} {bootnode : Option Nat}
    (h : (c.compose d fault.target source).1 = .ok (t, bootnode))
    (dimensions : List ParamDimension) :
    FailsOnly Failure.IsDeclared (fault.compile d dimensions t bootnode) := by
  obtain ⟨parts, hvalid, hnodes, -⟩ := compose_eq_ok (Prod.ext h rfl)
  obtain ⟨hword, hcount⟩ := hvalid.candidates_bounds hnodes bootnode
  rw [FaultPlan.compile_eq (hvalid.distinct hnodes) hword hcount]
  split
  · exact .error (.configuration _)
  · exact .ok _

/-! ## Plans -/

/-- No plan fails in another way than a faulty document does. -/
theorem plan_declared (d : ClientDefaults) (c : PlannerConfig) (source : Random.Source) :
    FailsOnly InputFault.IsDeclared (c.plan d source) := by
  refine .bind (Input.ofExcept_declared (faultPlan_declared c)) fun fault _ => ?_
  refine .bind (parseDimensions_declared _ _) fun dimensions _ => ?_
  refine .bind (Input.ofExcept_declared (compose_declared d c fault.target source)) ?_
  rintro ⟨t, bootnode⟩ hcompose
  have hcompile := compile_declared (Input.ofExcept_eq_ok.1 hcompose) dimensions
  exact .bind (Input.ofExcept_declared hcompile) fun _ _ => .ok _

/-- Planning fails with failures of its document only, which are found before anything is run and
are not worth a second try.  A plan that it comes back with has tests, and no experiment of it is
refused. -/
theorem plan_outcomes (d : ClientDefaults) (c : PlannerConfig) (source : Random.Source) :
    (∀ failure, c.plan d source = .error (.refused failure) →
        failure.IsDeclared ∧ failure.isPreflight = true ∧ failure.isRetryable = false) ∧
      ∀ p, c.plan d source = .ok p →
        p.tests ≠ [] ∧ ∀ enclave, (p.experiment enclave).validate = .ok () := by
  constructor
  · intro failure hfails
    obtain ⟨hdeclared⟩ := plan_declared d c source _ hfails
    exact ⟨hdeclared, hdeclared.hints⟩
  · intro p hp
    obtain ⟨fault, dimensions, -, -, -, hcompile, -⟩ := plan_eq_ok hp
    exact ⟨FaultPlan.compile_ne_nil hcompile, plan_validate hp⟩

/-- A document that describes a sidecar of lighthouse and says that there is none. -/
def undeclaredSidecar : PlannerConfig :=
  { sample with consensus := [⟨.lighthouse, none, some .teku, none, some false⟩] }

/-- The sample document has a plan, and a version with an undeclared sidecar is refused. -/
theorem plan_outcomes_sample :
    (∃ p, sample.plan .standard (.ofSeed 0) = .ok p ∧
        p.tests ≠ [] ∧ ∀ enclave, (p.experiment enclave).validate = .ok ()) ∧
      ∃ failure, undeclaredSidecar.plan .standard (.ofSeed 0) = .error (.refused failure) ∧
        failure.isPreflight = true ∧ failure.isRetryable = false := by
  constructor
  · have hok : (sample.plan .standard (.ofSeed 0)).isOk = true := by decide +kernel
    obtain ⟨p, hp⟩ := exists_eq_ok_of_isOk hok
    exact ⟨p, hp, (plan_outcomes .standard sample (.ofSeed 0)).2 p hp⟩
  · have hrefused : undeclaredSidecar.plan .standard (.ofSeed 0) =
        .error (.refused ((ConsensusClient.ofKind .lighthouse).sidecarFailure)) := rfl
    exact ⟨_, hrefused, ((plan_outcomes .standard undeclaredSidecar (.ofSeed 0)).1 _ hrefused).2⟩

end PlannerConfig
end DevnetChaos
