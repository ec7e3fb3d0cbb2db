import DevnetChaos.Proofs.Schema.Network
import DevnetChaos.Schema.Text

/-!
# Documents of experiments that are written and read

What is written of an experiment is read as the same experiment, wherever it stands: in a tree that
was given, in a value that was kept, or in a text that says it.  The kinds of faults and steps are
told apart by an entry in front of the others, inside one another, and the entries that are left out
come back as what they were.  Only durations can lose something, and only those that their texts do
not hold.

Main definitions:

- `Fault.durations`, `PlanStep.durations`, `SuiteTest.durations`, `Experiment.durations`.
- `Experiment.Writable`: an experiment whose durations and counts can be written.

Main results:

- `Fault.reads_toTree`, `PlanStep.reads_toTree`, `SuiteTest.reads_toTree`,
  `Experiment.reads_toTree`: what is written is read.
- `Experiment.survives_writing`: an experiment comes back from its tree, and from a text that says
  it exactly if its faults pass their check.
-/

namespace DevnetChaos

open Decoder Record

/-! ## Durations -/

/-- The durations of a fault. -/
def Fault.durations : Fault → List Duration
  | clockSkew _ _ duration => [duration]
  | podRestart _ => []
  | ioLatency _ _ delay _ duration => [delay, duration]
  | networkLatency _ delay jitter _ duration => [delay, jitter, duration]
  | packetDrop _ _ _ duration => [duration]

/-- The durations of a step. -/
def PlanStep.durations : PlanStep → List Duration
  | injectFault _ fault => fault.durations
  | awaitFaults _ => []
  | awaitDuration _ duration => [duration]

/-- The durations of a test. -/
def SuiteTest.durations (t : SuiteTest) : List Duration :=
  t.steps.flatMap PlanStep.durations ++ t.health.gracePeriod.toList

/-- The durations of an experiment. -/
def Experiment.durations (e : Experiment) : List Duration :=
  e.waitBeforeInjection.toList ++ e.tests.flatMap SuiteTest.durations

/-- An experiment whose durations their texts hold, and whose groups of nodes have counts that are
machine words. -/
structure Experiment.Writable (e : Experiment) : Prop where
  durations : ∀ d ∈ e.durations, d.Writable
  counts : ∀ p ∈ e.network.participants, p.count < wordCount

/-- A duration, which is left out when it is absent. -/
theorem Record.Fills.duration {ρ : Type} {fields : List (Field ρ)} {r last : ρ}
    {es : List (String × Tree)} {name : String} {set : ρ → Option Duration → ρ}
    {value : Option Duration} (h : ∀ d ∈ value.toList, d.Writable) (hnone : set r none = r)
    (later : Fills fields (set r value) es last) :
    Fills (.optional name .duration set :: fields) r (durationEntry name value ++ es) last :=
  optional (fun d hd => reads_duration (h d (Option.mem_toList.2 hd)))
    (fun _ => Tree.noConfusion) hnone later

/-! ## Faults -/

/-- A requirement is read from what is written of it. -/
theorem Requirement.reads_toTree (r : Requirement) : Requirement.decode.Reads r.toTree r := by
  obtain ⟨key, operator, values⟩ := r
  have hoperator : operator ∈ SelectorOperator.all := by
    cases operator <;> decide
  rw [toTree, ← List.append_nil (Tree.entryUnless _ _ _)]
  refine reads_record (.required (reads_text key) <| .required (reads_word (by decide) hoperator) <|
    .entryUnless (reads_texts values) (fun hskip => ?_) .done) (by decide)
  cases List.isEmpty_iff.1 hskip
  rfl

theorem reads_requirementsTree (requirements : List Requirement) :
    decodeRequirements.Reads (requirementsTree requirements) requirements :=
  reads_list fun r _ => r.reads_toTree

/-- A fault of one kind is read from entries that fill the fields of its draft. -/
theorem Fault.Draft.reads_decode {fields : List (Field Draft)} {fault : Draft → Fault}
    {draft : Draft} {x : Fault} {es : List (String × Tree)} (h : Fills fields blank es draft)
    (hfault : fault draft = x) (hnames : (fields.map Field.name).Nodup) :
    (decode fields fault).Reads (.map es) x :=
  (reads_record h hnames).andThen (congrArg pure hfault)

theorem PacketDirection.mem_all (direction : PacketDirection) : direction ∈ all := by
  cases direction <;> decide

/-- A fault is read from what is written of it. -/
theorem Fault.reads_toTree {fault : Fault} (h : ∀ d ∈ fault.durations, d.Writable) :
    Fault.decode.Reads fault.toTree fault := by
  have hselector := reads_requirementsTree fault.selector
  cases fault with
  | clockSkew selector skew duration =>
    obtain ⟨hduration, -⟩ := List.forall_mem_cons.1 h
    exact reads_tagged rfl (by simp [parameterEntries]) <| Draft.reads_decode
      (.required hselector <| .required (reads_text skew) <|
        .required (reads_duration hduration) .done) rfl (by decide)
  | podRestart selector =>
    exact reads_tagged rfl (by simp [parameterEntries]) <| Draft.reads_decode
      (.required hselector .done) rfl (by decide)
  | ioLatency selector volumePath delay percent duration =>
    simp only [durations, List.forall_mem_cons] at h
    obtain ⟨hdelay, hduration, -⟩ := h
    exact reads_tagged rfl (by simp [parameterEntries]) <| Draft.reads_decode
      (.required hselector <| .required (reads_text volumePath) <|
        .required (reads_duration hdelay) <| .required (reads_byte percent) <|
        .required (reads_duration hduration) .done) rfl (by decide)
  | networkLatency selector delay jitter correlation duration =>
    simp only [durations, List.forall_mem_cons] at h
    obtain ⟨hdelay, hjitter, hduration, -⟩ := h
    exact reads_tagged rfl (by simp [parameterEntries]) <| Draft.reads_decode
      (.required hselector <| .required (reads_duration hdelay) <|
        .required (reads_duration hjitter) <| .required (reads_byte correlation) <|
        .required (reads_duration hduration) .done) rfl (by decide)
  | packetDrop selector percent direction duration =>
    obtain ⟨hduration, -⟩ := List.forall_mem_cons.1 h
    exact reads_tagged rfl (by simp [parameterEntries]) <| Draft.reads_decode
      (.required hselector <| .required (reads_byte percent) <|
        .required (reads_word (by decide) direction.mem_all) <|
        .required (reads_duration hduration) .done) rfl (by decide)

/-! ## Tests -/

/-- A step is read from what is written of it. -/
theorem PlanStep.reads_toTree {step : PlanStep} (h : ∀ d ∈ step.durations, d.Writable) :
    PlanStep.decode.Reads step.toTree step := by
  cases step with
  | injectFault description fault =>
    exact reads_tagged rfl (by simp) <| (reads_record (.required (reads_text description) <|
      .required (Fault.reads_toTree h) .done) (by decide)).andThen rfl
  | awaitFaults description =>
    exact reads_tagged rfl (by simp) <| (reads_record (.required (reads_text description) .done)
      (by decide)).andThen rfl
  | awaitDuration description duration =>
    obtain ⟨hduration, -⟩ := List.forall_mem_cons.1 h
    exact reads_tagged rfl (by simp) <| (reads_record (.required (reads_text description) <|
      .required (reads_duration hduration) .done) (by decide)).andThen rfl

/-- The settings of the health checks are read from what is written of them. -/
theorem HealthConfig.reads_toTree {health : HealthConfig}
    (h : ∀ d ∈ health.gracePeriod.toList, d.Writable) :
    HealthConfig.decode.Reads health.toTree health := by
  rw [toTree, ← List.append_nil (durationEntry _ _)]
  refine reads_record ?_ (by decide)
  exact .required (reads_bool health.enabled) <| .duration h rfl .done

/-- A test is read from what is written of it. -/
theorem SuiteTest.reads_toTree {t : SuiteTest} (h : ∀ d ∈ t.durations, d.Writable) :
    SuiteTest.decode.Reads t.toTree t := by
  obtain ⟨hsteps, hhealth⟩ := List.forall_mem_append.1 h
  refine reads_record ?_ (by decide)
  exact .required (reads_text t.name) <|
    .required (reads_list fun step hstep => PlanStep.reads_toTree fun d hd =>
      hsteps d (List.mem_flatMap.2 ⟨step, hstep, hd⟩)) <|
    .required (HealthConfig.reads_toTree hhealth) .done

/-! ## Experiments -/

namespace Experiment

/-- An experiment is read from what is written of it. -/
theorem reads_toTree {e : Experiment} (h : e.Writable) : Experiment.decode.Reads e.toTree e := by
  obtain ⟨hwait, htests⟩ := List.forall_mem_append.1 h.durations
  rw [toTree]
  simp only [List.cons_append, List.nil_append]
  refine reads_record ?_ (by decide)
  exact .required (reads_text e.enclave) <| .withDefault (reads_text e.enclaveNamespace) <|
    .withDefault (reads_text e.package) <| .withDefault (reads_bool e.startNewDevnet) <|
    .duration hwait rfl <| .required (NetworkConfig.reads_toTree h.counts) <|
    .required (reads_list fun t ht => SuiteTest.reads_toTree fun d hd =>
      htests d (List.mem_flatMap.2 ⟨t, ht, hd⟩)) .done

/-- What is read from a text that says a written experiment is the experiment, if its faults pass
their check, and the failure of that check otherwise. -/
theorem ofYaml_toYaml {e : Experiment} (h : e.Writable)
    (htext : (Yaml.Document.ofText e.toYaml).Says e.toTree) :
    Experiment.ofYaml e.toYaml = (Input.ofExcept e.validate).map fun _ => e := by
  rw [Experiment.ofYaml, (reads_toTree h).ofYaml htext]
  change (Input.ofExcept e.validate >>= fun _ => pure e) = _
  cases e.validate <;> rfl

/-- An experiment survives writing and reading: it is read back from its tree, from every place that
says its tree, and from its text, if the text says its tree, exactly if its faults pass their
check. -/
theorem survives_writing {e : Experiment} (h : e.Writable) :
    Experiment.decode.ofValue e.toTree = .ok e ∧
      (∀ p : Place, p.Says e.toTree →
        ∀ patience, Experiment.decode.run p patience = .ok e) ∧
      ((Yaml.Document.ofText e.toYaml).Says e.toTree →
        (Experiment.ofYaml e.toYaml = .ok e ↔ e.validate = .ok ())) := by
  have hreads := reads_toTree h
  refine ⟨hreads.ofValue, fun p hp patience => ?_, fun htext => ?_⟩
  · rw [Decoder.run, hreads.read p hp]
    rfl
  · rw [ofYaml_toYaml h htext]
    cases e.validate with
    | ok => exact ⟨fun _ => rfl, fun _ => rfl⟩
    | error => exact ⟨fun hok => (by cases hok), fun hok => (by cases hok)⟩

/-! ## An experiment with one fault -/

/-- An experiment that waits before its only fault. -/
def clockTest : Experiment where
  enclave := "devnet"
  enclaveNamespace := ""
  package := ""
  startNewDevnet := false
  waitBeforeInjection := some (.ofSeconds 90)
  network := .empty
  tests := [⟨"clock",
    [.injectFault "skew" (.clockSkew [.serviceIds ["el-1"]] "-5m" (.ofMillis 250))], .off⟩]

open Yaml in
theorem entryBlock_of_short {key : String} (h : isLongKey key = false) (indent : Nat) (t : Tree) :
    entryBlock indent (key, t) = shortEntry indent key (valueBlock indent t) := by
  rw [entryBlock, h, if_neg Bool.false_ne_true]

open Yaml in
theorem itemBlock_text (indent : Nat) (s : String) :
    itemBlock indent (.text s) = .ofText (scalarText (indent + 2) s) := by
  rw [itemBlock, valueBlock] <;> simp

open Yaml in
/-- The lines of its text. -/
theorem pieces_clockTest : pieces clockTest.toTree =
    ["enclave_name: devnet", "enclave_namespace: \x27\x27", "package_id: \x27\x27",
      "start_new_devnet: false", "wait_before_injection: 1m30s", "network_config:",
      "  participants: []", "  network_params:", "    num_validator_keys_per_node: 0",
      "  additional_services: []", "  parallel_keystore_generation: false",
      "  persistent: false", "  disable_peer_scoring: false", "tests:", "- testName: clock",
      "  planSteps:", "  - stepType: injectFault", "    description: skew", "    fault:",
      "      kind: clockSkew", "      selector:", "      - key: kurtosistech.com/id",
      "        operator: In", "        values:", "        - el-1", "      skew: -5m",
      "      duration: 250ms", "  health:", "    enableChecks: false"] := by
  have htree : clockTest.toTree = .map [("enclave_name", .text "devnet"),
      ("enclave_namespace", .text ""), ("package_id", .text ""),
      ("start_new_devnet", .bool false), ("wait_before_injection", .text "1m30s"),
      ("network_config", .map [("participants", .list []),
        ("network_params", .map [("num_validator_keys_per_node", .int 0)]),
        ("additional_services", .list []), ("parallel_keystore_generation", .bool false),
        ("persistent", .bool false), ("disable_peer_scoring", .bool false)]),
      ("tests", .list [.map [("testName", .text "clock"),
        ("planSteps", .list [.map [("stepType", .text "injectFault"),
          ("description", .text "skew"),
          ("fault", .map [("kind", .text "clockSkew"),
            ("selector", .list [.map [("key", .text "kurtosistech.com/id"),
              ("operator", .text "In"), ("values", .list [.text "el-1"])]]),
            ("skew", .text "-5m"), ("duration", .text "250ms")])]]),
        ("health", .map [("enableChecks", .bool false)])]])] := rfl
  rw [htree]
  -- Blocks inside blocks are not found by computing, so their equations are applied first.
  simp (disch := decide) only [pieces, entryPieces, entryBlock_of_short, shortEntry, valueBlock,
    itemPieces, itemBlock_text, itemBlock, Block.behind, Block.followedBy, Block.ofText]
  decide +kernel

open Yaml in
/-- Its text says its tree. -/
theorem says_clockTest : (Document.ofText clockTest.toYaml).Says clockTest.toTree := by
  let d := Document.ofTokens (tokens (((pieces clockTest.toTree).map closeLine).flatMap
    String.toList))
  have hd : (d.root.spells 128 clockTest.toTree && d.isLast) = true := by
    simp only [d, pieces_clockTest]
    decide +kernel
  have htext : Document.ofText clockTest.toYaml = d :=
    congrArg (fun cs => Document.ofTokens (tokens cs)) String.toList_join
  rw [htext]
  exact ⟨(Bool.and_eq_true_iff.1 hd).1, (Bool.and_eq_true_iff.1 hd).2⟩

theorem survives_writing_clockTest : clockTest.Writable ∧
    (Yaml.Document.ofText clockTest.toYaml).Says clockTest.toTree ∧
    Experiment.ofYaml clockTest.toYaml = .ok clockTest := by
  have hwritable : clockTest.Writable := ⟨by decide, by decide⟩
  exact ⟨hwritable, says_clockTest,
    ((survives_writing hwritable).2.2 says_clockTest).2 rfl⟩

end Experiment
end DevnetChaos
