import DevnetChaos.Proofs.Enclave.Discipline
import DevnetChaos.Proofs.Simulation.Quiet
import DevnetChaos.Proofs.Topology.Observed

/-!
# Looking at an enclave that runs a devnet

A manager asks two questions about an enclave that runs services of nodes: whether it exists, and
which services it runs.  What it makes of the answers is published and nothing more, so a running
devnet is never disturbed unless it is to be made anew.

Main definitions:

- `Run.Publishes`: a run that publishes notifications and does nothing else.
- `World.Runs`: an enclave of a deployment runs services of nodes.
- `EnclaveManager.sight`, `EnclaveManager.judge`: what a manager makes of services.
- `EnclaveManager.verdict`: what becomes of a running devnet.

Main results:

- `EnclaveManager.inspect_absent`, `EnclaveManager.inspect_found`: the questions and what comes
  after them.
- `EnclaveManager.prepare_running`: a running devnet is used exactly if it has the declared shape.
-/

namespace DevnetChaos

open Run Simulation

/-! ## Runs that only publish -/

/-- A run that publishes notifications and does nothing else. -/
def Run.Publishes {α : Type} (r : Run α) : Prop := r.Only fun c => ∃ n, c = .publish n

namespace Run.Publishes

variable {α : Type} {r : Run α}

/-- A run that only publishes changes no enclave. -/
theorem trace_calls {σ : Type} (h : r.Publishes) (env : Environment σ) (s : σ) :
    ∀ x ∈ r.trace env s, x.call.isMutation = false := by
  intro x hx
  obtain ⟨n, hn⟩ := h.path (path_trace env r s) x hx
  rw [hn]
  rfl

/-- Notifications reach the bus of the kept manager and change nothing else. -/
theorem execute_world (h : r.Publishes) (caller : Caller) (w : World) :
    ∃ kept, (r.execute (World.respond caller) w).2 = { w with manager := kept } := by
  have hkeep : ∀ c w', (∃ n, c = Call.publish n) → (∃ kept, w' = { w with manager := kept }) →
      ∃ kept, (World.respond caller c w').2 = { w with manager := kept } := by
    intro c w' hc hw'
    obtain ⟨n, rfl⟩ := hc
    obtain ⟨kept, rfl⟩ := hw'
    change ∃ kept', (if caller.onBus then World.publish { w with manager := kept } n else
      { w with manager := kept }) = { w with manager := kept' }
    split
    · exact ⟨kept.map fun k => { k with bus := k.bus.publish n }, rfl⟩
    · exact ⟨kept, rfl⟩
  exact Only.keeps h hkeep ⟨w.manager, rfl⟩

end Run.Publishes

/-! ## Looking -/

/-- An enclave of a deployment runs services, some of them services of nodes. -/
structure Simulation.World.Runs (enclave : String) (names : List String) (w : World) : Prop
    extends Candid w where
  services : w.host.servicesOf? enclave = some names
  running : ∃ name ∈ names, ServiceName.looksLikeNodeService name = true

namespace EnclaveManager

variable {m : EnclaveManager} {services : List String} {w : World} {α : Type}

/-- What a manager makes of the services of nodes that an enclave runs. -/
def judge (m : EnclaveManager) (nodeServices : List String) : Run Observation := do
  let running ← Run.ofExcept (Topology.ofServices nodeServices)
  m.observed ⟨m.compare running, some running⟩

/-- What a manager makes of all services that an enclave runs. -/
def sight (m : EnclaveManager) (services : List String) : Run Observation :=
  let nodeServices := services.filter ServiceName.looksLikeNodeService
  if nodeServices.isEmpty then m.observed ⟨.empty, none⟩ else m.judge nodeServices

/-- A manager that looks at an enclave which does not exist asks one question. -/
theorem inspect_absent (hw : w.Candid) (habsent : w.host.servicesOf? m.enclave = none)
    (caller : Caller) (f : Observation → Run α) :
    (m.inspect >>= f).execute (World.respond caller) w =
      (m.observed ⟨.absent, none⟩ >>= f).execute (World.respond caller)
        (w.lookedUp m.enclave) := by
  have hexists := hw.respond_enclaveExists caller m.enclave
  rw [habsent] at hexists
  exact execute_call hexists

/-- A manager that looks at an enclave which exists asks two questions and judges the services of
nodes. -/
theorem inspect_found (hw : w.Candid) (hservices : w.host.servicesOf? m.enclave = some services)
    (caller : Caller) (f : Observation → Run α) :
    (m.inspect >>= f).execute (World.respond caller) w =
        (m.sight services >>= f).execute (World.respond caller) (w.inspected m.enclave) ∧
      (m.inspect >>= f).trace (World.respond caller) w =
        ⟨.enclaveExists m.enclave, some (.ok true)⟩ ::
          ⟨.runningServices m.enclave, some (.ok services)⟩ ::
            (m.sight services >>= f).trace (World.respond caller) (w.inspected m.enclave) := by
  have hexists := hw.respond_enclaveExists caller m.enclave
  rw [hservices] at hexists
  have hasked : World.respond caller (.runningServices m.enclave) (w.lookedUp m.enclave) =
      (some (.ok services), w.inspected m.enclave) :=
    congrArg (fun x => (some x.1, x.2)) (hw.services_eq hservices)
  constructor
  · exact (execute_call hexists).trans (execute_call hasked)
  · exact (trace_call hexists).trans (congrArg _ (trace_call hasked))

/-- Where services of nodes run, what is seen is judged by them. -/
theorem sight_of_runs (m : EnclaveManager) (hw : w.Runs m.enclave services) :
    m.sight services = m.judge (services.filter ServiceName.looksLikeNodeService) := by
  have hnodes : ¬ (services.filter ServiceName.looksLikeNodeService).isEmpty = true := by
    obtain ⟨name, hname, hlooks⟩ := hw.running
    rw [List.isEmpty_iff]
    exact List.ne_nil_of_mem (List.mem_filter.2 ⟨hname, hlooks⟩)
  exact if_neg hnodes

/-- Where no service of a node runs, the enclave counts as empty. -/
theorem sight_of_none (m : EnclaveManager)
    (h : ¬ ∃ name ∈ services, ServiceName.looksLikeNodeService name = true) :
    m.sight services = m.observed ⟨.empty, none⟩ := by
  have hnodes : (services.filter ServiceName.looksLikeNodeService).isEmpty = true := by
    rw [List.isEmpty_iff, List.filter_eq_nil_iff]
    exact fun name hname hlooks => h ⟨name, hname, hlooks⟩
  exact if_pos hnodes

/-- A manager that looks at an enclave with a running devnet judges the services of nodes. -/
theorem inspect_running (hw : w.Runs m.enclave services) (caller : Caller)
    (f : Observation → Run α) :
    let rest := m.judge (services.filter ServiceName.looksLikeNodeService) >>= f
    (m.inspect >>= f).execute (World.respond caller) w =
        rest.execute (World.respond caller) (w.inspected m.enclave) ∧
      (m.inspect >>= f).trace (World.respond caller) w =
        ⟨.enclaveExists m.enclave, some (.ok true)⟩ ::
          ⟨.runningServices m.enclave, some (.ok services)⟩ ::
            rest.trace (World.respond caller) (w.inspected m.enclave) := by
  intro rest
  have hfound := inspect_found hw.toCandid hw.services caller f
  rw [m.sight_of_runs hw] at hfound
  exact hfound

/-- A manager goes on with a running devnet only if it has the declared shape. -/
theorem prepareFrom_running (m : EnclaveManager) (running : Topology) :
    m.prepareFrom ⟨m.compare running, some running⟩ =
      if running.agrees m.declared then do
        Run.publish (.attached m.enclave)
        return .attached
      else Run.fail (.topologyMismatch m.enclave m.declared.display running.display) := by
  unfold compare
  split <;> rfl

/-- What a manager makes of services is published. -/
theorem judge_publishes (m : EnclaveManager) (nodeServices : List String) :
    (m.judge nodeServices).Publishes :=
  Only.bind (.ofExcept _) fun _ => ⟨⟨_, rfl⟩, fun _ => trivial⟩

/-- Once the services are known, a manager only publishes what it makes of them. -/
theorem judge_prepareFrom_publishes (m : EnclaveManager) (nodeServices : List String) :
    (m.judge nodeServices >>= m.prepareFrom).Publishes := by
  unfold judge
  cases Topology.ofServices nodeServices with
  | error failure => trivial
  | ok running =>
    refine ⟨⟨_, rfl⟩, fun _ => ?_⟩
    change Run.Publishes (m.prepareFrom ⟨m.compare running, some running⟩)
    rw [prepareFrom_running]
    split
    · exact ⟨⟨_, rfl⟩, fun _ => trivial⟩
    · trivial

/-! ## Preparing a running devnet -/

/-- Neither enclaves nor pods are changed when a running devnet is not to be made anew. -/
theorem prepare_running_calls (hw : w.Runs m.enclave services) (caller : Caller) :
    ∀ x ∈ (m.prepare false).trace (World.respond caller) w, x.call.isMutation = false := by
  have htrace := (inspect_running hw caller m.prepareFrom).2
  have hrest := (judge_prepareFrom_publishes m
    (services.filter ServiceName.looksLikeNodeService)).trace_calls (World.respond caller)
      (w.inspected m.enclave)
  have hprepare : m.prepare false = m.inspect >>= m.prepareFrom := rfl
  rw [hprepare, htrace]
  simpa only [List.forall_mem_cons] using ⟨rfl, rfl, hrest⟩

/-- A preparation of a running devnet leaves nothing behind but a count of questions. -/
theorem prepare_running_world (hw : w.Runs m.enclave services) (caller : Caller) :
    ∃ kept, (w.carryOut caller (m.prepare false)).2 =
      { w.inspected m.enclave with manager := kept } := by
  have hexecute := (inspect_running hw caller m.prepareFrom).1
  have hpublishes := judge_prepareFrom_publishes m
    (services.filter ServiceName.looksLikeNodeService)
  obtain ⟨kept, hkept⟩ := hpublishes.execute_world caller (w.inspected m.enclave)
  exact ⟨kept, (congrArg Prod.snd hexecute).trans hkept⟩

/-- What becomes of a running devnet of which a topology was read off, or was not. -/
def verdict (m : EnclaveManager) : Except Failure Topology → Outcome Preparation
  | .ok running =>
      if running.agrees m.declared then .done .attached
      else .failed (.topologyMismatch m.enclave m.declared.display running.display)
  | .error failure => .failed failure

/-- A preparation of a running devnet comes to the verdict on its services. -/
theorem prepare_running_outcome (hw : w.Runs m.enclave services) (caller : Caller) :
    (w.carryOut caller (m.prepare false)).1 =
      m.verdict (Topology.ofServices (services.filter ServiceName.looksLikeNodeService)) := by
  have hexecute := (inspect_running hw caller m.prepareFrom).1
  refine (congrArg Prod.fst hexecute).trans ?_
  unfold judge
  cases Topology.ofServices (services.filter ServiceName.looksLikeNodeService) with
  | error failure => rfl
  | ok running =>
    change (Run.execute _ (m.prepareFrom ⟨m.compare running, some running⟩) _).1 = _
    rw [prepareFrom_running, verdict]
    split <;> rfl

/-- Only a topology that agrees with the declared one is used. -/
theorem verdict_eq_done {read : Except Failure Topology} {a : Preparation} :
    m.verdict read = .done a ↔
      a = .attached ∧ ∃ running, read = .ok running ∧ running.agrees m.declared = true := by
  cases read with
  | error failure => simp [verdict]
  | ok running =>
    by_cases hagrees : running.agrees m.declared = true
    · rw [verdict, if_pos hagrees]
      constructor
      · intro h
        cases h
        exact ⟨rfl, running, rfl, hagrees⟩
      · rintro ⟨rfl, -⟩
        rfl
    · simp [verdict, hagrees]

/-- Another topology than the declared one is a mismatch, and services of which no topology was
read off are not. -/
theorem verdict_eq_mismatch {names : List String} {enclave declared observed : String} :
    m.verdict (Topology.ofServices names) =
        .failed (.topologyMismatch enclave declared observed) ↔
      enclave = m.enclave ∧ declared = m.declared.display ∧
        ∃ running, Topology.ofServices names = .ok running ∧
          running.agrees m.declared = false ∧ observed = running.display := by
  cases hread : Topology.ofServices names with
  | error failure =>
    rcases Topology.ofServices_eq_error hread with ⟨name, rfl⟩ | ⟨flaw, rfl⟩ <;> simp [verdict]
  | ok running =>
    by_cases hagrees : running.agrees m.declared = true
    · simp [verdict, hagrees]
    · rw [verdict, if_neg hagrees]
      constructor
      · intro h
        cases h
        exact ⟨rfl, rfl, running, rfl, by simpa using hagrees, rfl⟩
      · rintro ⟨rfl, rfl, _, h, -, rfl⟩
        cases h
        rfl

/-- A running devnet that is not to be made anew is not disturbed: its enclave is only asked about,
and neither an enclave nor a pod changes.  It is used exactly if the services of nodes make up a
topology that agrees with the declared one, and refused as a mismatch exactly if they make up
another one; services that make up no topology are refused for that reason. -/
theorem prepare_running (hw : w.Runs m.enclave services) (caller : Caller) :
    let nodeServices := services.filter ServiceName.looksLikeNodeService
    let outcome := (w.carryOut caller (m.prepare false)).1
    let w' := (w.carryOut caller (m.prepare false)).2
    (∀ x ∈ (m.prepare false).trace (World.respond caller) w, x.call.isMutation = false) ∧
      w'.host.enclaves = w.host.enclaves ∧ w'.host.mutations = w.host.mutations ∧
      w'.cluster = w.cluster ∧
      (outcome = .done .attached ↔
        ∃ running, Topology.ofServices nodeServices = .ok running ∧
          running.agrees m.declared = true) ∧
      (∀ enclave declared observed,
        outcome = .failed (.topologyMismatch enclave declared observed) ↔
          enclave = m.enclave ∧ declared = m.declared.display ∧
            ∃ running, Topology.ofServices nodeServices = .ok running ∧
              running.agrees m.declared = false ∧ observed = running.display) ∧
      ∀ failure, Topology.ofServices nodeServices = .error failure →
        outcome = .failed failure := by
  intro nodeServices outcome w'
  obtain ⟨kept, hworld⟩ := prepare_running_world hw caller
  have hw' : w' = { w.inspected m.enclave with manager := kept } := hworld
  have houtcome : outcome = _ := prepare_running_outcome hw caller
  refine ⟨prepare_running_calls hw caller, by rw [hw']; rfl, ?_, by rw [hw']; rfl, ?_, ?_, ?_⟩
  · rw [hw']
    exact World.mutations_inspected m.enclave w
  · rw [houtcome, verdict_eq_done]
    exact and_iff_right rfl
  · intro enclave declared observed
    rw [houtcome, verdict_eq_mismatch]
  · intro failure hfailure
    rw [houtcome, hfailure]
    rfl

/-- Names of services of two nodes, of which one lacks its consensus service, and of an explorer
beside them. -/
def halfRunning : List String :=
  ["el-1-geth-lighthouse", "dora", "cl-1-lighthouse-geth", "el-2-geth-teku"]

/-- A devnet of which one service is missing is neither attached to nor built over. -/
theorem prepare_running_halfRunning :
    let network := .generated [Participant.ofKinds .geth .lighthouse] .unset
    let m : EnclaveManager := ⟨.standard EnclaveSettings.standardName, network,
      ⟨Topology.declaredNodes .standard network.params.keysPerNode 1 network.participants⟩⟩
    let w := World.running .standard m.enclave halfRunning
    let prepared := w.carryOut ⟨0, true⟩ (m.prepare false)
    prepared.1 = .failed (.inconsistentTopology (.consensusMissing "geth" 2)) ∧
      prepared.2.host.enclaves = w.host.enclaves ∧ prepared.2.cluster = w.cluster := by
  intro network m w prepared
  have hruns : w.Runs m.enclave halfRunning :=
    ⟨(World.quiet_running _ _ _ 0).toCandid, rfl, by decide +kernel⟩
  have hread : Topology.ofServices (halfRunning.filter ServiceName.looksLikeNodeService) =
      .error (.inconsistentTopology (.consensusMissing "geth" 2)) := by decide +kernel
  obtain ⟨-, henclaves, -, hcluster, -, -, hfailed⟩ := prepare_running hruns ⟨0, true⟩
  exact ⟨hfailed _ hread, henclaves, hcluster⟩

end EnclaveManager
end DevnetChaos
