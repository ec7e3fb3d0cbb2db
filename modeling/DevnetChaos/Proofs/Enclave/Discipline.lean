import DevnetChaos.Enclave.Manager
import DevnetChaos.Proofs.Enclave.BuildWatch
import DevnetChaos.Proofs.Topology.Numbered
import DevnetChaos.Sample

/-!
# The calls of a manager

Whatever the platform answers, and whenever a manager is cancelled, it destroys an enclave at most
once and only to make it anew, leaves the platform its time afterwards, creates only what was just
said not to exist, builds only where nothing runs, and gives up at the first failure.

Main definitions:

- `Exchange.breaks`: an exchange after which the platform is not called again.
- `Settled`: a history in which the platform was given time after every destruction.
- `EnclaveManager.declaring`: the manager of a network.
- `EnclaveManager.MayCall`: which calls a manager may make after a history.

Main results:

- `EnclaveManager.ofNetwork_eq`: every network has a manager.
- `EnclaveManager.rebuild_obeys`, `EnclaveManager.inspect_obeys`: the two ways to begin.
- `EnclaveManager.calls_disciplined`: the calls of a preparation and of a forced restart.
-/

namespace DevnetChaos

open Run

/-! ## Histories of calls to the platform -/

/-- A call to the platform that hosts enclaves. -/
def Call.isPlatformCall : Call → Bool
  | .enclaveExists _ | .createEnclave _ | .destroyEnclave _ | .runningServices _
  | .buildNetwork .. => true
  | _ => false

/-- Watching a build makes no calls to the platform. -/
theorem Call.not_isPlatformCall_of_isWatch {c : Call} (h : c.isWatch = true) :
    c.isPlatformCall = false := by
  cases c with
  | pause | awaitCancellation | note => rfl
  | _ => cases h

/-- A call that changes an enclave. -/
def Call.isMutation : Call → Bool
  | .createEnclave _ | .destroyEnclave _ | .buildNetwork .. => true
  | _ => false

/-- Only calls to the platform change an enclave. -/
theorem Call.not_isMutation_of_not_isPlatformCall {c : Call} (h : c.isPlatformCall = false) :
    c.isMutation = false := by
  cases c with
  | createEnclave | destroyEnclave | buildNetwork => cases h
  | _ => rfl

def Call.isDestruction : Call → Bool
  | .destroyEnclave _ => true
  | _ => false

/-- Whether a call to the platform has failed or a wait was cancelled. -/
def Exchange.breaks : Exchange → Bool
  | ⟨.enclaveExists _, some (.error _)⟩ => true
  | ⟨.createEnclave _, some (.error _)⟩ => true
  | ⟨.destroyEnclave _, some (.error _)⟩ => true
  | ⟨.runningServices _, some (.error _)⟩ => true
  | ⟨.buildNetwork .., some (.error _)⟩ => true
  | ⟨.pause _, some .cancelled⟩ => true
  | _ => false

/-- The last call to the platform and its answer. -/
def lastPlatformCall? (exchanges : List Exchange) : Option Exchange :=
  (exchanges.filter fun x => x.call.isPlatformCall).getLast?

/-- A call to the platform is the last one after it, and any other call changes nothing. -/
theorem lastPlatformCall?_concat (past : List Exchange) (x : Exchange) :
    lastPlatformCall? (past ++ [x]) =
      if x.call.isPlatformCall then some x else lastPlatformCall? past := by
  unfold lastPlatformCall?
  rw [List.filter_append]
  by_cases hx : x.call.isPlatformCall = true <;> simp [hx]

/-- The delay after a destruction has passed, and nothing was cancelled. -/
def settling (delay : Duration) : Exchange := ⟨.pause delay.wholeMillis, some .elapsed⟩

/-- After every destruction the platform was given its time. -/
def Settled (delay : Duration) (exchanges : List Exchange) : Prop :=
  ∀ before x after, exchanges = before ++ x :: after → x.call.isDestruction = true →
    settling delay ∈ after

variable {delay : Duration} {past : List Exchange} {x : Exchange}

theorem settled_nil (delay : Duration) : Settled delay [] := by
  intro before x after h
  simp at h

/-- The delay settles everything before it, and calls other than destructions leave things
settled. -/
theorem settled_concat (h : x = settling delay ∨ Settled delay past)
    (hx : x.call.isDestruction = false) : Settled delay (past ++ [x]) := by
  intro before y after heq hy
  rcases List.eq_nil_or_concat after with rfl | ⟨earlier, z, rfl⟩
  · have hlast := (List.append_inj' heq rfl).2
    cases hlast
    rw [hx] at hy
    cases hy
  · have hsplit : past ++ [x] = (before ++ y :: earlier) ++ [z] := by simpa using heq
    obtain ⟨hpast, hlast⟩ := List.append_inj' hsplit rfl
    cases hlast
    rw [List.concat_eq_append, List.mem_append]
    rcases h with rfl | h
    · exact .inr List.mem_cons_self
    · exact .inl (h before y earlier hpast hy)

/-- After one more exchange that breaks nothing, the platform may still be called. -/
theorem forall_breaks_concat (h : ∀ y ∈ past, y.breaks = false) (hx : x.breaks = false) :
    ∀ y ∈ past ++ [x], y.breaks = false := by
  simpa [or_imp, forall_and] using ⟨h, hx⟩

namespace EnclaveManager

/-! ## Managers of networks -/

/-- The manager of a network, which knows the topology that the network declares. -/
def declaring (d : ClientDefaults) (settings : EnclaveSettings) (network : NetworkConfig) :
    EnclaveManager where
  settings := settings
  network := network
  declared := ⟨Topology.declaredNodes d network.params.keysPerNode 1 network.participants⟩

/-- The parameters of every network declare a topology, so that there always is a manager. -/
theorem ofNetwork_eq (d : ClientDefaults) (settings : EnclaveSettings) (network : NetworkConfig) :
    EnclaveManager.ofNetwork d settings network = .ok (declaring d settings network) := by
  rw [EnclaveManager.ofNetwork, Topology.ofNetwork_eq]
  rfl

/-! ## What a manager may call -/

/-- Which calls a manager may make after a history; whether it is to make the devnet anew is
given. -/
structure MayCall (m : EnclaveManager) (restarts : Bool) (before : List Exchange) (c : Call) :
    Prop where
  /-- After a failure or a cancelled wait the platform is not called again. -/
  going : c.isPlatformCall = true → ∀ x ∈ before, x.breaks = false
  /-- After a destruction the platform is not called before the delay has passed. -/
  settled : c.isPlatformCall = true → Settled m.settings.settleDelay before
  /-- Only a restart destroys, and only once and what was just said to exist. -/
  destroy : ∀ enclave, c = .destroyEnclave enclave → restarts = true ∧
    lastPlatformCall? before = some ⟨.enclaveExists enclave, some (.ok true)⟩ ∧
      ∀ x ∈ before, x.call.isDestruction = false
  /-- Only what was just said not to exist is created. -/
  create : ∀ enclave, c = .createEnclave enclave →
    lastPlatformCall? before = some ⟨.enclaveExists enclave, some (.ok false)⟩
  /-- A network is built in an enclave that was just created, or, unless the devnet is to be made
  anew, in one that was just said to run no service of a node. -/
  build : ∀ enclave network, c = .buildNetwork enclave network →
    lastPlatformCall? before = some ⟨.createEnclave enclave, some (.ok ())⟩ ∨
      restarts = false ∧ ∃ services,
        lastPlatformCall? before = some ⟨.runningServices enclave, some (.ok services)⟩ ∧
          ∀ name ∈ services, ServiceName.looksLikeNodeService name = false

variable {m : EnclaveManager} {restarts : Bool} {α : Type} {r : Run α}
variable {P Q : α → List Exchange → Prop} {c : Call}

/-- Nothing has gone wrong so far, and the platform was given its time. -/
structure Standing (m : EnclaveManager) (past : List Exchange) : Prop where
  going : ∀ x ∈ past, x.breaks = false
  settled : Settled m.settings.settleDelay past

theorem standing_nil (m : EnclaveManager) : m.Standing [] := ⟨by simp, settled_nil _⟩

/-- An exchange that breaks nothing and destroys nothing leaves a manager as free as it was. -/
theorem Standing.concat (h : m.Standing past) (hgoing : x.breaks = false)
    (hx : x.call.isDestruction = false) : m.Standing (past ++ [x]) :=
  ⟨forall_breaks_concat h.going hgoing, settled_concat (.inr h.settled) hx⟩

/-- A call that changes no enclave may be made as long as nothing has gone wrong. -/
theorem mayCall_of_not_isMutation (hc : c.isMutation = false)
    (h : c.isPlatformCall = true → m.Standing past) : m.MayCall restarts past c where
  going hplatform := (h hplatform).going
  settled hplatform := (h hplatform).settled
  destroy := by
    rintro enclave rfl
    cases hc
  create := by
    rintro enclave rfl
    cases hc
  build := by
    rintro enclave network rfl
    cases hc

/-- Calls to others than the platform may be made at any time. -/
theorem mayCall_of_not_isPlatformCall (m : EnclaveManager) (restarts : Bool)
    (past : List Exchange) (hc : c.isPlatformCall = false) : m.MayCall restarts past c :=
  mayCall_of_not_isMutation (c.not_isMutation_of_not_isPlatformCall hc) fun h => by simp [hc] at h

/-- Whatever it is told, a run of a manager makes only calls that it may make, and its value and
history have a property in the end. -/
abbrev Obeys (m : EnclaveManager) (restarts : Bool) (r : Run α) (past : List Exchange)
    (Q : α → List Exchange → Prop) : Prop :=
  r.Upholds (fun _ _ => True) (m.MayCall restarts) past Q

/-! ## Parts of a preparation -/

/-- A run that leaves the platform alone may do what it does. -/
theorem obeys_of_only (h : r.Only fun c => c.isPlatformCall = false) :
    m.Obeys restarts r past fun _ _ => True := by
  induction r generalizing past with
  | ended outcome => cases outcome <;> trivial
  | call c next ih =>
    have hmay := mayCall_of_not_isPlatformCall m restarts past h.1
    exact ⟨hmay, fun answer _ => ih answer (h.2 answer)⟩

theorem publish_obeys (n : Notification) (h : m.Standing past) :
    m.Obeys restarts (Run.publish n) past fun _ past' =>
      m.Standing past' ∧ lastPlatformCall? past' = lastPlatformCall? past := by
  refine Upholds.ask (mayCall_of_not_isPlatformCall m restarts past rfl) fun answer _ => ?_
  exact ⟨h.concat rfl rfl, lastPlatformCall?_concat past _⟩

theorem enclaveExists_obeys (h : m.Standing past) :
    m.Obeys restarts (Run.enclaveExists m.enclave) past fun found past' =>
      m.Standing past' ∧ past' = past ++ [⟨.enclaveExists m.enclave, some (.ok found)⟩] := by
  refine Upholds.ask (mayCall_of_not_isMutation rfl fun _ => h) fun answer _ => ?_
  cases answer with
  | error failure => trivial
  | ok found => exact ⟨h.concat rfl rfl, rfl⟩

/-- The enclave is destroyed, and the platform is given its time. -/
theorem destroyAndSettle_obeys (h : m.Standing past) (hrestarts : restarts = true)
    (hexists : lastPlatformCall? past = some ⟨.enclaveExists m.enclave, some (.ok true)⟩)
    (honce : ∀ x ∈ past, x.call.isDestruction = false) :
    m.Obeys restarts m.destroyAndSettle past fun _ past' => m.Standing past' := by
  have hmay : m.MayCall restarts past (.destroyEnclave m.enclave) := by
    refine ⟨fun _ => h.going, fun _ => h.settled, ?_, by simp, by simp⟩
    rintro _ ⟨⟩
    exact ⟨hrestarts, hexists, honce⟩
  -- Until the delay has passed things are not settled, and only notifications are published.
  refine Upholds.bind (P := fun _ past' => ∀ x ∈ past', x.breaks = false) ?_ ?_
  · refine Upholds.ask hmay fun answer _ => ?_
    cases answer with
    | error failure => trivial
    | ok _ => exact forall_breaks_concat h.going rfl
  · intro _ past₁ hgoing
    refine Upholds.ask (mayCall_of_not_isPlatformCall m restarts _ rfl) fun _ _ => ?_
    refine Upholds.ask (mayCall_of_not_isPlatformCall m restarts _ rfl) fun how _ => ?_
    cases how with
    | cancelled => trivial
    | elapsed =>
      have hstanding : m.Standing ((past₁ ++ [⟨.publish (.destroyed m.enclave), some ()⟩]) ++
          [settling m.settings.settleDelay]) :=
        ⟨forall_breaks_concat (forall_breaks_concat hgoing rfl) rfl, settled_concat (.inl rfl) rfl⟩
      exact (publish_obeys (.settled m.enclave) hstanding).mono fun _ _ hafter => hafter.1

/-! ## Building -/

/-- Once a build has begun, the platform is not called. -/
theorem finish_only (m : EnclaveManager) (stream : BuildStream) :
    (stream.watch m.settings.buildLimit >>= fun _ =>
      Run.publish (.built m.enclave m.declared.size)).Only fun c => c.isPlatformCall = false :=
  Only.bind ((stream.watch_only _).mono fun _ => Call.not_isPlatformCall_of_isWatch) fun _ =>
    Only.ask rfl fun _ => .pure _

/-- A build that may be begun is gone through. -/
theorem build_obeys (hmay : m.MayCall restarts past (.buildNetwork m.enclave m.network)) :
    m.Obeys restarts m.build past fun _ _ => True := by
  refine Upholds.bind (P := fun _ _ => True) ?_ ?_
  · refine Upholds.ask hmay fun answer _ => ?_
    cases answer <;> trivial
  · intro stream past₁ _
    exact obeys_of_only (m.finish_only stream)

/-- The enclave is created if it does not exist, and the network is built in it. -/
theorem createAndBuild_obeys (h : m.Standing past) :
    m.Obeys restarts m.createAndBuild past fun _ _ => True := by
  refine (enclaveExists_obeys h).bind fun found past₁ hfound => ?_
  cases found with
  | true => trivial
  | false =>
    have hmay : m.MayCall restarts past₁ (.createEnclave m.enclave) := by
      refine ⟨fun _ => hfound.1.going, fun _ => hfound.1.settled, by simp, ?_, by simp⟩
      rintro _ ⟨⟩
      rw [hfound.2]
      exact lastPlatformCall?_concat past _
    refine Upholds.bind (P := fun _ past' => m.Standing past' ∧
      lastPlatformCall? past' = some ⟨.createEnclave m.enclave, some (.ok ())⟩) ?_ ?_
    · refine Upholds.ask hmay fun answer _ => ?_
      cases answer with
      | error failure => trivial
      | ok _ => exact ⟨hfound.1.concat rfl rfl, lastPlatformCall?_concat past₁ _⟩
    · intro _ past₂ hcreated
      refine (publish_obeys _ hcreated.1).bind fun _ past₃ hafter => ?_
      rw [hcreated.2] at hafter
      refine build_obeys ⟨fun _ => hafter.1.going, fun _ => hafter.1.settled, by simp, by simp, ?_⟩
      rintro _ _ ⟨⟩
      exact .inl hafter.2

/-- The devnet is made anew. -/
theorem rebuild_obeys (m : EnclaveManager) (hrestarts : restarts = true) :
    m.Obeys restarts m.rebuild [] fun _ _ => True := by
  refine (enclaveExists_obeys m.standing_nil).bind fun existed past₁ hfound => ?_
  have hcreate : ∀ past', m.Standing past' → m.Obeys restarts
      (m.createAndBuild >>= fun _ => pure existed) past' fun _ _ => True :=
    fun past' h => (createAndBuild_obeys h).bind fun _ _ _ => Upholds.pure trivial
  cases existed with
  | false => exact hcreate past₁ hfound.1
  | true =>
    have hlast : lastPlatformCall? past₁ = some ⟨.enclaveExists m.enclave, some (.ok true)⟩ := by
      rw [hfound.2]
      rfl
    have honce : ∀ x ∈ past₁, x.call.isDestruction = false := by
      rw [hfound.2]
      simp [Call.isDestruction]
    exact (destroyAndSettle_obeys hfound.1 hrestarts hlast honce).bind fun _ => hcreate

/-! ## Looking -/

/-- To publish what was found is no call to the platform. -/
theorem observed_obeys (o : Observation) (h : m.Standing past) :
    m.Obeys restarts (m.observed o) past fun o' past' =>
      o' = o ∧ m.Standing past' ∧ lastPlatformCall? past' = lastPlatformCall? past :=
  (publish_obeys _ h).bind fun _ _ hafter => Upholds.pure ⟨rfl, hafter⟩

/-- The services that an enclave runs are what the platform said last. -/
theorem runningServices_obeys (h : m.Standing past) :
    m.Obeys restarts (Run.runningServices m.enclave) past fun services past' =>
      m.Standing past' ∧
        lastPlatformCall? past' = some ⟨.runningServices m.enclave, some (.ok services)⟩ := by
  refine Upholds.ask (mayCall_of_not_isMutation rfl fun _ => h) fun answer _ => ?_
  cases answer with
  | error failure => trivial
  | ok services => exact ⟨h.concat rfl rfl, lastPlatformCall?_concat past _⟩

/-- When a look at the enclave finds it empty, it was just said to run no service of a node. -/
theorem inspect_obeys (m : EnclaveManager) :
    m.Obeys restarts m.inspect [] fun o past' => m.Standing past' ∧
      (o.state = .empty → ∃ services,
        lastPlatformCall? past' = some ⟨.runningServices m.enclave, some (.ok services)⟩ ∧
          ∀ name ∈ services, ServiceName.looksLikeNodeService name = false) := by
  refine (enclaveExists_obeys m.standing_nil).bind fun found past₁ hfound => ?_
  cases found with
  | false =>
    refine (observed_obeys _ hfound.1).mono fun o past' hafter => ⟨hafter.2.1, ?_⟩
    rw [hafter.1]
    simp
  | true =>
    refine (runningServices_obeys hfound.1).bind fun services past₂ hservices => ?_
    by_cases hnone : (services.filter ServiceName.looksLikeNodeService).isEmpty = true
    · rw [if_pos hnone]
      refine (observed_obeys _ hservices.1).mono fun o past' hafter => ⟨hafter.2.1, fun _ => ?_⟩
      refine ⟨services, hafter.2.2.trans hservices.2, ?_⟩
      simpa using hnone
    · rw [if_neg hnone]
      cases Topology.ofServices (services.filter ServiceName.looksLikeNodeService) with
      | error failure => trivial
      | ok running =>
        refine (observed_obeys _ hservices.1).mono fun o past' hafter => ⟨hafter.2.1, ?_⟩
        rw [hafter.1, compare]
        split <;> simp

/-! ## Whole preparations -/

/-- A preparation makes no call that its manager may not make. -/
theorem prepare_obeys (m : EnclaveManager) (restart : Bool) :
    m.Obeys restart (m.prepare restart) [] fun _ _ => True := by
  cases restart with
  | true => exact (rebuild_obeys m rfl).bind fun existed _ _ => by cases existed <;> trivial
  | false =>
    refine (inspect_obeys m).bind fun o past₁ hlooked => ?_
    rw [prepareFrom]
    cases hstate : o.state with
    | absent => exact (createAndBuild_obeys hlooked.1).bind fun _ _ _ => Upholds.pure trivial
    | empty =>
      have hmay : m.MayCall false past₁ (.buildNetwork m.enclave m.network) := by
        refine ⟨fun _ => hlooked.1.going, fun _ => hlooked.1.settled, by simp, by simp, ?_⟩
        rintro _ _ ⟨⟩
        exact .inr ⟨rfl, hlooked.2 hstate⟩
      exact (build_obeys hmay).bind fun _ _ _ => Upholds.pure trivial
    | runningMatch => exact (publish_obeys _ hlooked.1).bind fun _ _ _ => Upholds.pure trivial
    | runningMismatch => trivial

/-- A forced restart makes no call that its manager may not make. -/
theorem forceRestart_obeys (m : EnclaveManager) :
    m.Obeys true m.forceRestart [] fun _ _ => True :=
  (rebuild_obeys m rfl).bind fun _ _ _ => Upholds.pure trivial

/-- Whatever the platform answers and whenever the manager is cancelled, all calls of a preparation
and of a forced restart are calls that the manager may make. -/
theorem calls_disciplined (m : EnclaveManager) :
    (∀ restart exchanges outcome, Path (m.prepare restart) exchanges outcome →
      Throughout (fun before x => m.MayCall restart before x.call) [] exchanges) ∧
    ∀ exchanges outcome, Path m.forceRestart exchanges outcome →
      Throughout (fun before x => m.MayCall true before x.call) [] exchanges := by
  have hrely : ∀ exchanges, Throughout (fun _ _ => True) [] exchanges :=
    fun _ _ _ _ _ => trivial
  constructor
  · intro restart exchanges outcome hpath
    exact ((prepare_obeys m restart).path hpath (hrely exchanges)).1
  · intro exchanges outcome hpath
    exact (m.forceRestart_obeys.path hpath (hrely exchanges)).1

/-- A devnet that is made anew on a platform that refuses the build in the end. -/
theorem calls_disciplined_refusedBuild :
    let m := declaring .standard (.standard "devnet") Sample.threeNodes
    let refused : Failure := .ofPlatform "orchestration" "out of disk space"
    let exchanges : List Exchange :=
      [⟨.enclaveExists "devnet", some (.ok true)⟩,
        ⟨.destroyEnclave "devnet", some (.ok ())⟩,
        ⟨.publish (.destroyed "devnet"), some ()⟩,
        settling (.ofSeconds 60),
        ⟨.publish (.settled "devnet"), some ()⟩,
        ⟨.enclaveExists "devnet", some (.ok false)⟩,
        ⟨.createEnclave "devnet", some (.ok ())⟩,
        ⟨.publish (.created "devnet"), some ()⟩,
        ⟨.buildNetwork "devnet" m.network, some (.error refused)⟩]
    Path (m.prepare true) exchanges (.failed refused) ∧
      Throughout (fun before x => m.MayCall true before x.call) [] exchanges := by
  intro m refused exchanges
  have hpath : Path (m.prepare true) exchanges (.failed refused) :=
    .answered (.answered (.answered (.answered (.answered (.answered (.answered (.answered
      (.answered (.ended _)))))))))
  exact ⟨hpath, (calls_disciplined m).1 true exchanges _ hpath⟩

end EnclaveManager
end DevnetChaos
