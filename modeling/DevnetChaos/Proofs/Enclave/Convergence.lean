import DevnetChaos.Proofs.Enclave.Inspection

/-!
# Preparation converges

Whatever an enclave holds at first, once a preparation has succeeded it runs the declared network:
a look at it says so, and to prepare it again changes nothing.  A preparation that makes the devnet
anew succeeds if the next build does.

Main definitions:

- `EnclaveManager.Matches`: an enclave runs services that make up the declared topology.
- `EnclaveManager.Converged`: what a look and another preparation come to.

Main results:

- `EnclaveManager.Matches.converged`: where the declared topology runs nothing is left to do.
- `EnclaveManager.build_done`, `EnclaveManager.prepare_done`: what a build and a preparation have
  done.
- `EnclaveManager.rebuild_succeeds`: a devnet can be made anew from every state.
- `EnclaveManager.prepare_converges`: the three together.
-/

namespace DevnetChaos

open Run Simulation

/-! ## The services of a network -/

namespace Topology

variable {d d' : ClientDefaults} {network : NetworkConfig} {declared t : Topology}

/-- The names of services of nodes look like what they are. -/
theorem looksLikeNodeService_of_mem_allNames {name : String} (h : name ∈ t.allNames) :
    ServiceName.looksLikeNodeService name = true := by
  rw [allNames_eq, List.mem_map] at h
  obtain ⟨s, -, rfl⟩ := h
  exact ServiceName.looksLikeNodeService_render s t.size

/-- Every node has an execution service, so a topology with nodes has names of services. -/
theorem exists_mem_allNames (h : 0 < t.size) : ∃ name, name ∈ t.allNames := by
  obtain ⟨n, hn⟩ := List.exists_mem_of_length_pos h
  exact ⟨_, mem_allNames.2 ⟨n, hn, .execution, rfl⟩⟩

/-- Beside services that look otherwise, the services of nodes are those of the topology. -/
theorem filter_allServices
    (hbeside : ∀ name ∈ network.additionalServices,
      ServiceName.looksLikeNodeService name = false) :
    (EnclaveHost.allServices t network).filter ServiceName.looksLikeNodeService = t.allNames := by
  have hnodes : t.allNames.filter ServiceName.looksLikeNodeService = t.allNames :=
    List.filter_eq_self.2 fun _ => looksLikeNodeService_of_mem_allNames
  have hothers : network.additionalServices.filter ServiceName.looksLikeNodeService = [] :=
    List.filter_eq_nil_iff.2 fun name hname => by simp [hbeside name hname]
  change (t.allNames ++ network.additionalServices).filter _ = _
  rw [List.filter_append, hnodes, hothers, List.append_nil]

/-- The defaults from which open fields are filled do not show in services. -/
theorem fingerprints_ofNetwork (hdeclared : ofNetwork d network = .ok declared)
    (ht : ofNetwork d' network = .ok t) : t.fingerprints = declared.fingerprints := by
  rw [ofNetwork_eq] at hdeclared ht
  cases hdeclared
  cases ht
  exact declaredNodes_fingerprints d' _ d 1 network.participants

/-- The services of nodes among all services of a network make up a topology that agrees with the
declared one, even if open fields are filled from other defaults. -/
theorem ofServices_allServices (hdeclared : ofNetwork d network = .ok declared)
    (ht : ofNetwork d' network = .ok t) (hfits : declared.size < wordCount)
    (hbeside : ∀ name ∈ network.additionalServices,
      ServiceName.looksLikeNodeService name = false) :
    ∃ running,
      ofServices ((EnclaveHost.allServices t network).filter ServiceName.looksLikeNodeService) =
        .ok running ∧ running.agrees declared = true := by
  have hsame := fingerprints_ofNetwork hdeclared ht
  have hsize : t.size < wordCount := by
    rw [size_eq_of_fingerprints_eq hsame]
    exact hfits
  have hnumbered : t.Numbered network.params.keysPerNode := by
    rw [ofNetwork_eq] at ht
    cases ht
    exact declared_numbered d' _ network.participants
  rw [filter_allServices hbeside]
  refine ⟨_, hnumbered.ofServices_allNames hsize (List.Perm.refl _), ?_⟩
  exact agrees_of_fingerprints_eq (t.observed_fingerprints.trans hsame)

end Topology

namespace EnclaveManager

variable {m : EnclaveManager} {names : List String} {w w' : World} {caller : Caller}

/-! ## Where the declared topology runs -/

/-- An enclave runs services of nodes that make up a topology which agrees with the declared
one. -/
structure Matches (m : EnclaveManager) (names : List String) (w : World) : Prop
    extends w.Runs m.enclave names where
  agrees : ∃ running, Topology.ofServices (names.filter ServiceName.looksLikeNodeService) =
    .ok running ∧ running.agrees m.declared = true

/-- A look at an enclave finds the declared topology, and to prepare it then changes nothing. -/
def Converged (m : EnclaveManager) (caller : Caller) (w : World) : Prop :=
  ∃ w₁ w₂, w.carryOut caller m.observe = (.done .runningMatch, w₁) ∧
    w₁.carryOut caller (m.prepare false) = (.done .attached, w₂) ∧
      ∀ x ∈ (m.prepare false).trace (World.respond caller) w₁, x.call.isMutation = false

/-- A look at an enclave leaves what runs there. -/
theorem Matches.observe (hw : m.Matches names w) (caller : Caller) :
    ∃ w₁, w.carryOut caller m.observe = (.done .runningMatch, w₁) ∧ m.Matches names w₁ := by
  obtain ⟨running, hread, hagrees⟩ := hw.agrees
  let f : Observation → Run EnclaveState := fun o => pure o.state
  let nodeServices := names.filter ServiceName.looksLikeNodeService
  have hexecute : w.carryOut caller m.observe =
      (m.judge nodeServices >>= f).execute (World.respond caller) (w.inspected m.enclave) :=
    (inspect_running hw.toRuns caller f).1
  have houtcome : ((m.judge nodeServices >>= f).execute (World.respond caller)
      (w.inspected m.enclave)).1 = .done .runningMatch := by
    unfold judge
    rw [hread]
    exact congrArg Outcome.done (if_pos hagrees)
  have hpublishes : (m.judge nodeServices >>= f).Publishes :=
    (m.judge_publishes _).bind fun _ => .pure _
  obtain ⟨kept, hkept⟩ := hpublishes.execute_world caller (w.inspected m.enclave)
  refine ⟨_, hexecute.trans (Prod.ext houtcome hkept), ?_⟩
  exact { hw with }

/-- Where the declared topology runs nothing is left to do. -/
theorem Matches.converged (hw : m.Matches names w) (caller : Caller) : m.Converged caller w := by
  obtain ⟨w₁, hobserve, hw₁⟩ := hw.observe caller
  have houtcome := (prepare_running_outcome hw₁.toRuns caller).trans
    (verdict_eq_done.2 ⟨rfl, hw₁.agrees⟩)
  exact ⟨w₁, (w₁.carryOut caller (m.prepare false)).2, hobserve, Prod.ext houtcome rfl,
    prepare_running_calls hw₁.toRuns caller⟩

/-! ## What a preparation has done -/

/-- Calls to others than the platform leave the host of enclaves alone. -/
theorem respond_host {c : Call} (hc : c.isPlatformCall = false) (hw : w.Quiet caller.token) :
    (World.respond caller c w).2.host = w.host := by
  cases c with
  | enclaveExists | createEnclave | destroyEnclave | runningServices | buildNetwork => cases hc
  | submitFault fault =>
    change (w.submit fault).2.host = w.host
    unfold World.submit
    rcases w.faults.submit fault with ⟨_ | accepted, faults⟩ <;> rfl
  | persist artifacts =>
    change (w.persist artifacts).2.host = w.host
    unfold World.persist
    split <;> rfl
  | pause millis =>
    change (w.pause caller.token millis).2.host = w.host
    rw [hw.pause_eq]
  | awaitCancellation =>
    change (w.awaitCancellation caller.token).2.host = w.host
    rw [hw.awaitCancellation_eq]
  | publish n =>
    change (if caller.onBus then w.publish n else w).host = w.host
    split <;> rfl
  | _ => rfl

/-- What does not call the platform leaves its host as it is. -/
theorem execute_host {α : Type} {r : Run α} (h : r.Only fun c => c.isPlatformCall = false)
    (hw : w.Quiet caller.token) : (r.execute (World.respond caller) w).2.host = w.host := by
  have hkeep : ∀ c w', c.isPlatformCall = false → w'.Quiet caller.token ∧ w'.host = w.host →
      (World.respond caller c w').2.Quiet caller.token ∧
        (World.respond caller c w').2.host = w.host :=
    fun c w' hc hw' => ⟨hw'.1.respond c, (respond_host hc hw'.1).trans hw'.2⟩
  exact (h.keeps hkeep ⟨hw, rfl⟩).2

/-- After a build that came to its end the enclave runs the services of the network: the watch has
come to a report, so the build has succeeded, and then the host has registered its services. -/
theorem build_done (hw : w.Quiet caller.token)
    (h : m.build.execute (World.respond caller) w = (.done (), w')) :
    ∃ t, Topology.ofNetwork w.host.defaults m.network = .ok t ∧
      w'.host.servicesOf? m.enclave = some (EnclaveHost.allServices t m.network) := by
  obtain ⟨stream, w₁, hcall, hw₁, hrest⟩ := hw.bind_done h
  obtain ⟨b, hbuild, rfl⟩ := hw.buildNetwork_done hcall
  obtain ⟨t, ht, hservices⟩ := EnclaveHost.build_ok hbuild
  have hsucceeds : buildSucceeds b.events = true := by
    have hgives : ((BuildStream.ofEvents b.events).watch m.settings.buildLimit >>= fun _ =>
        Run.publish (.built m.enclave m.declared.size)).Gives fun _ =>
          buildSucceeds b.events = true := by
      refine (BuildStream.watch_gives _ _).bind fun _ hreport _ => ?_
      rwa [map_event_ofEvents] at hreport
    exact hgives.execute hrest
  have hhost : w'.host = w₁.host := by
    have hrest_host := execute_host (m.finish_only (.ofEvents b.events)) hw₁
    rw [hrest] at hrest_host
    exact hrest_host
  exact ⟨t, ht, hhost ▸ hservices hsucceeds⟩

/-- An enclave that was created is built in next. -/
theorem createAndBuild_done (hw : w.Quiet caller.token)
    (h : m.createAndBuild.execute (World.respond caller) w = (.done (), w')) :
    ∃ w₁, w₁.Quiet caller.token ∧ m.build.execute (World.respond caller) w₁ = (.done (), w') := by
  obtain ⟨found, w₁, -, hw₁, h⟩ := hw.bind_done h
  cases found with
  | true => cases h
  | false =>
    obtain ⟨_, w₂, -, hw₂, h⟩ := hw₁.bind_done h
    obtain ⟨_, w₃, -, hw₃, h⟩ := hw₂.bind_done h
    exact ⟨w₃, hw₃, h⟩

/-- Whether or not there was an enclave, the network is built in the end. -/
theorem rebuild_done (hw : w.Quiet caller.token) {existed : Bool}
    (h : m.rebuild.execute (World.respond caller) w = (.done existed, w')) :
    ∃ w₁, w₁.Quiet caller.token ∧ m.build.execute (World.respond caller) w₁ = (.done (), w') := by
  obtain ⟨found, w₁, -, hw₁, h⟩ := hw.bind_done h
  have hcreated : ∀ {w₂ : World}, w₂.Quiet caller.token →
      (m.createAndBuild >>= fun _ => pure found).execute (World.respond caller) w₂ =
        (.done existed, w') →
      ∃ w₃, w₃.Quiet caller.token ∧
        m.build.execute (World.respond caller) w₃ = (.done (), w') := by
    intro w₂ hw₂ h
    obtain ⟨_, w₃, hcreate, -, hended⟩ := hw₂.bind_done h
    cases hended
    exact createAndBuild_done hw₂ hcreate
  cases found with
  | false => exact hcreated hw₁ h
  | true =>
    obtain ⟨_, w₂, -, hw₂, h⟩ := hw₁.bind_done h
    exact hcreated hw₂ h

/-- From an enclave without a devnet a preparation goes on to a build. -/
theorem prepareFrom_done (hw : w.Quiet caller.token) {o : Observation} {a : Preparation}
    (hstate : o.state = .absent ∨ o.state = .empty)
    (h : (m.observed o >>= m.prepareFrom).execute (World.respond caller) w = (.done a, w')) :
    ∃ w₁, w₁.Quiet caller.token ∧ m.build.execute (World.respond caller) w₁ = (.done (), w') := by
  obtain ⟨o', w₁, hobserved, hw₁, h⟩ := hw.bind_done h
  have hsame : (m.observed o).Gives fun o' => o' = o := fun _ => rfl
  rw [hsame.execute hobserved, prepareFrom] at h
  rcases hstate with hstate | hstate
  · rw [hstate] at h
    obtain ⟨_, w₂, hcreate, -, hended⟩ := hw₁.bind_done h
    cases hended
    exact createAndBuild_done hw₁ hcreate
  · rw [hstate] at h
    obtain ⟨_, w₂, hbuild, -, hended⟩ := hw₁.bind_done h
    cases hended
    exact ⟨w₁, hw₁, hbuild⟩

/-- A running devnet is used only if it has the declared shape. -/
theorem attach_done (hw : w.Runs m.enclave names) {a : Preparation}
    (h : (m.prepare false).execute (World.respond caller) w = (.done a, w')) :
    m.Matches names w' := by
  have houtcome := prepare_running_outcome hw caller
  obtain ⟨kept, hkept⟩ := prepare_running_world hw caller
  rw [World.carryOut, h] at houtcome hkept
  have hagrees := (verdict_eq_done.1 houtcome.symm).2
  have hworld : w' = { w.inspected m.enclave with manager := kept } := hkept
  rw [hworld]
  exact { hw with agrees := hagrees }

/-- A preparation has built the network, or found the declared topology running. -/
theorem prepare_done (hw : w.Quiet caller.token) {restart : Bool} {a : Preparation}
    (h : (m.prepare restart).execute (World.respond caller) w = (.done a, w')) :
    (∃ w₁, w₁.Quiet caller.token ∧
      m.build.execute (World.respond caller) w₁ = (.done (), w')) ∨
      ∃ names, m.Matches names w' := by
  -- Without a restart it depends on what the enclave holds: nothing, no service of a node, or some.
  cases restart with
  | true =>
    obtain ⟨existed, w₁, hrebuild, -, hended⟩ := hw.bind_done h
    have hsame : w₁ = w' := by cases existed <;> exact congrArg Prod.snd hended
    subst hsame
    exact .inl (rebuild_done hw hrebuild)
  | false =>
    have hprepare : m.prepare false = m.inspect >>= m.prepareFrom := rfl
    cases hservices : w.host.servicesOf? m.enclave with
    | none =>
      rw [hprepare, inspect_absent hw.toCandid hservices caller] at h
      have hw₁ : (w.lookedUp m.enclave).Quiet caller.token := { hw with }
      exact .inl (prepareFrom_done hw₁ (.inl rfl) h)
    | some names =>
      by_cases hrunning : ∃ name ∈ names, ServiceName.looksLikeNodeService name = true
      · have hruns : w.Runs m.enclave names := ⟨hw.toCandid, hservices, hrunning⟩
        exact .inr ⟨names, attach_done hruns h⟩
      · rw [hprepare, (inspect_found hw.toCandid hservices caller m.prepareFrom).1,
          m.sight_of_none hrunning] at h
        have hw₁ : (w.inspected m.enclave).Quiet caller.token := { hw with }
        exact .inl (prepareFrom_done hw₁ (.inr rfl) h)

/-! ## Preparations that succeed -/

/-- Waits pass and entries are written in a quiet world. -/
theorem patient_quiet (caller : Caller) :
    Patient (World.respond caller) fun w => w.Quiet caller.token :=
  ⟨fun _ millis hw => (hw.pause millis).mono fun _ _ h => ⟨h.1, h.2.1⟩,
    fun _ entry hw => (hw.note entry).mono fun _ _ h => h.1⟩

/-- A network is built in an enclave that exists, within any time limit. -/
theorem build_succeeds (hw : w.Quiet caller.token) (hnext : w.host.BuildsNext)
    (hnames : w.host.servicesOf? m.enclave = some names) :
    Succeeds (World.respond caller) m.build w fun _ _ => True := by
  refine (hw.buildNetwork hnext hnames m.network).bind fun stream w₁ hbuilt => ?_
  obtain ⟨hw₁, events, rfl, hsucceeds⟩ := hbuilt
  have hwatch : Succeeds (World.respond caller)
      ((BuildStream.ofEvents events).watch m.settings.buildLimit) w₁
        fun _ w' => w'.Quiet caller.token :=
    watchEvents_succeeds (patient_quiet caller) hw₁ _ _ (inTime_ofEvents _ events)
      ((congrArg _ (map_event_ofEvents events)).trans hsucceeds)
  refine hwatch.bind fun _ w₂ hw₂ => ?_
  exact (hw₂.publish _).mono fun _ _ _ => trivial

/-- An enclave that does not exist is created and the network is built in it. -/
theorem createAndBuild_succeeds (hw : w.Quiet caller.token) (hnext : w.host.BuildsNext)
    (habsent : w.host.servicesOf? m.enclave = none) :
    Succeeds (World.respond caller) m.createAndBuild w fun _ _ => True := by
  refine (hw.enclaveExists m.enclave).bind fun found w₁ hfound => ?_
  obtain ⟨rfl, rfl⟩ := hfound
  rw [habsent]
  have hw₁ : (w.lookedUp m.enclave).Quiet caller.token := { hw with }
  refine (hw₁.createEnclave habsent).bind fun _ w₂ hcreated => ?_
  refine (hcreated.1.publish _).bind fun _ w₃ hafter => ?_
  have hhost := hafter.2.trans hcreated.2
  have hnext₃ : w₃.host.BuildsNext := hnext.of_scripts_eq (by rw [hhost]; rfl)
  have hempty : w₃.host.servicesOf? m.enclave = some [] := by
    rw [hhost]
    exact EnclaveHost.servicesOf?_seed _ _ _
  exact build_succeeds hafter.1 hnext₃ hempty

/-- An enclave that exists is destroyed, and the next build succeeds as before. -/
theorem destroyAndSettle_succeeds (hw : w.Quiet caller.token) (hnext : w.host.BuildsNext)
    (hnames : w.host.servicesOf? m.enclave = some names) :
    Succeeds (World.respond caller) m.destroyAndSettle w fun _ w' =>
      w'.Quiet caller.token ∧ w'.host.BuildsNext ∧ w'.host.servicesOf? m.enclave = none := by
  refine (hw.destroyEnclave hnames).bind fun _ w₁ hdestroyed => ?_
  refine (hdestroyed.1.publish _).bind fun _ w₂ h₂ => ?_
  refine (h₂.1.sleep _ _).bind fun _ w₃ h₃ => ?_
  refine (h₃.1.publish _).mono fun _ w₄ h₄ => ?_
  have hhost : w₄.host = w₁.host := h₄.2.trans (h₃.2.trans h₂.2)
  rw [hhost]
  exact ⟨h₄.1, hnext.of_scripts_eq hdestroyed.2.2, hdestroyed.2.1⟩

/-- A devnet can be made anew whatever its enclave holds. -/
theorem rebuild_succeeds (hw : w.Quiet caller.token) (hnext : w.host.BuildsNext) :
    Succeeds (World.respond caller) m.rebuild w fun _ _ => True := by
  refine (hw.enclaveExists m.enclave).bind fun found w₁ hfound => ?_
  obtain ⟨rfl, rfl⟩ := hfound
  have hw₁ : (w.lookedUp m.enclave).Quiet caller.token := { hw with }
  cases hnames : w.host.servicesOf? m.enclave with
  | none => exact (createAndBuild_succeeds hw₁ hnext hnames).bind fun _ _ _ => Succeeds.pure trivial
  | some names =>
    refine (destroyAndSettle_succeeds hw₁ hnext hnames).bind fun _ w₂ h₂ => ?_
    refine (createAndBuild_succeeds h₂.1 h₂.2.1 h₂.2.2).bind fun _ _ _ => ?_
    exact Succeeds.pure trivial

/-! ## Convergence -/

/-- Once a network is built the enclave runs the declared topology. -/
theorem build_matches {d : ClientDefaults} (hw : w.Quiet caller.token)
    (hdeclared : Topology.ofNetwork d m.network = .ok m.declared)
    (hnodes : 0 < m.declared.size) (hfits : m.declared.size < wordCount)
    (hbeside : ∀ name ∈ m.network.additionalServices,
      ServiceName.looksLikeNodeService name = false)
    (h : m.build.execute (World.respond caller) w = (.done (), w')) :
    ∃ names, m.Matches names w' := by
  obtain ⟨t, ht, hservices⟩ := build_done hw h
  have hw' : w'.Quiet caller.token := by
    have hquiet := hw.execute m.build
    rw [h] at hquiet
    exact hquiet
  have hsize : t.size = m.declared.size :=
    Topology.size_eq_of_fingerprints_eq (Topology.fingerprints_ofNetwork hdeclared ht)
  obtain ⟨name, hname⟩ := t.exists_mem_allNames (by omega)
  have hrunning : ∃ name ∈ EnclaveHost.allServices t m.network,
      ServiceName.looksLikeNodeService name = true :=
    ⟨name, List.mem_append_left _ hname, Topology.looksLikeNodeService_of_mem_allNames hname⟩
  exact ⟨_, ⟨hw'.toCandid, hservices, hrunning⟩,
    Topology.ofServices_allServices hdeclared ht hfits hbeside⟩

/-- A manager of a network knows the topology that the network declares. -/
theorem ofNetwork_eq_ok {d : ClientDefaults} {settings : EnclaveSettings} {network : NetworkConfig}
    (h : EnclaveManager.ofNetwork d settings network = .ok m) :
    m.network = network ∧ Topology.ofNetwork d network = .ok m.declared := by
  obtain ⟨declared, hdeclared, hmanager⟩ := bind_eq_ok.1 h
  cases hmanager
  exact ⟨rfl, hdeclared⟩

/-- A network is prepared in a quiet world, whatever its enclave holds.  Once a preparation or a
forced restart has succeeded, a look at the enclave finds the declared topology and another
preparation changes nothing.  What makes the devnet anew succeeds if the next build does.  Services
that run beside the nodes must not look like theirs, and the nodes must be numbered by 64-bit
words. -/
theorem prepare_converges {d : ClientDefaults} {settings : EnclaveSettings}
    {network : NetworkConfig} (hm : EnclaveManager.ofNetwork d settings network = .ok m)
    (hnodes : 0 < m.declared.size) (hfits : m.declared.size < wordCount)
    (hbeside : ∀ name ∈ network.additionalServices,
      ServiceName.looksLikeNodeService name = false)
    (hw : w.Quiet caller.token) :
    (∀ restart a w', w.carryOut caller (m.prepare restart) = (.done a, w') →
      m.Converged caller w') ∧
    (∀ w', w.carryOut caller m.forceRestart = (.done (), w') → m.Converged caller w') ∧
    (w.host.BuildsNext →
      (∃ a w', w.carryOut caller (m.prepare true) = (.done a, w')) ∧
        ∃ w', w.carryOut caller m.forceRestart = (.done (), w')) := by
  obtain ⟨rfl, hdeclared⟩ := ofNetwork_eq_ok hm
  have hbuilt : ∀ w₁ w', w₁.Quiet caller.token →
      m.build.execute (World.respond caller) w₁ = (.done (), w') → m.Converged caller w' := by
    intro w₁ w' hw₁ hbuild
    obtain ⟨names, hmatches⟩ := build_matches hw₁ hdeclared hnodes hfits hbeside hbuild
    exact hmatches.converged caller
  refine ⟨?_, ?_, ?_⟩
  · intro restart a w' h
    rcases prepare_done hw h with ⟨w₁, hw₁, hbuild⟩ | ⟨names, hmatches⟩
    · exact hbuilt w₁ w' hw₁ hbuild
    · exact hmatches.converged caller
  · intro w' h
    obtain ⟨existed, w₁, hrebuild, -, hended⟩ := hw.bind_done h
    cases hended
    obtain ⟨w₂, hw₂, hbuild⟩ := rebuild_done hw hrebuild
    exact hbuilt w₂ w' hw₂ hbuild
  · intro hnext
    have hrebuild := rebuild_succeeds (m := m) hw hnext
    have hprepare : Succeeds (World.respond caller) (m.prepare true) w fun _ _ => True :=
      hrebuild.bind fun existed _ _ => by cases existed <;> exact Succeeds.pure trivial
    have hforced : Succeeds (World.respond caller) m.forceRestart w fun _ _ => True :=
      hrebuild.bind fun _ _ _ => Succeeds.pure trivial
    obtain ⟨a, w₁, h₁, -⟩ := hprepare
    obtain ⟨_, w₂, h₂, -⟩ := hforced
    exact ⟨⟨a, w₁, h₁⟩, w₂, h₂⟩

/-- An enclave that runs services of which no topology is made up is made anew. -/
theorem prepare_converges_halfRunning :
    let network := Topology.sampleNetwork
    let m : EnclaveManager := ⟨.standard EnclaveSettings.standardName, network,
      ⟨Topology.declaredNodes .standard network.params.keysPerNode 1 network.participants⟩⟩
    ∃ w', (World.running .standard m.enclave halfRunning).carryOut ⟨0, true⟩ m.forceRestart =
      (.done (), w') ∧ m.Converged ⟨0, true⟩ w' := by
  intro network m
  have hm : EnclaveManager.ofNetwork .standard (.standard EnclaveSettings.standardName) network =
      .ok m :=
    ofNetwork_eq ..
  have hsize : m.declared.size = 11 := Topology.declaredNodes_length _ _ _ _
  let caller : Caller := ⟨0, true⟩
  have hquiet : (World.running .standard m.enclave halfRunning).Quiet caller.token :=
    World.quiet_running ..
  obtain ⟨-, hforced, hsucceeds⟩ := prepare_converges hm (by omega) (by rw [hsize]; decide)
    (by decide +kernel) hquiet
  obtain ⟨-, w', h⟩ := hsucceeds (by intro events hevents; cases hevents)
  exact ⟨w', h, hforced w' h⟩

end EnclaveManager
end DevnetChaos
