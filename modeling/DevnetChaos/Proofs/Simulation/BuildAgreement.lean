import DevnetChaos.Proofs.Enclave.BuildReading
import DevnetChaos.Proofs.Simulation.Quiet
import DevnetChaos.Sample

/-!
# Builder and watcher agree

A simulated host decides at once whether a build succeeds, and sends its events to the one who
watches.  The watch comes to a report exactly when the host has registered the build, so nobody is
left with half a devnet.

Main definitions:

- `World.Current`: a world in which nothing is overdue.
- `Run.buildAndWatch`: a build, watched to its end.

Main results:

- `World.buildAndWatch_execute`: what a watched build comes to and leaves.
- `World.watch_agrees`: the two decisions agree, and no event after the deciding one matters.
-/

namespace DevnetChaos

open Run

/-- Builds a network and watches the build to its end. -/
def Run.buildAndWatch (enclave : String) (network : NetworkConfig) (limit : Option Duration) :
    Run BuildReport := do
  let stream ← Run.buildNetwork enclave network
  stream.watch limit

namespace Simulation.World

variable {w : World} {caller : Caller} {enclave : String} {names : List String}
variable {network : NetworkConfig} {t : Topology}

/-! ## Waits of no time -/

/-- A world in which no action and no end of waiting is overdue. -/
structure Current (w : World) : Prop where
  agenda : ∀ a ∈ w.agenda, w.now ≤ a.due
  deadline : ∀ moment ∈ w.deadline, w.now ≤ moment

/-- To wait for no time changes nothing. -/
theorem Current.pause_zero {token : Nat} (hw : w.Current)
    (huncancelled : w.isCancelled token = false) : w.pause token 0 = (some .elapsed, w) := by
  have hend : waitEnd (some (w.now + 0)) w.deadline = (some w.now, false) := by
    cases hdeadline : w.deadline with
    | none => rfl
    | some moment => exact if_pos (hw.deadline moment hdeadline)
  have hkept : keepAppointments (·.isCancelled token) (some w.now) w.agenda w = (false, w) := by
    cases hagenda : w.agenda with
    | nil => simp [keepAppointments, ← hagenda]
    | cons a rest =>
      have hdue : w.now ≤ a.due := hw.agenda a (by rw [hagenda]; exact List.mem_cons_self)
      simp [keepAppointments, hdue, ← hagenda]
  simp only [World.pause, wait, huncancelled, hend, hkept]
  rfl

/-- The run of a token that is not cancelled reads events at once. -/
theorem prompt (caller : Caller) :
    Prompt (respond caller) (fun w => w.Current ∧ w.isCancelled caller.token = false)
      fun w line => w.note (.line line) where
  pause := fun _ hw => hw.1.pause_zero hw.2
  note := fun _ _ _ => rfl
  keep := fun _ _ hw => ⟨⟨hw.1.agenda, hw.1.deadline⟩, hw.2⟩

/-! ## Watched builds -/

/-- A world after a build with some events, of which the watcher has seen nothing yet. -/
def afterBuild (w : World) (enclave : String) (network : NetworkConfig) (t : Topology)
    (events : List BuildEvent) : World :=
  { w with
    host := (w.host.askedToBuild enclave).afterBuild enclave network t events
    cluster :=
      if buildSucceeds events && w.attached then w.cluster.addTopology t else w.cluster }

theorem build_events (hreachable : w.host.reachable = true)
    (hnames : w.host.servicesOf? enclave = some names)
    (hundisturbed : w.disturbances.timedBuilds = [])
    (ht : Topology.ofNetwork w.host.defaults network = .ok t) :
    w.build enclave network = (.ok (.ofEvents (w.host.nextEvents t.size)),
      w.afterBuild enclave network t (w.host.nextEvents t.size)) := by
  simp only [build, hundisturbed, EnclaveHost.build_events hreachable hnames ht,
    EnclaveHost.buildOf, afterBuild]
  by_cases hsucceeds : buildSucceeds (w.host.nextEvents t.size) = true <;> simp [hsucceeds]

/-- A watched build comes to what the reading of its events comes to.  It leaves what the host has
done, and the lines that were logged. -/
theorem buildAndWatch_execute (hreachable : w.host.reachable = true)
    (hnames : w.host.servicesOf? enclave = some names)
    (hundisturbed : w.disturbances.timedBuilds = []) (hcurrent : w.Current)
    (huncancelled : w.isCancelled caller.token = false)
    (ht : Topology.ofNetwork w.host.defaults network = .ok t) (limit : Option Duration) :
    w.carryOut caller (buildAndWatch enclave network limit) =
      (BuildReading.ending (BuildReading.start.readAll (w.host.nextEvents t.size)).2,
        (BuildReading.start.readAll (w.host.nextEvents t.size)).1.foldl
          (fun w line => w.note (.line line))
          (w.afterBuild enclave network t (w.host.nextEvents t.size))) := by
  have hbuild := build_events hreachable hnames hundisturbed ht
  have hanswer : (Run.buildNetwork enclave network).execute (respond caller) w =
      (Run.ofExcept (w.build enclave network).1).execute (respond caller)
        (w.build enclave network).2 := execute_call rfl
  have hcall : (Run.buildNetwork enclave network).execute (respond caller) w =
      (.done (.ofEvents (w.host.nextEvents t.size)),
        w.afterBuild enclave network t (w.host.nextEvents t.size)) := by
    rw [hanswer, hbuild]
    rfl
  have hafter : (w.afterBuild enclave network t (w.host.nextEvents t.size)).Current ∧
      (w.afterBuild enclave network t (w.host.nextEvents t.size)).isCancelled caller.token =
        false := ⟨⟨hcurrent.agenda, hcurrent.deadline⟩, huncancelled⟩
  exact (execute_bind_of_done hcall).trans (watch_execute (prompt caller) hafter _ limit)

/-- Lines in the journal change neither the host nor the cluster. -/
theorem noteLines_keeps (w : World) (lines : List LogLine) :
    (lines.foldl (fun w line => w.note (.line line)) w).host = w.host ∧
      (lines.foldl (fun w line => w.note (.line line)) w).cluster = w.cluster := by
  induction lines generalizing w with
  | nil => exact ⟨rfl, rfl⟩
  | cons line rest ih => exact ih (w.note (.line line))

/-- The next build of a world has these events, and further builds those that are given. -/
def scripted (w : World) (events : List BuildEvent) (later : List (List BuildEvent)) : World :=
  { w with host := { w.host with scriptedBuilds := events :: later } }

/-- Events after the one that decides change nothing of what a build does. -/
theorem afterBuild_append_cons {e : BuildEvent} (he : e.decides = true) (w : World)
    (front back back' : List BuildEvent) (later : List (List BuildEvent)) :
    (w.scripted (front ++ e :: back) later).afterBuild enclave network t (front ++ e :: back) =
      (w.scripted (front ++ e :: back') later).afterBuild enclave network t
        (front ++ e :: back') := by
  simp only [afterBuild, EnclaveHost.afterBuild, buildSucceeds_append_cons he front back back']
  rfl

/-- A network is built in an enclave of a host that can be reached, by a run that is not cancelled,
and the build is watched under any time limit.  The watch comes to a report exactly when the host
has registered the build.  Then the services of the enclave are those of all nodes of the network
and those beside them, and each service of a node has its pod; otherwise the failure is that of a
build, and the enclaves and the pods are as before.  Events after the first error or the first final
event change neither what the watch comes to nor anything that is left. -/
theorem watch_agrees (hreachable : w.host.reachable = true)
    (hnames : w.host.servicesOf? enclave = some names)
    (hundisturbed : w.disturbances.timedBuilds = []) (hcurrent : w.Current)
    (huncancelled : w.isCancelled caller.token = false) (network : NetworkConfig)
    (limit : Option Duration) :
    (∃ build outcome w', (w.host.build enclave network).1 = .ok build ∧
      w.carryOut caller (buildAndWatch enclave network limit) = (outcome, w') ∧
      ((∃ report, outcome = .done report) ↔ build.topology.isSome = true) ∧
      (∀ t, build.topology = some t → Topology.ofNetwork w.host.defaults network = .ok t ∧
        w'.host.servicesOf? enclave =
          some (t.nodes.flatMap t.serviceNames ++ network.additionalServices) ∧
        w'.cluster = if w.attached then w.cluster.addTopology t else w.cluster) ∧
      (build.topology = none → (∃ flaw, outcome = .failed (.buildFailed flaw)) ∧
        w'.host.enclaves = w.host.enclaves ∧ w'.cluster = w.cluster)) ∧
    ∀ front (e : BuildEvent) back back' later, e.decides = true →
      (w.scripted (front ++ e :: back) later).carryOut caller
          (buildAndWatch enclave network limit) =
        (w.scripted (front ++ e :: back') later).carryOut caller
          (buildAndWatch enclave network limit) := by
  obtain ⟨t, ht⟩ : ∃ t, Topology.ofNetwork w.host.defaults network = .ok t :=
    ⟨_, Topology.ofNetwork_eq w.host.defaults network⟩
  constructor
  · have hbuild := EnclaveHost.build_events hreachable hnames ht
    have hrun := buildAndWatch_execute hreachable hnames hundisturbed hcurrent
      huncancelled ht limit
    have hkeeps := noteLines_keeps (w.afterBuild enclave network t (w.host.nextEvents t.size))
      (BuildReading.start.readAll (w.host.nextEvents t.size)).1
    have hagree := BuildReading.readAll_isOk .start (w.host.nextEvents t.size)
    refine ⟨_, _, _, congrArg Prod.fst hbuild, hrun, ?_⟩
    rw [hkeeps.1, hkeeps.2, BuildReading.ending_eq_done, hagree]
    -- The host and the watcher have read the same list, so one decision settles both sides.
    cases hsucceeds : buildSucceeds (w.host.nextEvents t.size) with
    | true =>
      simp only [EnclaveHost.buildOf, afterBuild, EnclaveHost.afterBuild, hsucceeds, if_true]
      refine ⟨by simp, ?_, fun hnone => (by cases hnone)⟩
      rintro _ ⟨⟩
      exact ⟨ht, EnclaveHost.servicesOf?_seed _ _ _, by rw [Bool.true_and]⟩
    | false =>
      simp only [EnclaveHost.buildOf, afterBuild, EnclaveHost.afterBuild, hsucceeds]
      refine ⟨by simp, fun _ hsome => (by cases hsome), fun _ => ⟨?_, rfl, rfl⟩⟩
      exact BuildReading.ending_eq_failed (hagree.trans hsucceeds)
  · intro front e back back' later he
    have hexecute : ∀ events, (w.scripted events later).carryOut caller
        (buildAndWatch enclave network limit) = _ := fun events =>
      buildAndWatch_execute (w := w.scripted events later) hreachable hnames hundisturbed
        ⟨hcurrent.agenda, hcurrent.deadline⟩ huncancelled ht limit
    have hnext : ∀ events, (w.scripted events later).host.nextEvents t.size = events :=
      fun _ => rfl
    simp only [hexecute, hnext, afterBuild_append_cons he w front back back' later,
      BuildReading.readAll_append_cons he .start front back back']

/-- A build that reports an error and then claims to have succeeded has failed for the host and for
the watcher.  What its enclave ran before is what it runs. -/
theorem watch_agrees_lateSuccess :
    let events : List BuildEvent := [.warning "slow disk", .error "no space", .finished true "up"]
    let w := (running .standard "devnet" ["grafana"]).scripted events []
    (w.host.build "devnet" Sample.threeNodes).1 = .ok ⟨events, none⟩ ∧
    ∃ flaw w', w.carryOut ⟨0, false⟩ (buildAndWatch "devnet" Sample.threeNodes none) =
        (.failed (.buildFailed flaw), w') ∧
      w'.host.servicesOf? "devnet" = some ["grafana"] ∧ w'.cluster = w.cluster := by
  intro events w
  have hbuild : (w.host.build "devnet" Sample.threeNodes).1 = .ok ⟨events, none⟩ := by
    rw [EnclaveHost.build_events rfl rfl (Topology.ofNetwork_eq _ _)]
    rfl
  have hcurrent : w.Current := ⟨fun _ ha => (by cases ha), fun _ hmoment => (by cases hmoment)⟩
  have hnames : w.host.servicesOf? "devnet" = some ["grafana"] := rfl
  let caller : Caller := ⟨0, false⟩
  have huncancelled : w.isCancelled caller.token = false := rfl
  obtain ⟨⟨build, outcome, w', hbuilt, hrun, -, -, hnone⟩, -⟩ :=
    watch_agrees rfl hnames rfl hcurrent huncancelled Sample.threeNodes none
  obtain rfl : ⟨events, none⟩ = build := Except.ok.inj (hbuild.symm.trans hbuilt)
  obtain ⟨⟨flaw, rfl⟩, henclaves, hcluster⟩ := hnone rfl
  refine ⟨hbuild, flaw, w', hrun, ?_, hcluster⟩
  rw [EnclaveHost.servicesOf?, henclaves]
  rfl

end Simulation.World
end DevnetChaos
