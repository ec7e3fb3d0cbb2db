import DevnetChaos.Proofs.Run.Conduct
import DevnetChaos.Proofs.Run.Success
import DevnetChaos.Proofs.Simulation.EnclaveHost
import DevnetChaos.Proofs.Topology.Numbered
import DevnetChaos.Simulation.Time

/-!
# Quiet worlds

A quiet world is left to one run: its host of enclaves can be reached and is asked truthfully,
nothing is scheduled, and the run is not cancelled.  Every call leaves it quiet, so every run does.

Main definitions:

- `World.Candid`: a world that answers questions about enclaves truthfully.
- `World.Quiet`: a quiet world for the runs of a token.
- `World.running`: a quiet world with one enclave.

Main results:

- `Quiet.respond`, `Quiet.execute`: a call and a run leave a world quiet.
- `Quiet.bind_done`: a run in two parts that comes to a value.
-/

namespace DevnetChaos
namespace Simulation
namespace World

open Run

/-! ## Questions about enclaves -/

/-- Questions about enclaves are answered, and truthfully. -/
structure Candid (w : World) : Prop where
  reachable : w.host.reachable = true
  forcedExistence : w.disturbances.forcedExistence = []

/-- A world after the question whether an enclave exists. -/
def lookedUp (enclave : String) (w : World) : World :=
  { w with host := w.host.record .lookUp enclave }

/-- A world after the questions whether an enclave exists and which services it runs. -/
def inspected (enclave : String) (w : World) : World :=
  { w with host := (w.host.record .lookUp enclave).record .services enclave }

variable {enclave : String} {names : List String} {w w' : World} {caller : Caller} {token : Nat}
variable {α β : Type}

/-- A candid world says whether an enclave exists. -/
theorem Candid.lookUp_eq (hw : w.Candid) (enclave : String) :
    w.lookUp enclave = (.ok (w.host.servicesOf? enclave).isSome, w.lookedUp enclave) := by
  simp only [lookUp, EnclaveHost.lookUp_eq hw.reachable, hw.forcedExistence]
  rfl

/-- A candid world tells the services of an enclave that was looked up. -/
theorem Candid.services_eq (hw : w.Candid) (hnames : w.host.servicesOf? enclave = some names) :
    (w.lookedUp enclave).services enclave = (.ok names, w.inspected enclave) := by
  have hreachable : (w.lookedUp enclave).host.reachable = true := hw.reachable
  have hfound : (w.lookedUp enclave).host.servicesOf? enclave = some names := hnames
  simp only [World.services, EnclaveHost.services_eq hreachable hfound]
  rfl

/-- A question about an enclave is answered and counted. -/
theorem Candid.respond_enclaveExists (hw : w.Candid) (caller : Caller) (enclave : String) :
    respond caller (.enclaveExists enclave) w =
      (some (.ok (w.host.servicesOf? enclave).isSome), w.lookedUp enclave) :=
  congrArg (fun x => (some x.1, x.2)) (hw.lookUp_eq enclave)

/-- Questions about an enclave are no changes of it. -/
theorem mutations_inspected (enclave : String) (w : World) :
    (w.inspected enclave).host.mutations = w.host.mutations := by
  simp [inspected, EnclaveHost.mutations, EnclaveHost.record, HostCall.isMutation]

/-! ## Worlds that are left to one run -/

/-- A wait passes where nothing is scheduled or cancelled and no wait is left. -/
theorem pause_of_idle (huncancelled : w.isCancelled token = false) (hdeadline : w.deadline = none)
    (hagenda : w.agenda = []) (millis : Nat) :
    w.pause token millis = (some .elapsed, { w with agenda := [], now := w.now + millis }) := by
  simp [World.pause, wait, huncancelled, waitEnd, hdeadline, hagenda, keepAppointments]

/-- A world that is candid, in which nothing is scheduled, no build is replaced and no wait is left,
and in which the runs of a token are not cancelled. -/
structure Quiet (token : Nat) (w : World) : Prop extends Candid w where
  timedBuilds : w.disturbances.timedBuilds = []
  deadline : w.deadline = none
  agenda : w.agenda = []
  uncancelled : w.isCancelled token = false

/-- A world in which nothing has happened yet, except that an enclave runs services. -/
def running (d : ClientDefaults) (enclave : String) (names : List String) : World :=
  { empty d true with host := (EnclaveHost.empty d).seed enclave names }

/-- A world in which a devnet runs is quiet, as nothing is to happen in it. -/
theorem quiet_running (d : ClientDefaults) (enclave : String) (names : List String) (token : Nat) :
    (running d enclave names).Quiet token :=
  ⟨⟨rfl, rfl⟩, rfl, rfl, rfl, rfl⟩

namespace Quiet

/-- A wait takes its time, as nobody cancels it. -/
theorem pause_eq (hw : w.Quiet token) (millis : Nat) :
    w.pause token millis = (some .elapsed, { w with agenda := [], now := w.now + millis }) :=
  pause_of_idle hw.uncancelled hw.deadline hw.agenda millis

/-- A wait for a cancellation does not end. -/
theorem awaitCancellation_eq (hw : w.Quiet token) :
    w.awaitCancellation token = (none, { w with agenda := [] }) := by
  simp [World.awaitCancellation, wait, hw.uncancelled, waitEnd, hw.deadline, hw.agenda,
    keepAppointments]

/-- Every call leaves the world quiet. -/
theorem respond (hw : w.Quiet caller.token) (c : Call) :
    (World.respond caller c w).2.Quiet caller.token := by
  cases c with
  | enclaveExists enclave =>
    change (w.lookUp enclave).2.Quiet caller.token
    rw [hw.lookUp_eq]
    exact { hw with }
  | createEnclave enclave =>
    have hreachable := (EnclaveHost.reachable_create w.host enclave).trans hw.reachable
    exact { hw with reachable := hreachable }
  | destroyEnclave enclave =>
    have hreachable := (EnclaveHost.reachable_destroy w.host enclave).trans hw.reachable
    change (w.destroy enclave).2.Quiet caller.token
    unfold World.destroy
    generalize w.host.destroy enclave = destroyed at hreachable ⊢
    rcases destroyed with ⟨_ | services, host⟩
    · exact { hw with reachable := hreachable }
    · dsimp only
      split <;> exact { hw with reachable := hreachable }
  | runningServices enclave =>
    have hreachable := (EnclaveHost.reachable_services w.host enclave).trans hw.reachable
    exact { hw with reachable := hreachable }
  | buildNetwork enclave network =>
    have hreachable := (EnclaveHost.reachable_build w.host enclave network).trans hw.reachable
    change (w.build enclave network).2.Quiet caller.token
    unfold World.build
    rw [hw.timedBuilds]
    generalize w.host.build enclave network = built at hreachable ⊢
    rcases built with ⟨_ | build, host⟩ <;> exact { hw with reachable := hreachable }
  | submitFault fault =>
    change (w.submit fault).2.Quiet caller.token
    unfold World.submit
    rcases w.faults.submit fault with ⟨_ | accepted, faults⟩ <;> exact { hw with }
  | faultStatus handle => exact { hw with }
  | podsLabelled key value => exact hw
  | pod name => exact hw
  | persist artifacts =>
    change (w.persist artifacts).2.Quiet caller.token
    unfold World.persist
    split
    · exact hw
    · exact { hw with }
  | now => exact hw
  | pause millis =>
    change (w.pause caller.token millis).2.Quiet caller.token
    rw [hw.pause_eq]
    exact { hw with agenda := rfl }
  | awaitCancellation =>
    change (w.awaitCancellation caller.token).2.Quiet caller.token
    rw [hw.awaitCancellation_eq]
    exact { hw with agenda := rfl }
  | note entry => exact { hw with }
  | publish n =>
    change (if caller.onBus then w.publish n else w).Quiet caller.token
    split
    · exact { hw with }
    · exact hw

/-- Every run leaves the world quiet. -/
theorem execute (hw : w.Quiet caller.token) (r : Run α) :
    (r.execute (World.respond caller) w).2.Quiet caller.token :=
  (Only.any r).keeps (fun c _ _ hw' => hw'.respond c) hw

/-- A run in two parts that comes to a value in a quiet world. -/
theorem bind_done (hw : w.Quiet caller.token) {r : Run α} {f : α → Run β} {b : β}
    (h : (r >>= f).execute (World.respond caller) w = (.done b, w')) :
    ∃ a w₁, r.execute (World.respond caller) w = (.done a, w₁) ∧ w₁.Quiet caller.token ∧
      (f a).execute (World.respond caller) w₁ = (.done b, w') := by
  obtain ⟨a, w₁, hfirst, hlater⟩ := execute_bind_done h
  have hw₁ := hw.execute r
  rw [hfirst] at hw₁
  exact ⟨a, w₁, hfirst, hw₁, hlater⟩

/-! ## Calls in a quiet world -/

/-- A build replies with the events of the host. -/
theorem build_ok (hw : w.Quiet token) {network : NetworkConfig} {stream : BuildStream}
    (hbuild : w.build enclave network = (.ok stream, w')) :
    ∃ b, w.host.build enclave network = (.ok b, w'.host) ∧ stream = .ofEvents b.events := by
  rcases hhost : w.host.build enclave network with ⟨_ | b, host⟩
  · simp only [World.build, hw.timedBuilds, hhost] at hbuild
    cases hbuild
  · simp only [World.build, hw.timedBuilds, hhost] at hbuild
    cases hbuild
    exact ⟨b, rfl, rfl⟩

/-- A network was built if the call for it came to a value. -/
theorem buildNetwork_done (hw : w.Quiet caller.token) {network : NetworkConfig}
    {stream : BuildStream}
    (h : (Run.buildNetwork enclave network).execute (World.respond caller) w =
      (.done stream, w')) :
    ∃ b, w.host.build enclave network = (.ok b, w'.host) ∧ stream = .ofEvents b.events := by
  have hcall : (Run.buildNetwork enclave network).execute (World.respond caller) w =
      (Run.ofExcept (w.build enclave network).1).execute (World.respond caller)
        (w.build enclave network).2 := execute_call rfl
  rw [hcall] at h
  rcases hbuild : w.build enclave network with ⟨_ | stream', w₁⟩
  · rw [hbuild] at h
    cases h
  · rw [hbuild] at h
    cases h
    exact hw.build_ok hbuild

/-- A pause takes its time and leaves the host as it is. -/
theorem pause (hw : w.Quiet caller.token) (millis : Nat) :
    Succeeds (World.respond caller) (Run.pause millis) w fun how w' =>
      how = .elapsed ∧ w'.Quiet caller.token ∧ w'.host = w.host := by
  refine Succeeds.call (hw.pause_eq millis) (Succeeds.pure ⟨rfl, ?_, rfl⟩)
  exact { hw with agenda := rfl }

/-- A wait succeeds and leaves the host as it is. -/
theorem sleep (hw : w.Quiet caller.token) (duration : Duration) (operation : String) :
    Succeeds (World.respond caller) (Run.sleep duration operation) w fun _ w' =>
      w'.Quiet caller.token ∧ w'.host = w.host := by
  refine (hw.pause duration.wholeMillis).bind fun how w' hwait => ?_
  rw [hwait.1]
  exact Succeeds.pure hwait.2

theorem note (hw : w.Quiet caller.token) (entry : JournalEntry) :
    Succeeds (World.respond caller) (Run.note entry) w fun _ w' =>
      w'.Quiet caller.token ∧ w'.host = w.host :=
  Succeeds.call rfl (Succeeds.pure ⟨hw.respond (.note entry), rfl⟩)

theorem publish (hw : w.Quiet caller.token) (n : Notification) :
    Succeeds (World.respond caller) (Run.publish n) w fun _ w' =>
      w'.Quiet caller.token ∧ w'.host = w.host := by
  refine Succeeds.call rfl (Succeeds.pure ⟨hw.respond (.publish n), ?_⟩)
  split <;> rfl

/-- A question about an enclave succeeds. -/
theorem enclaveExists (hw : w.Quiet caller.token) (enclave : String) :
    Succeeds (World.respond caller) (Run.enclaveExists enclave) w fun found w' =>
      found = (w.host.servicesOf? enclave).isSome ∧ w' = w.lookedUp enclave :=
  Succeeds.call (hw.respond_enclaveExists caller enclave) (Succeeds.pure ⟨rfl, rfl⟩)

/-- An enclave that does not exist is created, and is empty then. -/
theorem createEnclave (hw : w.Quiet caller.token) (habsent : w.host.servicesOf? enclave = none) :
    Succeeds (World.respond caller) (Run.createEnclave enclave) w fun _ w' =>
      w'.Quiet caller.token ∧ w'.host = (w.host.record .create enclave).seed enclave [] := by
  have hcreate := EnclaveHost.create_eq hw.reachable habsent
  have hworld : w.create enclave =
      (.ok (), { w with host := (w.host.record .create enclave).seed enclave [] }) := by
    simp only [World.create, hcreate]
  refine Succeeds.call (congrArg (fun x => (some x.1, x.2)) hworld) (Succeeds.pure ⟨?_, rfl⟩)
  exact { hw with reachable := hw.reachable }

/-- An enclave that exists is destroyed, and the scripts of builds are as before. -/
theorem destroyEnclave (hw : w.Quiet caller.token)
    (hnames : w.host.servicesOf? enclave = some names) :
    Succeeds (World.respond caller) (Run.destroyEnclave enclave) w fun _ w' =>
      w'.Quiet caller.token ∧ w'.host.servicesOf? enclave = none ∧
        w'.host.scriptedBuilds = w.host.scriptedBuilds := by
  obtain ⟨host, hdestroy, hgone, -, hscripts⟩ := EnclaveHost.destroy_eq hw.reachable hnames
  have hquiet := hw.respond (.destroyEnclave enclave)
  have hresult : (w.destroy enclave).1 = .ok () := by
    simp only [World.destroy, hdestroy]
  have hhost : (w.destroy enclave).2.host = host := by
    simp only [World.destroy, hdestroy]
    split <;> rfl
  have hanswer : World.respond caller (.destroyEnclave enclave) w =
      (some (.ok ()), (w.destroy enclave).2) :=
    congrArg (fun x => (some x, (w.destroy enclave).2)) hresult
  refine Succeeds.call hanswer (Succeeds.pure ⟨hquiet, ?_, ?_⟩)
  · rw [hhost, hgone]
  · rw [hhost, hscripts]

/-- If the next build succeeds, the network is built with the events of a success. -/
theorem buildNetwork (hw : w.Quiet caller.token) (hnext : w.host.BuildsNext)
    (hnames : w.host.servicesOf? enclave = some names) (network : NetworkConfig) :
    Succeeds (World.respond caller) (Run.buildNetwork enclave network) w fun stream w' =>
      w'.Quiet caller.token ∧ ∃ events, stream = .ofEvents events ∧
        buildSucceeds events = true := by
  obtain ⟨t, ht⟩ : ∃ t, Topology.ofNetwork w.host.defaults network = .ok t :=
    ⟨_, Topology.ofNetwork_eq w.host.defaults network⟩
  obtain ⟨host, hbuild⟩ := EnclaveHost.build_eq hw.reachable hnames ht
  have hquiet := hw.respond (.buildNetwork enclave network)
  have hresult : (w.build enclave network).1 = .ok (.ofEvents (w.host.nextScript t.size).1) := by
    simp only [World.build, hw.timedBuilds, hbuild]
  have hanswer : World.respond caller (.buildNetwork enclave network) w =
      (some (.ok (.ofEvents (w.host.nextScript t.size).1)), (w.build enclave network).2) :=
    congrArg (fun x => (some x, (w.build enclave network).2)) hresult
  exact Succeeds.call hanswer (Succeeds.pure ⟨hquiet, _, rfl, hnext.nextScript t.size⟩)

end Quiet
end World
end Simulation
end DevnetChaos
