import DevnetChaos.Proofs.Enclave.Convergence
import DevnetChaos.Proofs.Enclave.Discipline
import DevnetChaos.Proofs.Enclave.Endings
import DevnetChaos.Proofs.Simulation.BuildAgreement
import DevnetChaos.Proofs.Simulation.Cluster
import DevnetChaos.Sample

/-!
# The cluster mirrors the enclave

Enclaves and pods change in different calls: a build that succeeds adds the pods of a network, and a
destruction takes out whatever services the enclave had.  Managers of one enclave keep the two
together, whatever they are interrupted by: the pods are always the services of the network that
stands, and there are none if no network stands.

Main definitions:

- `Exchange.standing`, `standingAfter`: the network that stands after calls to the platform.
- `Cluster.Mirrors`: the pods of a cluster are those of the network that stands.
- `DevnetStep`: a call of a manager, or a change from outside.
- `World.Holds`: the enclave and the cluster of a world hold the network that stands.

Main results:

- `World.Holds.respond`: every call that a manager may make keeps them together.
- `World.Holds.carryOut`: so does every run of a manager.
- `World.takeAll_mirrors`: and every history of one enclave.
-/

namespace DevnetChaos

open Run

/-! ## The network that stands -/

/-- The network that stands after a call to the platform: a build that succeeds puts up its network,
and a destruction leaves none. -/
def Exchange.standing (before : Option NetworkConfig) : Exchange → Option NetworkConfig
  | ⟨.buildNetwork _ network, some (.ok stream)⟩ =>
      if buildSucceeds (stream.events.map (·.event)) then some network else before
  | ⟨.destroyEnclave _, some (.ok _)⟩ => none
  | _ => before

/-- The network of the last build that succeeded, unless the enclave was destroyed since. -/
def standingAfter (before : Option NetworkConfig) (exchanges : List Exchange) :
    Option NetworkConfig :=
  exchanges.foldl Exchange.standing before

/-- One more exchange acts on what stood before it. -/
theorem standingAfter_concat (before : Option NetworkConfig) (past : List Exchange)
    (x : Exchange) : standingAfter before (past ++ [x]) = x.standing (standingAfter before past) :=
  List.foldl_concat ..

/-- Later exchanges go on from what stands after the first. -/
theorem standingAfter_append (before : Option NetworkConfig) (first later : List Exchange) :
    standingAfter before (first ++ later) = standingAfter (standingAfter before first) later :=
  List.foldl_append

/-- Calls to others than the platform neither put up a network nor take one down. -/
theorem Exchange.standing_of_not_isPlatformCall {x : Exchange}
    (hx : x.call.isPlatformCall = false) (before : Option NetworkConfig) :
    x.standing before = before := by
  obtain ⟨c, answer⟩ := x
  cases c with
  | enclaveExists | createEnclave | destroyEnclave | runningServices | buildNetwork => cases hx
  | _ => rfl

/-! ## Where nothing runs -/

/-- Whether an answer of the platform says that no node runs: the enclave was just created, or none
of its services is that of a node. -/
def Exchange.findsVacant : Exchange → Bool
  | ⟨.createEnclave _, some (.ok _)⟩ => true
  | ⟨.runningServices _, some (.ok services)⟩ =>
      services.all fun name => !ServiceName.looksLikeNodeService name
  | _ => false

/-- A manager builds only where it was just said that no node runs. -/
theorem EnclaveManager.MayCall.findsVacant {m : EnclaveManager} {restarts : Bool}
    {past : List Exchange} {enclave : String} {network : NetworkConfig}
    (h : m.MayCall restarts past (.buildNetwork enclave network)) :
    ∃ x, lastPlatformCall? past = some x ∧ x.findsVacant = true := by
  rcases h.build enclave network rfl with hcreated | ⟨-, services, hlooked, hnone⟩
  · exact ⟨_, hcreated, rfl⟩
  · exact ⟨_, hlooked, by simpa [Exchange.findsVacant] using hnone⟩

/-! ## Pods of the network that stands -/

/-- The pods of a cluster are the services of all nodes of the network that stands, each one once;
without such a network there are none. -/
def Cluster.Mirrors (d : ClientDefaults) (c : Cluster) : Option NetworkConfig → Prop
  | none => c.names = []
  | some network => ∃ t, Topology.ofNetwork d network = .ok t ∧ c.names.Perm t.allNames

/-- A cluster that mirrors what an empty one mirrors is empty. -/
theorem Cluster.Mirrors.eq_empty {d : ClientDefaults} {c : Cluster}
    {standing : Option NetworkConfig} (h : c.Mirrors d standing)
    (hempty : Cluster.empty.Mirrors d standing) : c = .empty := by
  cases standing with
  | none => exact eq_empty_of_names h
  | some network =>
    obtain ⟨t, ht, hnames⟩ := h
    obtain ⟨t', ht', hnone⟩ := hempty
    obtain rfl : t = t' := Except.ok.inj (ht.symm.trans ht')
    exact eq_empty_of_names (hnames.trans hnone.symm).eq_nil

namespace Simulation

/-! ## Changes from outside -/

/-- Changes that touch neither enclaves nor pods: scripts for builds to come, cancellations, and
whether the host can be reached. -/
def Action.isOutside : Action → Bool
  | .scriptBuild _ | .reachHost _ | .cancel | .newToken => true
  | _ => false

/-- Something that happens to a devnet. -/
inductive DevnetStep where
  | prepare (m : EnclaveManager) (restart : Bool) (caller : Caller)
  | forceRestart (m : EnclaveManager) (caller : Caller)
  /-- A change between calls. -/
  | change (action : Action)
  /-- A change that is due when some milliseconds have passed, which may be amid a call. -/
  | schedule (millis : Nat) (action : Action)
  /-- From now on, calls that wait beyond a moment are left. -/
  | leaveAt (deadline : Option Nat)

namespace DevnetStep

/-- The calls of a step with their answers. -/
def exchanges (step : DevnetStep) (w : World) : List Exchange :=
  match step with
  | prepare m restart caller => (m.prepare restart).trace (World.respond caller) w
  | forceRestart m caller => m.forceRestart.trace (World.respond caller) w
  | change _ | schedule .. | leaveAt _ => []

/-- What a step leaves. -/
def take (step : DevnetStep) (w : World) : World :=
  match step with
  | prepare m restart caller => (w.carryOut caller (m.prepare restart)).2
  | forceRestart m caller => (w.carryOut caller m.forceRestart).2
  | change action => (w.perform action).2
  | schedule millis action => w.appoint millis action
  | leaveAt deadline => { w with deadline }

/-- The managers are those of one enclave, and changes from outside touch no enclave. -/
def IsOn (enclave : String) : DevnetStep → Prop
  | prepare m .. | forceRestart m _ => m.enclave = enclave
  | change action | schedule _ action => action.isOutside = true
  | leaveAt _ => True

end DevnetStep

namespace World

/-- What steps leave, one after the other. -/
def takeAll (steps : List DevnetStep) (w : World) : World :=
  steps.foldl (fun w step => step.take w) w

/-- The calls of steps with their answers, in order. -/
def exchangesOf : List DevnetStep → World → List Exchange
  | [], _ => []
  | step :: rest, w => step.exchanges w ++ exchangesOf rest (step.take w)

/-! ## Worlds that hold a network -/

/-- A world in which an enclave has the services of the network that stands and the cluster its
pods, and in which nothing is scheduled that touches them. -/
structure Holds (d : ClientDefaults) (enclave : String) (standing : Option NetworkConfig)
    (w : World) : Prop where
  attached : w.attached = true
  defaults : w.host.defaults = d
  timedBuilds : w.disturbances.timedBuilds = []
  agenda : ∀ a ∈ w.agenda, a.action.isOutside = true
  registered : ∀ network, standing = some network → ∃ t, Topology.ofNetwork d network = .ok t ∧
    w.host.servicesOf? enclave = some (EnclaveHost.allServices t network)
  pods : w.cluster.Mirrors d standing

variable {d : ClientDefaults} {enclave : String} {standing : Option NetworkConfig} {w : World}
variable {network : NetworkConfig} {caller : Caller}

/-- In an empty deployment nothing stands. -/
theorem holds_empty (d : ClientDefaults) (enclave : String) :
    (empty d true).Holds d enclave none :=
  ⟨rfl, rfl, rfl, by simp [empty], by simp, rfl⟩

namespace Holds

/-! ## Waits -/

/-- What is done from outside changes neither enclaves nor pods. -/
theorem perform {action : Action} (hw : w.Holds d enclave standing)
    (haction : action.isOutside = true) : (w.perform action).2.Holds d enclave standing := by
  cases action with
  | scriptBuild events => exact { hw with }
  | reachHost reachable => exact { hw with }
  | newToken => exact { hw with }
  | cancel =>
    change w.cancel.Holds d enclave standing
    unfold World.cancel
    split
    · exact hw
    · exact { hw with }
  | _ => cases haction

/-- What is kept on the way to a moment comes from outside, and so does what is left of it. -/
theorem keepAppointments (hw : w.Holds d enclave standing) (stop : World → Bool)
    (moment : Option Nat) {agenda : List Appointment}
    (hagenda : ∀ a ∈ agenda, a.action.isOutside = true) :
    (keepAppointments stop moment agenda w).2.Holds d enclave standing := by
  induction agenda generalizing w with
  | nil => exact { hw with agenda := hagenda }
  | cons a rest ih =>
    obtain ⟨haction, hrest⟩ := List.forall_mem_cons.1 hagenda
    rw [World.keepAppointments]
    split
    · exact { hw with agenda := hagenda }
    · have hdue : ({ w with now := a.due, agenda := rest } : World).Holds d enclave standing :=
        { hw with agenda := hrest }
      dsimp only
      split
      · exact hdue.perform haction
      · exact ih (hdue.perform haction) hrest

/-- While time passes, only what is done from outside happens. -/
theorem wait (hw : w.Holds d enclave standing) (stop : World → Bool) (target : Option Nat) :
    (w.wait stop target).2.Holds d enclave standing := by
  unfold World.wait
  split
  · exact hw
  · exact hw.keepAppointments stop _ hw.agenda

theorem pause (hw : w.Holds d enclave standing) (token millis : Nat) :
    (w.pause token millis).2.Holds d enclave standing :=
  hw.wait (·.isCancelled token) (some (w.now + millis))

theorem awaitCancellation (hw : w.Holds d enclave standing) (token : Nat) :
    (w.awaitCancellation token).2.Holds d enclave standing :=
  hw.wait (·.isCancelled token) none

/-- An appointment for something from outside changes nothing yet. -/
theorem appoint {action : Action} (hw : w.Holds d enclave standing)
    (haction : action.isOutside = true) (millis : Nat) :
    (w.appoint millis action).Holds d enclave standing := by
  have hinsert : ∀ agenda : List Appointment, (∀ a ∈ agenda, a.action.isOutside = true) →
      ∀ a ∈ insertAppointment ⟨w.now + millis, action⟩ agenda, a.action.isOutside = true := by
    intro agenda hagenda
    induction agenda with
    | nil => simpa [insertAppointment] using haction
    | cons b rest ih =>
      obtain ⟨hb, hrest⟩ := List.forall_mem_cons.1 hagenda
      rw [insertAppointment]
      split
      · exact List.forall_mem_cons.2 ⟨hb, ih hrest⟩
      · exact List.forall_mem_cons.2 ⟨haction, hagenda⟩
  exact { hw with agenda := hinsert w.agenda hw.agenda }

/-! ## Calls to the platform -/

/-- Looking an enclave up leaves what stands. -/
theorem lookUp (hw : w.Holds d enclave standing) (other : String) :
    (w.lookUp other).2.Holds d enclave standing := by
  unfold World.lookUp EnclaveHost.lookUp
  dsimp only
  split
  all_goals
    split
    all_goals exact { hw with }

/-- No network stands in an enclave that can be created. -/
theorem create (hw : w.Holds d enclave standing) :
    (w.create enclave).2.Holds d enclave standing ∧
      (Exchange.findsVacant ⟨.createEnclave enclave, some (w.create enclave).1⟩ = true →
        Cluster.empty.Mirrors d standing) := by
  unfold World.create
  rcases w.host.create_cases enclave with ⟨failure, hcreate⟩ | ⟨habsent, hcreate⟩
  · rw [hcreate]
    exact ⟨{ hw with }, fun hvacant => by cases hvacant⟩
  · obtain rfl : standing = none := by
      refine Option.eq_none_iff_forall_ne_some.2 fun network hsome => ?_
      obtain ⟨t, -, hservices⟩ := hw.registered network hsome
      rw [habsent] at hservices
      cases hservices
    rw [hcreate]
    exact ⟨{ hw with registered := fun _ hsome => by cases hsome }, fun _ => rfl⟩

/-- A destruction takes out all pods: they are services of the enclave. -/
theorem destroy (hw : w.Holds d enclave standing) :
    (w.destroy enclave).2.Holds d enclave
      (Exchange.standing standing ⟨.destroyEnclave enclave, some (w.destroy enclave).1⟩) := by
  unfold World.destroy
  rcases w.host.destroy_cases enclave with ⟨failure, hdestroy⟩ | ⟨names, hfound, hdestroy⟩
  · rw [hdestroy]
    exact { hw with }
  · have hpods : w.cluster.names ⊆ names := by
      cases standing with
      | none =>
        rw [show w.cluster.names = [] from hw.pods]
        exact List.nil_subset _
      | some network =>
        obtain ⟨t, ht, hnames⟩ := hw.pods
        obtain ⟨t', ht', hservices⟩ := hw.registered network rfl
        obtain rfl : t = t' := Except.ok.inj (ht.symm.trans ht')
        rw [hfound, Option.some.injEq] at hservices
        rw [hservices]
        exact fun name hname => List.mem_append_left _ (hnames.mem_iff.1 hname)
    rw [hdestroy]
    dsimp only
    rw [if_pos hw.attached, Cluster.removeAll_eq_empty hpods]
    exact { hw with registered := fun _ hsome => (by cases hsome), pods := rfl }

/-- Where no service is that of a node, the network that stands has no pods. -/
theorem services (hw : w.Holds d enclave standing) :
    (w.services enclave).2.Holds d enclave standing ∧
      (Exchange.findsVacant ⟨.runningServices enclave, some (w.services enclave).1⟩ = true →
        Cluster.empty.Mirrors d standing) := by
  unfold World.services EnclaveHost.services
  dsimp only
  split
  · exact ⟨{ hw with }, fun hvacant => by cases hvacant⟩
  · split
    · exact ⟨{ hw with }, fun hvacant => by cases hvacant⟩
    · next names hfound =>
      refine ⟨{ hw with }, fun hvacant => ?_⟩
      cases standing with
      | none => rfl
      | some network =>
        obtain ⟨t, ht, hservices⟩ := hw.registered network rfl
        obtain rfl : names = EnclaveHost.allServices t network :=
          Option.some.inj (hfound.symm.trans hservices)
        have hnone : t.allNames = [] := by
          refine List.eq_nil_iff_forall_not_mem.2 fun name hname => ?_
          have hother := List.all_eq_true.1 hvacant name (List.mem_append_left _ hname)
          simp [Topology.looksLikeNodeService_of_mem_allNames hname] at hother
        exact ⟨t, ht, hnone ▸ List.Perm.refl _⟩

/-- Only a build that succeeds changes what stands. -/
theorem afterBuild (hw : w.Holds d enclave standing) (hempty : w.cluster = .empty) {t : Topology}
    (ht : Topology.ofNetwork d network = .ok t) (hdistinct : t.Distinct)
    (events : List BuildEvent) :
    (w.afterBuild enclave network t events).Holds d enclave
      (if buildSucceeds events then some network else standing) := by
  unfold World.afterBuild EnclaveHost.afterBuild
  cases buildSucceeds events with
  | false => exact { hw with }
  | true =>
    have hpods : (Cluster.empty.addTopology t).Mirrors d (some network) :=
      ⟨t, ht, Cluster.names_addTopology_perm hdistinct⟩
    have hcluster : (if true && w.attached then w.cluster.addTopology t else w.cluster) =
        Cluster.empty.addTopology t := by
      rw [hw.attached, hempty]
      rfl
    rw [hcluster]
    refine { hw with registered := ?_, pods := hpods }
    rintro _ ⟨⟩
    exact ⟨t, ht, EnclaveHost.servicesOf?_seed _ _ _⟩

/-- A build where no pods are wanted puts up the pods of its network, or changes nothing. -/
theorem build (hw : w.Holds d enclave standing) (hvacant : Cluster.empty.Mirrors d standing)
    (network : NetworkConfig) :
    (w.build enclave network).2.Holds d enclave (Exchange.standing standing
      ⟨.buildNetwork enclave network, some (w.build enclave network).1⟩) := by
  obtain ⟨t, ht, hdistinct⟩ : ∃ t, Topology.ofNetwork d network = .ok t ∧ t.Distinct :=
    ⟨_, Topology.ofNetwork_eq d network, (Topology.declared_numbered d _ _).distinct⟩
  have hdeclared : Topology.ofNetwork w.host.defaults network = .ok t := by rw [hw.defaults, ht]
  rcases w.host.build_cases hdeclared enclave with ⟨failure, hbuild⟩ | ⟨hreachable, names, hfound⟩
  · unfold World.build
    rw [hw.timedBuilds, hbuild]
    exact { hw with }
  · rw [World.build_events hreachable hfound hw.timedBuilds hdeclared]
    dsimp only [Exchange.standing]
    rw [map_event_ofEvents]
    exact hw.afterBuild (hw.pods.eq_empty hvacant) ht hdistinct _

end Holds

/-! ## Runs of a manager -/

/-- A world that holds what stands after a history, and in which an enclave that was just said to
run no node runs none. -/
structure Follows (d : ClientDefaults) (enclave : String) (before : Option NetworkConfig)
    (past : List Exchange) (w : World) : Prop where
  holds : w.Holds d enclave (standingAfter before past)
  vacant : ∀ x, lastPlatformCall? past = some x → x.findsVacant = true →
    Cluster.empty.Mirrors d (standingAfter before past)

namespace Follows

variable {before : Option NetworkConfig} {past : List Exchange} {w' : World} {x : Exchange}
variable {m : EnclaveManager} {restarts : Bool} {c : Call}

theorem nil (hw : w.Holds d enclave before) : w.Follows d enclave before [] :=
  ⟨hw, fun _ hlast => by cases hlast⟩

/-- One more exchange is followed if it leaves what then stands, and finds nothing where it says
so. -/
theorem concat (hw : w.Follows d enclave before past)
    (hholds : w'.Holds d enclave (x.standing (standingAfter before past)))
    (hvacant : x.call.isPlatformCall = true → x.findsVacant = true →
      Cluster.empty.Mirrors d (x.standing (standingAfter before past))) :
    w'.Follows d enclave before (past ++ [x]) := by
  refine ⟨by rwa [standingAfter_concat], fun y hlast hy => ?_⟩
  rw [lastPlatformCall?_concat] at hlast
  rw [standingAfter_concat]
  split at hlast
  · next hcall =>
    obtain rfl := Option.some.inj hlast
    exact hvacant hcall hy
  · next hcall =>
    rw [Exchange.standing_of_not_isPlatformCall (by simpa using hcall)]
    exact hw.vacant y hlast hy

/-- A call that a manager may make, about its own enclave, is followed. -/
theorem respond (hw : w.Follows d m.enclave before past) (hmay : m.MayCall restarts past c)
    (habout : m.IsAbout c) (caller : Caller) :
    (World.respond caller c w).2.Follows d m.enclave before
      (past ++ [⟨c, (World.respond caller c w).1⟩]) := by
  cases c with
  | enclaveExists enclave => exact hw.concat (hw.holds.lookUp enclave) fun _ hx => by cases hx
  | createEnclave enclave =>
    obtain rfl : enclave = m.enclave := habout
    exact hw.concat hw.holds.create.1 fun _ => hw.holds.create.2
  | destroyEnclave enclave =>
    obtain rfl : enclave = m.enclave := habout
    exact hw.concat hw.holds.destroy fun _ hx => by cases hx
  | runningServices enclave =>
    obtain rfl : enclave = m.enclave := habout
    exact hw.concat hw.holds.services.1 fun _ => hw.holds.services.2
  | buildNetwork enclave network =>
    obtain rfl : enclave = m.enclave := habout.1
    -- The manager was just told that no node runs, so nothing that stands has pods.
    obtain ⟨x, hlast, hx⟩ := hmay.findsVacant
    exact hw.concat (hw.holds.build (hw.vacant x hlast hx) network) fun _ hx => by cases hx
  | pause millis => exact hw.concat (hw.holds.pause _ millis) fun hcall => by cases hcall
  | awaitCancellation =>
    exact hw.concat (hw.holds.awaitCancellation _) fun hcall => by cases hcall
  | note entry => exact hw.concat { hw.holds with } fun hcall => by cases hcall
  | publish n =>
    refine hw.concat ?_ fun hcall => by cases hcall
    change (if caller.onBus then w.publish n else w).Holds d m.enclave _
    split
    · exact { hw.holds with }
    · exact hw.holds
  | _ => exact habout.elim

end Follows

/-- A run of a manager leaves an enclave and a cluster that hold what stands after its calls. -/
theorem Holds.carryOut {α : Type} {r : Run α} {Q : α → List Exchange → Prop} {m : EnclaveManager}
    {restarts : Bool} (hw : w.Holds d m.enclave standing) (hobeys : m.Obeys restarts r [] Q)
    (habout : r.Only m.IsAbout) (caller : Caller) :
    (w.carryOut caller r).2.Holds d m.enclave
      (standingAfter standing (r.trace (World.respond caller) w)) := by
  have hpath := path_trace (World.respond caller) r w
  have hcalls := (hobeys.path hpath fun _ _ _ _ => trivial).1.and_forall (habout.path hpath)
  have hstep : ∀ past c w', m.MayCall restarts past c ∧ m.IsAbout c →
      w'.Follows d m.enclave standing past →
        (World.respond caller c w').2.Follows d m.enclave standing
          (past ++ [⟨c, (World.respond caller c w').1⟩]) :=
    fun past c w' hrule hw' => hw'.respond hrule.1 hrule.2 caller
  exact (trace_keeps hstep hcalls (Follows.nil hw)).holds

/-! ## Histories of one enclave -/

/-- A step of one enclave leaves an enclave and a cluster that hold what stands after it. -/
theorem Holds.take {step : DevnetStep} (hw : w.Holds d enclave standing)
    (hstep : step.IsOn enclave) :
    (step.take w).Holds d enclave (standingAfter standing (step.exchanges w)) := by
  cases step with
  | prepare m restart caller =>
    obtain rfl : m.enclave = enclave := hstep
    exact hw.carryOut (m.prepare_obeys restart) (m.prepare_about restart) caller
  | forceRestart m caller =>
    obtain rfl : m.enclave = enclave := hstep
    exact hw.carryOut m.forceRestart_obeys m.forceRestart_about caller
  | change action => exact hw.perform hstep
  | schedule millis action => exact hw.appoint hstep millis
  | leaveAt deadline => exact { hw with }

/-- Steps of one enclave leave an enclave and a cluster that hold what stands after all of them. -/
theorem Holds.takeAll {steps : List DevnetStep} (hw : w.Holds d enclave standing)
    (hsteps : ∀ step ∈ steps, step.IsOn enclave) :
    (takeAll steps w).Holds d enclave (standingAfter standing (exchangesOf steps w)) := by
  induction steps generalizing w standing with
  | nil => exact hw
  | cons step rest ih =>
    obtain ⟨hstep, hrest⟩ := List.forall_mem_cons.1 hsteps
    rw [exchangesOf, standingAfter_append]
    exact ih (hw.take hstep) hrest

/-- Nothing runs at first.  Then managers of one enclave make it ready or build its devnet anew, in
any order and each with a network of its own, while builds are scripted, managers are cancelled,
calls are left and the host is lost and found again, between calls and amid them.  Whatever comes of
the calls, the pods of the cluster are the services of all nodes of the network of the last build
that succeeded, each one once, if the enclave was not destroyed since, and otherwise there are
none. -/
theorem takeAll_mirrors (d : ClientDefaults) (enclave : String) (steps : List DevnetStep)
    (hsteps : ∀ step ∈ steps, step.IsOn enclave) :
    (World.takeAll steps (.empty d true)).cluster.Mirrors d
      (standingAfter none (exchangesOf steps (.empty d true))) :=
  ((holds_empty d enclave).takeAll hsteps).pods

/-- A restart of a devnet with three nodes that is cancelled while the platform settles. -/
def cancelledRestart : List DevnetStep :=
  let m := EnclaveManager.declaring .standard (.standard "devnet") Sample.threeNodes
  [.prepare m true ⟨0, true⟩, .schedule 1000 .cancel, .forceRestart m ⟨0, true⟩]

/-- Two attempts to build another network, of which the first fails. -/
def secondAttempt : List DevnetStep :=
  let m := EnclaveManager.declaring .standard (.standard "devnet")
    (Sample.network [(.geth, .teku, 1)])
  [.change (.scriptBuild [.error "no space"]), .prepare m false ⟨1, true⟩,
    .prepare m false ⟨1, true⟩]

/-- The cancelled restart leaves no pod of the first network, the build that fails adds none, and
the next one adds those of the second network. -/
theorem takeAll_mirrors_secondAttempt :
    (World.takeAll cancelledRestart (.empty .standard true)).cluster.names = [] ∧
      (World.takeAll (cancelledRestart ++ secondAttempt) (.empty .standard true)).cluster.Mirrors
        .standard (some (Sample.network [(.geth, .teku, 1)])) := by
  have hcancelled : ∀ step ∈ cancelledRestart, step.IsOn "devnet" := by
    simp [cancelledRestart, DevnetStep.IsOn, EnclaveManager.declaring, EnclaveManager.enclave,
      Action.isOutside, EnclaveSettings.standard]
  have hsecond : ∀ step ∈ secondAttempt, step.IsOn "devnet" := by
    simp [secondAttempt, DevnetStep.IsOn, EnclaveManager.declaring, EnclaveManager.enclave,
      Action.isOutside, EnclaveSettings.standard]
  have hnone :
      standingAfter none (exchangesOf cancelledRestart (.empty .standard true)) = none := by
    decide +kernel
  have hsome : standingAfter none
      (exchangesOf (cancelledRestart ++ secondAttempt) (.empty .standard true)) =
        some (Sample.network [(.geth, .teku, 1)]) := by
    decide +kernel
  constructor
  · have hfirst := takeAll_mirrors .standard "devnet" cancelledRestart hcancelled
    rwa [hnone] at hfirst
  · have hlast := takeAll_mirrors .standard "devnet" (cancelledRestart ++ secondAttempt)
      (List.forall_mem_append.2 ⟨hcancelled, hsecond⟩)
    rwa [hsome] at hlast

end World
end Simulation
end DevnetChaos
