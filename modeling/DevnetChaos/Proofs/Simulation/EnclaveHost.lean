import DevnetChaos.Proofs.TextMap
import DevnetChaos.Simulation.EnclaveHost

/-!
# What the simulated host of enclaves does

A host that can be reached answers truthfully, creates what does not exist, destroys what does, and
builds networks in what exists.  A build that succeeds gives an enclave the services of its network,
and one that fails leaves it as it was.

Main definitions:

- `EnclaveHost.BuildsNext`: the next build of a host succeeds.
- `EnclaveHost.nextEvents`, `EnclaveHost.afterBuild`: the events of the next build, and a host after
  a build with given events.
- `EnclaveHost.Fresh`: a host that knows nothing of an enclave.

Main results:

- `EnclaveHost.lookUp_eq`, `EnclaveHost.services_eq`: the answers to questions.
- `EnclaveHost.create_eq`, `EnclaveHost.destroy_eq`, `EnclaveHost.build_eq`: changes that succeed.
- `EnclaveHost.create_cases`, `EnclaveHost.destroy_cases`, `EnclaveHost.build_cases`: all that a
  change can come to.
- `EnclaveHost.build_events`: what a build does by its events.
- `EnclaveHost.build_ok`: what a build has done that did not fail.
-/

namespace DevnetChaos
namespace EnclaveHost

variable {enclave : String} {h h' : EnclaveHost} {names : List String} {network : NetworkConfig}
variable {t : Topology}

/-! ## Calls leave a host where it can be reached -/

@[simp] theorem reachable_create (h : EnclaveHost) (enclave : String) :
    (h.create enclave).2.reachable = h.reachable := by
  unfold create
  dsimp only
  split
  · rfl
  · split <;> rfl

@[simp] theorem reachable_destroy (h : EnclaveHost) (enclave : String) :
    (h.destroy enclave).2.reachable = h.reachable := by
  unfold destroy
  dsimp only
  split
  · rfl
  · split <;> rfl

@[simp] theorem reachable_services (h : EnclaveHost) (enclave : String) :
    (h.services enclave).2.reachable = h.reachable := by
  unfold services
  dsimp only
  split
  · rfl
  · split <;> rfl

@[simp] theorem reachable_nextScript (h : EnclaveHost) (nodes : Nat) :
    (h.nextScript nodes).2.reachable = h.reachable := by
  unfold nextScript
  split <;> rfl

@[simp] theorem reachable_build (h : EnclaveHost) (enclave : String) (network : NetworkConfig) :
    (h.build enclave network).2.reachable = h.reachable := by
  unfold build
  split
  · rfl
  · dsimp only
    split
    · rfl
    · split
      · rfl
      · split <;> exact reachable_nextScript _ _

/-! ## Questions -/

/-- A host that can be reached says whether an enclave exists, and the question is counted. -/
theorem lookUp_eq (hreachable : h.reachable = true) (enclave : String) :
    h.lookUp enclave = (.ok (h.servicesOf? enclave).isSome, h.record .lookUp enclave) :=
  if_pos hreachable

/-- A host that can be reached tells the services of an enclave. -/
theorem services_eq (hreachable : h.reachable = true)
    (hnames : h.servicesOf? enclave = some names) :
    h.services enclave = (.ok names, h.record .services enclave) := by
  have hrecorded : (h.record .services enclave).reachable = true := hreachable
  have hfound : (h.record .services enclave).servicesOf? enclave = some names := hnames
  simp [services, hrecorded, hfound]

/-! ## Changes -/

/-- An enclave that was filled has the services that it was filled with. -/
theorem servicesOf?_seed (h : EnclaveHost) (enclave : String) (names : List String) :
    (h.seed enclave names).servicesOf? enclave = some names := by
  rw [seed, servicesOf?, TextMap.get?_insert, if_pos rfl]

/-- An enclave that does not exist is created without services. -/
theorem create_eq (hreachable : h.reachable = true) (habsent : h.servicesOf? enclave = none) :
    h.create enclave = (.ok (), (h.record .create enclave).seed enclave []) := by
  have hrecorded : (h.record .create enclave).reachable = true := hreachable
  have hnone : (h.record .create enclave).enclaves.contains enclave = false :=
    Option.isSome_eq_false_iff.2 (Option.isNone_iff_eq_none.2 habsent)
  simp [create, hrecorded, hnone]

/-- An enclave is not created, or it did not exist and now has no services. -/
theorem create_cases (h : EnclaveHost) (enclave : String) :
    (∃ failure, h.create enclave = (.error failure, h.record .create enclave)) ∨
      (h.servicesOf? enclave = none ∧
        h.create enclave = (.ok (), (h.record .create enclave).seed enclave [])) := by
  cases hreachable : h.reachable with
  | false =>
    have hrecorded : (h.record .create enclave).reachable = false := hreachable
    exact .inl ⟨unreachable, by simp [create, hrecorded]⟩
  | true =>
    cases hfound : h.servicesOf? enclave with
    | none => exact .inr ⟨rfl, create_eq hreachable hfound⟩
    | some names =>
      have hrecorded : (h.record .create enclave).reachable = true := hreachable
      have hsome : (h.record .create enclave).enclaves.contains enclave = true :=
        Option.isSome_iff_exists.2 ⟨names, hfound⟩
      exact .inl ⟨taken enclave, by simp [create, hrecorded, hsome]⟩

/-- A host that was asked to destroy an enclave and has done so. -/
def withoutEnclave (h : EnclaveHost) (enclave : String) : EnclaveHost :=
  { h.record .destroy enclave with enclaves := h.enclaves.erase enclave }

/-- An enclave that exists is torn down with all its services. -/
theorem destroy_found (hreachable : h.reachable = true)
    (hnames : h.servicesOf? enclave = some names) :
    h.destroy enclave = (.ok names, h.withoutEnclave enclave) := by
  have hrecorded : (h.record .destroy enclave).reachable = true := hreachable
  have hfound : (h.record .destroy enclave).servicesOf? enclave = some names := hnames
  unfold destroy
  dsimp only
  rw [if_neg (by simp [hrecorded]), hfound]
  rfl

/-- An enclave that exists is destroyed. -/
theorem destroy_eq (hreachable : h.reachable = true)
    (hnames : h.servicesOf? enclave = some names) :
    ∃ h', h.destroy enclave = (.ok names, h') ∧ h'.servicesOf? enclave = none ∧
      h'.reachable = true ∧ h'.scriptedBuilds = h.scriptedBuilds := by
  refine ⟨_, destroy_found hreachable hnames, ?_, hreachable, rfl⟩
  change (h.enclaves.erase enclave).get? enclave = none
  rw [TextMap.get?_erase, if_pos rfl]

/-- An enclave is not destroyed, or it existed and is gone. -/
theorem destroy_cases (h : EnclaveHost) (enclave : String) :
    (∃ failure, h.destroy enclave = (.error failure, h.record .destroy enclave)) ∨
      ∃ names, h.servicesOf? enclave = some names ∧
        h.destroy enclave = (.ok names, h.withoutEnclave enclave) := by
  cases hreachable : h.reachable with
  | false =>
    have hrecorded : (h.record .destroy enclave).reachable = false := hreachable
    exact .inl ⟨unreachable, by simp [destroy, hrecorded]⟩
  | true =>
    cases hfound : h.servicesOf? enclave with
    | none =>
      have hrecorded : (h.record .destroy enclave).reachable = true := hreachable
      have hnone : (h.record .destroy enclave).servicesOf? enclave = none := hfound
      exact .inl ⟨missing enclave, by simp [destroy, hrecorded, hnone]⟩
    | some names => exact .inr ⟨names, rfl, destroy_found hreachable hfound⟩

/-! ## Builds -/

/-- The next build of a host succeeds: its script does, or there is none. -/
def BuildsNext (h : EnclaveHost) : Prop :=
  ∀ events ∈ h.scriptedBuilds.head?, buildSucceeds events = true

/-- Whether the next build succeeds depends on the scripted builds alone. -/
theorem BuildsNext.of_scripts_eq (hh : h.BuildsNext)
    (hscripts : h'.scriptedBuilds = h.scriptedBuilds) : h'.BuildsNext := by
  rw [BuildsNext, hscripts]
  exact hh

theorem buildSucceeds_successfulBuild (nodes : Nat) :
    buildSucceeds (successfulBuild nodes) = true := rfl

/-- If the next build succeeds, the events that are given for it are those of a success. -/
theorem BuildsNext.nextScript (hh : h.BuildsNext) (nodes : Nat) :
    buildSucceeds (h.nextScript nodes).1 = true := by
  unfold EnclaveHost.nextScript
  split
  · next events rest hscript => exact hh events (by rw [hscript]; rfl)
  · exact buildSucceeds_successfulBuild nodes

/-- What a build with some events did. -/
def buildOf (t : Topology) (events : List BuildEvent) : HostBuild :=
  ⟨events, if buildSucceeds events then some t else none⟩

/-- A host after a build with some events: only if it succeeds the enclave has other services. -/
def afterBuild (h : EnclaveHost) (enclave : String) (network : NetworkConfig) (t : Topology)
    (events : List BuildEvent) : EnclaveHost :=
  if buildSucceeds events then h.seed enclave (allServices t network) else h

/-- The events of the next build of a network with some nodes. -/
def nextEvents (h : EnclaveHost) (nodes : Nat) : List BuildEvent :=
  h.scriptedBuilds.headD (successfulBuild nodes)

/-- A host that was asked for a build and has taken the script for it. -/
def askedToBuild (h : EnclaveHost) (enclave : String) : EnclaveHost :=
  { h.record .build enclave with scriptedBuilds := h.scriptedBuilds.tail }

/-- The events of a build are the next script, which is used up, or those of a success. -/
theorem nextScript_eq (h : EnclaveHost) (nodes : Nat) :
    h.nextScript nodes =
      (h.nextEvents nodes, { h with scriptedBuilds := h.scriptedBuilds.tail }) := by
  obtain ⟨enclaves, scripts, calls, reachable, defaults⟩ := h
  cases scripts <;> rfl

/-- What a build in an enclave that exists does. -/
theorem build_events (hreachable : h.reachable = true) (hnames : h.servicesOf? enclave = some names)
    (ht : Topology.ofNetwork h.defaults network = .ok t) :
    h.build enclave network = (.ok (buildOf t (h.nextEvents t.size)),
      (h.askedToBuild enclave).afterBuild enclave network t (h.nextEvents t.size)) := by
  have hrecorded : (h.record .build enclave).reachable = true := hreachable
  have hexists : (h.record .build enclave).enclaves.contains enclave = true :=
    Option.isSome_iff_exists.2 ⟨names, hnames⟩
  have hscript : (h.record .build enclave).nextScript t.size =
      (h.nextEvents t.size, h.askedToBuild enclave) := nextScript_eq _ _
  rw [build, ht]
  simp only [hrecorded, hexists, hscript, buildOf, afterBuild]
  by_cases hsucceeds : buildSucceeds (h.nextEvents t.size) = true <;> simp [hsucceeds]

/-- A build is refused unless the host can be reached and has the enclave. -/
theorem build_cases (ht : Topology.ofNetwork h.defaults network = .ok t) (enclave : String) :
    (∃ failure, h.build enclave network = (.error failure, h.record .build enclave)) ∨
      (h.reachable = true ∧ ∃ names, h.servicesOf? enclave = some names) := by
  cases hreachable : h.reachable with
  | false =>
    have hrecorded : (h.record .build enclave).reachable = false := hreachable
    exact .inl ⟨unreachable, by simp [build, ht, hrecorded]⟩
  | true =>
    cases hfound : h.servicesOf? enclave with
    | none =>
      have hrecorded : (h.record .build enclave).reachable = true := hreachable
      have hnone : (h.record .build enclave).enclaves.contains enclave = false :=
        Option.isSome_eq_false_iff.2 (Option.isNone_iff_eq_none.2 hfound)
      exact .inl ⟨missing enclave, by simp [build, ht, hrecorded, hnone]⟩
    | some names => exact .inr ⟨rfl, names, rfl⟩

/-- What a build in an enclave that exists comes to. -/
theorem build_eq (hreachable : h.reachable = true) (hnames : h.servicesOf? enclave = some names)
    (ht : Topology.ofNetwork h.defaults network = .ok t) :
    ∃ h', h.build enclave network =
      (.ok ⟨(h.nextScript t.size).1,
        if buildSucceeds (h.nextScript t.size).1 then some t else none⟩, h') := by
  rw [nextScript_eq, build_events hreachable hnames ht]
  exact ⟨_, rfl⟩

/-- What a build has done that did not fail: if it succeeds, the enclave has the services of the
network. -/
theorem build_ok {b : HostBuild} (hbuild : h.build enclave network = (.ok b, h')) :
    ∃ t, Topology.ofNetwork h.defaults network = .ok t ∧ (buildSucceeds b.events = true →
      h'.servicesOf? enclave = some (allServices t network)) := by
  unfold build at hbuild
  split at hbuild
  · cases hbuild
  · next t ht =>
    refine ⟨t, ht, ?_⟩
    dsimp only at hbuild
    split at hbuild
    · cases hbuild
    · split at hbuild
      · cases hbuild
      · split at hbuild
        · cases hbuild
          intro _
          exact servicesOf?_seed _ _ _
        · next hfails =>
          cases hbuild
          intro hsucceeds
          exact absurd hsucceeds hfails

/-! ## Fresh hosts -/

/-- A host that can be reached, has no script for a build, and has no enclave of a name. -/
structure Fresh (enclave : String) (h : EnclaveHost) : Prop where
  reachable : h.reachable = true
  scriptedBuilds : h.scriptedBuilds = []
  absent : h.enclaves.contains enclave = false

/-- In an empty host every enclave is fresh. -/
theorem fresh_empty (d : ClientDefaults) (enclave : String) : (empty d).Fresh enclave :=
  ⟨rfl, rfl, rfl⟩

/-- A fresh enclave does not exist yet. -/
theorem Fresh.servicesOf?_eq (hh : h.Fresh enclave) : h.servicesOf? enclave = none := by
  have hnone : (h.servicesOf? enclave).isSome = false := hh.absent
  simpa using hnone

/-- A question about a fresh enclave says that there is none. -/
theorem Fresh.lookUp_eq (hh : h.Fresh enclave) :
    h.lookUp enclave = (.ok false, h.record .lookUp enclave) := by
  rw [EnclaveHost.lookUp_eq hh.reachable, hh.servicesOf?_eq]
  rfl

/-- To be asked about an enclave changes nothing. -/
theorem Fresh.record (hh : h.Fresh enclave) (kind : HostCallKind) :
    (h.record kind enclave).Fresh enclave :=
  ⟨hh.reachable, hh.scriptedBuilds, hh.absent⟩

/-- A fresh enclave can be created, and is empty then. -/
theorem Fresh.create_eq (hh : h.Fresh enclave) :
    h.create enclave = (.ok (), (h.record .create enclave).seed enclave []) :=
  EnclaveHost.create_eq hh.reachable hh.servicesOf?_eq

/-- A network is built in an enclave that was just created. -/
theorem Fresh.build_eq (hh : h.Fresh enclave)
    (ht : Topology.ofNetwork h.defaults network = .ok t) :
    ∃ h', (h.seed enclave []).build enclave network =
      (.ok ⟨successfulBuild t.size, some t⟩, h') := by
  have hscript : ((h.seed enclave []).nextScript t.size).1 = successfulBuild t.size := by
    have hnone : (h.seed enclave []).scriptedBuilds = [] := hh.scriptedBuilds
    rw [nextScript, hnone]
  have hbuild := EnclaveHost.build_eq (h := h.seed enclave []) hh.reachable
    (servicesOf?_seed h enclave []) ht
  rw [hscript] at hbuild
  exact hbuild

end EnclaveHost
end DevnetChaos
