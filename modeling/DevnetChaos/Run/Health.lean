import DevnetChaos.Run.Call

/-!
# Health of pods

Which pods a test is about, and whether the pods that should live still do after its faults.

Main definitions:

- `podsUnderTest`: the pods that the selectors of faults name, with the ones that are meant to die
  marked.
- `runChecks`: a verdict on every pod under test that should have survived and on every bystander.
-/

namespace DevnetChaos

/-! ## Pods under test -/

/-- Marks a pod as meant to die if the fault that hits it kills. -/
def markDeath (name : String) (dies : Bool) (pods : List PodUnderTest) : List PodUnderTest :=
  pods.map fun p => if p.name == name then { p with expectDeath := p.expectDeath || dies } else p

/-- Adds pods by name to those found so far.  A pod that is found again is listed once, and is meant
to die if any of its faults kills; a pod that has gone away is left out. -/
def addPods (dies : Bool) : List PodUnderTest → List String → Run (List PodUnderTest)
  | found, [] => pure found
  | found, name :: rest => do
      if found.any fun p => p.name == name then addPods dies (markDeath name dies found) rest
      else
        match ← Run.pod? name with
        | none => addPods dies found rest
        | some pod => addPods dies (found ++ [⟨name, pod.labels, dies⟩]) rest

/-- Adds the pods that have one of the values at a label. -/
def addLabelled (dies : Bool) (key : String) :
    List PodUnderTest → List String → Run (List PodUnderTest)
  | found, [] => pure found
  | found, value :: rest => do
      let names ← Run.podsLabelled key value
      addLabelled dies key (← addPods dies found names) rest

/-- Adds the pods that requirements name.  Only a list of wanted values names pods; other
requirements are passed over. -/
def addRequired (dies : Bool) : List PodUnderTest → List Requirement → Run (List PodUnderTest)
  | found, [] => pure found
  | found, r :: rest => do
      if r.operator = .isIn then
        addRequired dies (← addLabelled dies r.key found r.values) rest
      else addRequired dies found rest

/-- Adds the pods that the selectors of faults name. -/
def addTargets : List PodUnderTest → List Fault → Run (List PodUnderTest)
  | found, [] => pure found
  | found, fault :: rest => do
      addTargets (← addRequired fault.expectsDeath found fault.selector) rest

/-- The pods that the selectors of faults name, in the order in which they are found. -/
def podsUnderTest (faults : List Fault) : Run (List PodUnderTest) := addTargets [] faults

/-! ## Verdicts -/

/-- The verdict on a pod from what the cluster says about it: only a running pod is healthy. -/
def PodVerdict.ofPod (name : String) (underTest : Bool) : Option PodInfo → PodVerdict
  | some pod =>
      if pod.phase = .running then ⟨name, true, some pod.phase.name, "pod is running", underTest⟩
      else ⟨name, false, some pod.phase.name, "pod is " ++ pod.phase.name, underTest⟩
  | none => ⟨name, false, none, "pod not found", underTest⟩

/-- Verdicts in the order in which they were given, of which no two are about one pod. -/
abbrev Verdicts := List PodVerdict

/-- Whether there is a verdict on a pod. -/
def Verdicts.covers (verdicts : Verdicts) (name : String) : Bool :=
  verdicts.any fun v => v.pod == name

/-- Looks at pods that have no verdict yet. -/
def checkPods (underTest : Bool) : Verdicts → List String → Run Verdicts
  | verdicts, [] => pure verdicts
  | verdicts, name :: rest => do
      if verdicts.covers name then checkPods underTest verdicts rest
      else
        let pod ← Run.pod? name
        checkPods underTest (verdicts ++ [.ofPod name underTest pod]) rest

/-- The names of the pods that should have survived. -/
def survivors (pods : List PodUnderTest) : List String :=
  (pods.filter fun p => !p.expectDeath).map (·.name)

/-- The pods under test whose service type is the given one. -/
def ofServiceType (serviceType : String) (pods : List PodUnderTest) : List PodUnderTest :=
  pods.filter fun p => p.labels.get? serviceTypeLabel == some serviceType

/-- Checks, for each service type, the pods under test that should have survived and then every
bystander. -/
def checkServiceTypes (pods : List PodUnderTest) : Verdicts → List String → Run Verdicts
  | verdicts, [] => pure verdicts
  | verdicts, serviceType :: rest => do
      let verdicts ← checkPods true verdicts (survivors (ofServiceType serviceType pods))
      let names ← Run.podsLabelled serviceTypeLabel serviceType
      let bystanders := names.filter fun name => !pods.any fun p => p.name == name
      let verdicts ← checkPods false verdicts bystanders
      checkServiceTypes pods verdicts rest

/-- The service types that are checked, in order. -/
def healthDimensions : List String := Role.all.map Role.serviceType

/-- A verdict on every pod under test that should have survived and on every bystander with one of
the service types.  Pods under test of other types come last. -/
def runChecks (pods : List PodUnderTest) : Run (List PodVerdict) := do
  let verdicts ← checkServiceTypes pods [] healthDimensions
  checkPods true verdicts (survivors pods)

end DevnetChaos
