import DevnetChaos.Client.Labels

/-!
# Label selectors

The vocabulary in which the fault platform is told which pods to hit: a list of requirements on
labels, all of which a pod has to satisfy.

Main definitions:

- `Requirement`: one requirement on one label.
- `TargetSelector`: a description with its requirements.
- `ensureServiceIds`: the check for faults that need to know their pods by name.
-/

namespace DevnetChaos

/-- How a requirement looks at a label. -/
inductive SelectorOperator where
  | isIn
  | notIn
  | present
  | absent
  deriving DecidableEq, Repr

namespace SelectorOperator

/-- Every operator. -/
def all : List SelectorOperator := [isIn, notIn, present, absent]

/-- The word of the fault platform. -/
def name : SelectorOperator → String
  | isIn => "In"
  | notIn => "NotIn"
  | present => "Exists"
  | absent => "DoesNotExist"

/-- The operator of a word. -/
def ofName? (s : String) : Option SelectorOperator := all.find? fun o => o.name == s

theorem ofName?_name (o : SelectorOperator) : ofName? o.name = some o := by
  cases o <;> rfl

end SelectorOperator

/-- One requirement on one label. -/
structure Requirement where
  key : String
  operator : SelectorOperator
  values : List String
  deriving DecidableEq, Repr

namespace Requirement

/-- The only requirement that names pods one by one: their service id is in a list. -/
def serviceIds (ids : List String) : Requirement := ⟨serviceIdLabel, .isIn, ids⟩

/-- Whether a requirement names pods one by one. -/
def namesPods (r : Requirement) : Bool := r.key == serviceIdLabel && r.operator == .isIn

/-- Whether labels satisfy a requirement.  A missing label is not in any list. -/
def accepts (r : Requirement) (labels : Labels) : Bool :=
  match r.operator, labels.get? r.key with
  | .isIn, some v => r.values.contains v
  | .isIn, none => false
  | .notIn, some v => !r.values.contains v
  | .notIn, none => true
  | .present, v => v.isSome
  | .absent, v => v.isNone

end Requirement

/-- Whether labels satisfy every requirement of a list that is not empty. -/
def acceptsAll (requirements : List Requirement) (labels : Labels) : Bool :=
  !requirements.isEmpty && requirements.all fun r => r.accepts labels

/-- A description for people with the requirements for the platform. -/
structure TargetSelector where
  description : String
  requirements : List Requirement
  deriving DecidableEq, Repr

/-- Whether a pod with these labels is selected. -/
def TargetSelector.accepts (t : TargetSelector) (labels : Labels) : Bool :=
  acceptsAll t.requirements labels

/-- The first requirement that does not name pods one by one, as a flaw of the given fault. -/
def foreignRequirement? (fault : String) (requirements : List Requirement) : Option SelectorFlaw :=
  requirements.findSome? fun r =>
    if r.key != serviceIdLabel then some (.foreignKey fault r.key)
    else if r.operator != .isIn then some (.foreignOperator fault r.operator.name)
    else none

/-- Checks that requirements name pods one by one.  A fault that needs a path inside each pod can
only hit pods that are known when the plan is made. -/
def ensureServiceIds (fault : String) (requirements : List Requirement) : Except Failure Unit :=
  if requirements.isEmpty then .error (.unsupportedSelector (.missing fault))
  else
    match foreignRequirement? fault requirements with
    | some flaw => .error (.unsupportedSelector flaw)
    | none => .ok ()

end DevnetChaos
