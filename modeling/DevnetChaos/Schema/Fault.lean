import DevnetChaos.Fault.Manifest
import DevnetChaos.Schema.Client
import DevnetChaos.Target

/-!
# Documents of faults and targets

How selectors, targets and faults are written and read.  A fault names its kind in the entry
`kind` beside its parameters.
-/

namespace DevnetChaos

/-- The entry for a duration. -/
def durationEntry (key : String) (value : Option Duration) : List (String × Tree) :=
  Tree.optional key Fault.durationTree value

namespace Requirement

/-- Reads one requirement. -/
def decode : Decoder Requirement := .record ⟨"", .isIn, []⟩ [
  .required "key" .text fun r key => { r with key },
  .required "operator" (.word SelectorOperator.all SelectorOperator.name)
    fun r operator => { r with operator },
  .withDefault "values" (.list .text) fun r values => { r with values }]

end Requirement

/-- A list of requirements. -/
def requirementsTree (requirements : List Requirement) : Tree :=
  .list (requirements.map Requirement.toTree)

/-- Reads a list of requirements. -/
def decodeRequirements : Decoder (List Requirement) := Decoder.list Requirement.decode

namespace TargetSelector

/-- A description with its requirements. -/
def toTree (s : TargetSelector) : Tree :=
  .map [("description", .text s.description), ("selector", requirementsTree s.requirements)]

/-- Reads a description with its requirements. -/
def decode : Decoder TargetSelector := .record ⟨"", []⟩ [
  .required "description" .text fun s description => { s with description },
  .required "selector" decodeRequirements fun s requirements => { s with requirements }]

end TargetSelector

namespace TargetScope

/-- A scope; that of a client carries its name. -/
def toTree : TargetScope → Tree
  | wholeNode => .text "WholeNode"
  | client kind => .map [("Client", .text kind.name)]

/-- Reads a scope. -/
def decode : Decoder TargetScope := .variant [
  ("WholeNode", .alone .wholeNode),
  ("Client", .carrying fun p => do return .client (← ClientKind.decode p))]

end TargetScope

namespace TargetDescription

/-- A target; what it is comes first and its value second. -/
def toTree : TargetDescription → Tree
  | role r => .map [("Role", .text r.name)]
  | clientKind kind => .map [("ClientType", .text kind.name)]
  | nodes indices scope =>
      .map [("Nodes", .map [("indices", .list (indices.map .nat)), ("scope", scope.toTree)])]

/-- Reads the nodes of a target. -/
def decodeNodes : Decoder (List Nat × TargetScope) := .record ([], .wholeNode) [
  .required "indices" (.list .index) fun r indices => (indices, r.2),
  .required "scope" TargetScope.decode fun r scope => (r.1, scope)]

/-- Reads a target. -/
def decode : Decoder TargetDescription := .variant [
  ("Role", .carrying fun p => do return .role (← Role.decode p)),
  ("ClientType", .carrying fun p => do return .clientKind (← ClientKind.decode p)),
  ("Nodes", .carrying fun p => do
    let (indices, scope) ← Decoder.carriedRecord decodeNodes p
    return .nodes indices scope)]

end TargetDescription

namespace Fault

/-- The word that names the kind in a document. -/
def tag : Fault → String
  | clockSkew .. => "clockSkew"
  | podRestart .. => "podRestart"
  | ioLatency .. => "ioLatency"
  | networkLatency .. => "networkLatency"
  | packetDrop .. => "packetDrop"

/-- The parameters of a fault. -/
def parameterEntries : Fault → List (String × Tree)
  | clockSkew _ skew duration => [("skew", .text skew), ("duration", durationTree duration)]
  | podRestart _ => []
  | ioLatency _ volumePath delay percent duration =>
      [("volume_path", .text volumePath), ("delay", durationTree delay),
       ("percent", .nat percent.toNat), ("duration", durationTree duration)]
  | networkLatency _ delay jitter correlation duration =>
      [("delay", durationTree delay), ("jitter", durationTree jitter),
       ("correlation", .nat correlation.toNat), ("duration", durationTree duration)]
  | packetDrop _ percent direction duration =>
      [("percent", .nat percent.toNat), ("direction", .text direction.name),
       ("duration", durationTree duration)]

/-- A fault. -/
def toTree (fault : Fault) : Tree :=
  .map ([("kind", .text fault.tag), ("selector", requirementsTree fault.selector)]
    ++ fault.parameterEntries)

/-- What faults say, each kind some of it. -/
structure Draft where
  selector : List Requirement
  skew : String
  volumePath : String
  delay : Duration
  jitter : Duration
  percent : UInt8
  correlation : UInt8
  direction : PacketDirection
  duration : Duration

namespace Draft

/-- A draft in which nothing is said yet. -/
def blank : Draft := ⟨[], "", "", .zero, .zero, 0, 0, .both, .zero⟩

/-- The field of the pods that are hit. -/
def selectorField : Field Draft :=
  .required "selector" decodeRequirements fun d selector => { d with selector }

/-- The field of the time during which a fault lasts. -/
def durationField : Field Draft :=
  .required "duration" .duration fun d duration => { d with duration }

/-- The field of a delay. -/
def delayField : Field Draft := .required "delay" .duration fun d delay => { d with delay }

/-- The field of a share. -/
def percentField : Field Draft := .required "percent" .byte fun d percent => { d with percent }

/-- Reads a fault of one kind. -/
def decode (fields : List (Field Draft)) (fault : Draft → Fault) : Decoder Fault := fun p => do
  return fault (← Decoder.record blank fields p)

end Draft

open Draft in
/-- Reads a fault. -/
def decode : Decoder Fault := .tagged "kind" [
  ("clockSkew", Draft.decode
    [selectorField, .required "skew" .text fun d skew => { d with skew }, durationField]
    fun d => clockSkew d.selector d.skew d.duration),
  ("podRestart", Draft.decode [selectorField] fun d => podRestart d.selector),
  ("ioLatency", Draft.decode
    [selectorField, .required "volume_path" .text fun d volumePath => { d with volumePath },
      delayField, percentField, durationField]
    fun d => ioLatency d.selector d.volumePath d.delay d.percent d.duration),
  ("networkLatency", Draft.decode
    [selectorField, delayField, .required "jitter" .duration fun d jitter => { d with jitter },
      .required "correlation" .byte fun d correlation => { d with correlation }, durationField]
    fun d => networkLatency d.selector d.delay d.jitter d.correlation d.duration),
  ("packetDrop", Draft.decode
    [selectorField, percentField,
      .required "direction" (.word PacketDirection.all PacketDirection.name)
        fun d direction => { d with direction },
      durationField]
    fun d => packetDrop d.selector d.percent d.direction d.duration)]

end Fault
end DevnetChaos
