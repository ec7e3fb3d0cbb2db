import DevnetChaos.Document.Tree
import DevnetChaos.Fault

/-!
# Fault manifests

The custom resources by which the fault platform is told what to do.  Five kinds of faults share
four kinds of resources; numbers and durations become text.
-/

namespace DevnetChaos

/-- The API group of the resources. -/
def faultApiVersion : String := "chaos-mesh.org/v1alpha1"

/-- One requirement in the shape of the platform; an empty list of values is left out. -/
def Requirement.toTree (r : Requirement) : Tree :=
  .map ([("key", .text r.key), ("operator", .text r.operator.name)]
    ++ Tree.entryUnless r.values.isEmpty "values" (.texts r.values))

namespace Fault

/-- The kind of resource that expresses a fault. -/
def resourceKind : Fault → String
  | clockSkew .. => "TimeChaos"
  | podRestart .. => "PodChaos"
  | ioLatency .. => "IOChaos"
  | networkLatency .. | packetDrop .. => "NetworkChaos"

/-- A duration as text. -/
def durationTree (d : Duration) : Tree := .text d.format

/-- The entries of a resource that depend on the kind of fault. -/
def resourceEntries : Fault → List (String × Tree)
  | clockSkew _ skew duration =>
      [("timeOffset", .text skew), ("duration", durationTree duration)]
  | podRestart _ => [("action", .text "pod-kill")]
  | ioLatency _ volumePath delay percent duration =>
      [("action", .text "latency"), ("volumePath", .text volumePath),
       ("path", .text (volumePath ++ "/**/*")), ("delay", durationTree delay),
       ("percent", .nat percent.toNat), ("duration", durationTree duration)]
  | networkLatency _ delay jitter correlation duration =>
      [("action", .text "delay"),
       ("delay", .map [("latency", durationTree delay), ("jitter", durationTree jitter),
         ("correlation", .text (toString correlation.toNat))]),
       ("duration", durationTree duration)]
  | packetDrop _ percent direction duration =>
      [("action", .text "loss"), ("direction", .text direction.name),
       ("loss", .map [("loss", .text (toString percent.toNat))]),
       ("duration", durationTree duration)]

/-- The resource of a fault. -/
def manifest (fault : Fault) (ns : String) (name : String) : Tree :=
  let selector := Tree.map
    [("namespaces", .texts [ns]),
     ("expressionSelectors", .list (fault.selector.map Requirement.toTree))]
  .map
    [("apiVersion", .text faultApiVersion),
     ("kind", .text fault.resourceKind),
     ("metadata", .map [("name", .text name), ("namespace", .text ns)]),
     ("spec", .map ([("mode", .text "all"), ("selector", selector)] ++ fault.resourceEntries))]

end Fault
end DevnetChaos
