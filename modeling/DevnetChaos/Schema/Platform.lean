import DevnetChaos.Platform
import DevnetChaos.Schema.Client

/-!
# Documents of pods

How phases and pods are written and read.
-/

namespace DevnetChaos

/-- Reads a phase. -/
def PodPhase.decode : Decoder PodPhase := .word PodPhase.all PodPhase.name

/-- A pod. -/
def PodInfo.toTree (p : PodInfo) : Tree :=
  .map [("name", .text p.name), ("labels", p.labels.toTree), ("phase", .text p.phase.name)]

end DevnetChaos
