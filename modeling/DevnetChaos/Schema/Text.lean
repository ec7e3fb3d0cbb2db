import DevnetChaos.Document.Source
import DevnetChaos.Document.Yaml.Writer
import DevnetChaos.Schema.Planner
import DevnetChaos.Schema.Suite

/-!
# Documents as text

The YAML texts of planner documents, network parameters and experiments.

Main definitions:

- `PlannerConfig.ofYaml`, `Experiment.ofYaml`: reading; an experiment is also checked.
- `NetworkConfig.toYaml`, `Experiment.toYaml`: writing.
-/

namespace DevnetChaos

/-- Reads a planner document. -/
def PlannerConfig.ofYaml (s : String) : Input PlannerConfig := PlannerConfig.decode.ofYaml s

/-- The text of network parameters. -/
def NetworkConfig.toYaml (n : NetworkConfig) : String := Yaml.render n.toTree

/-- The text of an experiment. -/
def Experiment.toYaml (e : Experiment) : String := Yaml.render e.toTree

/-- Reads an experiment and checks its faults. -/
def Experiment.ofYaml (s : String) : Input Experiment := do
  let e ← Experiment.decode.ofYaml s
  Input.ofExcept e.validate
  return e

end DevnetChaos
