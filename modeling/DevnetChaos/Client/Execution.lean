import DevnetChaos.Client.Defaults
import DevnetChaos.Client.Labels

/-!
# Execution clients

An execution client as a document declares it, with open fields, and the filling of these fields.
-/

namespace DevnetChaos

/-- A declared execution client; a field without a value is filled from the defaults. -/
structure ExecutionClient where
  kind : ExecutionKind
  image : Option String
  cpu : Option UInt32
  memory : Option UInt32
  labels : Labels
  deriving DecidableEq, Repr

namespace ExecutionClient

/-- A client of the given kind with every other field open. -/
def ofKind (kind : ExecutionKind) : ExecutionClient := ⟨kind, none, none, none, .empty⟩

/-- Fills every open field and adds the default labels. -/
def backfill (d : ClientDefaults) (c : ExecutionClient) : ExecutionClient where
  kind := c.kind
  image := some (c.image.getD (d.executionImage c.kind))
  cpu := some (c.cpu.getD (d.resources .execution).cpuMillicores)
  memory := some (c.memory.getD (d.resources .execution).memoryMegabytes)
  labels := c.labels.withDefaults .execution c.kind.name

end ExecutionClient
end DevnetChaos
