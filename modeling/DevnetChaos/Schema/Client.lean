import DevnetChaos.Client.Consensus
import DevnetChaos.Client.Execution
import DevnetChaos.Document.Alternative

/-!
# Documents of clients

How client kinds and declared clients are written and read.  An open field and an empty set of
labels are left out.
-/

namespace DevnetChaos

/-- Labels as a map of texts. -/
def Labels.toTree (labels : Labels) : Tree :=
  .map (labels.entries.map fun e => (e.1, .text e.2))

/-- Reads labels. -/
def Labels.decode : Decoder Labels := Decoder.textMap Decoder.text

/-- The entry for labels, left out when there are none. -/
def Labels.entry (key : String) (labels : Labels) : List (String × Tree) :=
  Tree.entryUnless labels.isEmpty key labels.toTree

/-- The entry for a number of 32 bits. -/
def word32Entry (key : String) (value : Option UInt32) : List (String × Tree) :=
  Tree.optional key (fun n => .nat n.toNat) value

/-- The entry for a text. -/
def textEntry (key : String) (value : Option String) : List (String × Tree) :=
  Tree.optional key .text value

namespace ExecutionKind

/-- The name of the implementation. -/
def toTree (k : ExecutionKind) : Tree := .text k.name

/-- Reads the name of an implementation. -/
def decode : Decoder ExecutionKind := .word all name

end ExecutionKind

namespace ConsensusKind

/-- The name of the implementation. -/
def toTree (k : ConsensusKind) : Tree := .text k.name

/-- Reads the name of an implementation. -/
def decode : Decoder ConsensusKind := .word all name

end ConsensusKind

namespace ClientKind

/-- The name of the implementation. -/
def toTree (k : ClientKind) : Tree := .text k.name

/-- Reads the name of an implementation of either side. -/
def decode : Decoder ClientKind := fun p => do
  match ← Decoder.sided (Decoder.vocabulary ExecutionKind.all ExecutionKind.name)
      (Decoder.vocabulary ConsensusKind.all ConsensusKind.name) p with
  | .inl kind => return .execution kind
  | .inr kind => return .consensus kind

end ClientKind

namespace Role

/-- The name of the role. -/
def toTree (r : Role) : Tree := .text r.name

/-- Reads the name of a role. -/
def decode : Decoder Role := .word all name

end Role

namespace ExecutionClient

/-- A declared execution client. -/
def toTree (c : ExecutionClient) : Tree :=
  .map ([("type", c.kind.toTree)] ++ textEntry "image" c.image
    ++ word32Entry "cpu_required" c.cpu ++ word32Entry "memory_required" c.memory
    ++ c.labels.entry "extra_labels")

/-- Reads a declared execution client. -/
def decode : Decoder ExecutionClient := .record (.ofKind .geth) [
  .required "type" ExecutionKind.decode fun c kind => { c with kind },
  .optional "image" .text fun c image => { c with image },
  .optional "cpu_required" .word32 fun c cpu => { c with cpu },
  .optional "memory_required" .word32 fun c memory => { c with memory },
  .withDefault "extra_labels" Labels.decode fun c labels => { c with labels }]

end ExecutionClient

namespace ValidatorClient

/-- A declared sidecar. -/
def toTree (c : ValidatorClient) : Tree :=
  .map (Tree.optional "type" ConsensusKind.toTree c.kind ++ textEntry "image" c.image
    ++ word32Entry "cpu_required" c.cpu ++ word32Entry "memory_required" c.memory
    ++ c.labels.entry "extra_labels")

/-- Reads a declared sidecar. -/
def decode : Decoder ValidatorClient := .record (.ofKind none) [
  .optional "type" ConsensusKind.decode fun c kind => { c with kind },
  .optional "image" .text fun c image => { c with image },
  .optional "cpu_required" .word32 fun c cpu => { c with cpu },
  .optional "memory_required" .word32 fun c memory => { c with memory },
  .withDefault "extra_labels" Labels.decode fun c labels => { c with labels }]

end ValidatorClient

namespace ConsensusClient

/-- A declared consensus client. -/
def toTree (c : ConsensusClient) : Tree :=
  .map ([("type", c.kind.toTree)] ++ textEntry "image" c.image
    ++ [("has_validator_sidecar", .bool c.hasSidecar)]
    ++ Tree.optional "validator" ValidatorClient.toTree c.validator
    ++ word32Entry "cpu_required" c.cpu ++ word32Entry "memory_required" c.memory
    ++ c.labels.entry "extra_labels")

/-- Reads a declared consensus client. -/
def decode : Decoder ConsensusClient := .record (.ofKind .teku) [
  .required "type" ConsensusKind.decode fun c kind => { c with kind },
  .optional "image" .text fun c image => { c with image },
  .withDefault "has_validator_sidecar" .bool fun c hasSidecar => { c with hasSidecar },
  .optional "validator" ValidatorClient.decode fun c validator => { c with validator },
  .optional "cpu_required" .word32 fun c cpu => { c with cpu },
  .optional "memory_required" .word32 fun c memory => { c with memory },
  .withDefault "extra_labels" Labels.decode fun c labels => { c with labels }]

end ConsensusClient
end DevnetChaos
