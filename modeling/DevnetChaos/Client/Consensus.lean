import DevnetChaos.Client.Defaults
import DevnetChaos.Client.Labels

/-!
# Consensus clients

A beacon node and the validator that may run beside it.  A declared client says with a flag
whether it has such a sidecar, and may describe the sidecar; the two must not contradict each
other.

Main definitions:

- `ValidatorClient`, `ConsensusClient`: the declared clients, with open fields.
- `ConsensusClient.validatorKind?`: the type of the sidecar, which is that of the owner unless it
  says otherwise.
- `ConsensusClient.attemptBackfill`: the client as far as its fields could be filled, together
  with the failure that stopped it.
- `ConsensusClient.backfill`: the filled client, or that failure.
-/

namespace DevnetChaos

/-- A declared validator sidecar. -/
structure ValidatorClient where
  /-- The type of the owning consensus client where it is not given. -/
  kind : Option ConsensusKind
  image : Option String
  cpu : Option UInt32
  memory : Option UInt32
  labels : Labels
  deriving DecidableEq, Repr

namespace ValidatorClient

/-- A sidecar of the given type with every other field open. -/
def ofKind (kind : Option ConsensusKind) : ValidatorClient := ⟨kind, none, none, none, .empty⟩

/-- Fills every open field, the type from the owner. -/
def backfill (d : ClientDefaults) (owner : ConsensusKind) (v : ValidatorClient) :
    ValidatorClient where
  kind := some (v.kind.getD owner)
  image := some (v.image.getD (d.validatorImage (v.kind.getD owner)))
  cpu := some (v.cpu.getD (d.resources .validator).cpuMillicores)
  memory := some (v.memory.getD (d.resources .validator).memoryMegabytes)
  labels := v.labels.withDefaults .validator (v.kind.getD owner).name

end ValidatorClient

/-- A declared consensus client.  It keeps the sidecar rule when `validator` is set exactly if
`hasSidecar` is true. -/
structure ConsensusClient where
  kind : ConsensusKind
  image : Option String
  hasSidecar : Bool
  validator : Option ValidatorClient
  cpu : Option UInt32
  memory : Option UInt32
  labels : Labels
  deriving DecidableEq, Repr

namespace ConsensusClient

/-- A client of the given kind without a sidecar and with every other field open. -/
def ofKind (kind : ConsensusKind) : ConsensusClient :=
  ⟨kind, none, false, none, none, none, .empty⟩

/-- Declares a sidecar; without a type of its own it takes that of this client. -/
def withSidecar (c : ConsensusClient) (kind : Option ConsensusKind) : ConsensusClient :=
  { c with hasSidecar := true, validator := some (.ofKind kind) }

/-- The type of the sidecar, if there is one. -/
def validatorKind? (c : ConsensusClient) : Option ConsensusKind :=
  c.validator.map fun v => v.kind.getD c.kind

/-- Fills the open fields of the beacon node and leaves the sidecar alone. -/
def backfillBeacon (d : ClientDefaults) (c : ConsensusClient) : ConsensusClient :=
  { c with
    image := some (c.image.getD (d.beaconImage c.kind))
    cpu := some (c.cpu.getD (d.resources .consensus).cpuMillicores)
    memory := some (c.memory.getD (d.resources .consensus).memoryMegabytes)
    labels := c.labels.withDefaults .consensus c.kind.name }

/-- The failure of a client that describes a sidecar it says it does not have. -/
def sidecarFailure (c : ConsensusClient) : Failure :=
  .sidecar c.kind.name "has_validator_sidecar is false but a validator client is set"

/-- Fills the beacon node, then checks the sidecar rule, then fills the sidecar.  A failure leaves
the flag and the sidecar as they were. -/
def attemptBackfill (d : ClientDefaults) (c : ConsensusClient) : ConsensusClient × Option Failure :=
  let filled := c.backfillBeacon d
  if c.hasSidecar then
    let sidecar := c.validator.getD (.ofKind none)
    ({ filled with validator := some (sidecar.backfill d c.kind) }, none)
  else if c.validator.isSome then (filled, some c.sidecarFailure)
  else (filled, none)

/-- Fills every open field of the client and of its sidecar. -/
def backfill (d : ClientDefaults) (c : ConsensusClient) : Except Failure ConsensusClient :=
  match c.attemptBackfill d with
  | (_, some failure) => .error failure
  | (filled, none) => .ok filled

end ConsensusClient
end DevnetChaos
