import DevnetChaos.Client.Kind

/-!
# Client defaults

Container images, resource requests and data directories used where a document leaves them out.
Every implementation has an image, so a lookup cannot fail.

Main definitions:

- `ImageTable`: images by client, with one for every client.
- `ClientDefaults`: the values to fill in.
- `ClientDefaults.standard`: the public images and one core and one gigabyte for each container.
- `ClientDefaults.dataDirectory`: where a client keeps its chain data inside its container.
-/

namespace DevnetChaos

/-- Resource request of one container. -/
structure Resources where
  cpuMillicores : UInt32
  memoryMegabytes : UInt32
  deriving DecidableEq, Repr

/-- The request used where nothing else is said. -/
def Resources.standard : Resources := ⟨1000, 1024⟩

/-! ## Images -/

/-- Images by client, with at least one for every client; of several the first counts. -/
structure ImageTable (κ : Type) [DecidableEq κ] where
  entries : List (κ × String)
  complete : ∀ kind, (entries.lookup kind).isSome

namespace ImageTable

variable {κ : Type} [DecidableEq κ]

/-- The image of a client. -/
def image (t : ImageTable κ) (kind : κ) : String := (t.entries.lookup kind).get (t.complete kind)

/-- Changes the image of one client. -/
def set (t : ImageTable κ) (kind : κ) (image : String) : ImageTable κ where
  entries := (kind, image) :: t.entries
  complete := by
    intro k
    rw [List.lookup_cons]
    split
    · rfl
    · exact t.complete k

end ImageTable

/-! ## Defaults -/

/-- What is filled in where a client leaves a field out. -/
structure ClientDefaults where
  executionImages : ImageTable ExecutionKind
  beaconImages : ImageTable ConsensusKind
  validatorImages : ImageTable ConsensusKind
  resources : Role → Resources
  dataRoot : String

namespace ClientDefaults

/-- The public images, standard resources and the data root `/data`. -/
def standard : ClientDefaults where
  executionImages := {
    entries := [
      (.geth, "ethereum/client-go:latest"),
      (.erigon, "ethpandaops/erigon:devel"),
      (.nethermind, "nethermindeth/nethermind:master"),
      (.besu, "hyperledger/besu:latest"),
      (.reth, "ghcr.io/paradigmxyz/reth"),
      (.ethereumjs, "ethpandaops/ethereumjs:master"),
      (.nimbusEth1, "ethpandaops/nimbus-eth1:master")]
    complete := by intro kind; cases kind <;> rfl }
  beaconImages := {
    entries := [
      (.lighthouse, "sigp/lighthouse:latest"),
      (.teku, "consensys/teku:latest"),
      (.nimbus, "statusim/nimbus-eth2:multiarch-latest"),
      (.prysm, "gcr.io/prysmaticlabs/prysm/beacon-chain:latest"),
      (.lodestar, "chainsafe/lodestar:latest"),
      (.grandine, "ethpandaops/grandine:master")]
    complete := by intro kind; cases kind <;> rfl }
  validatorImages := {
    entries := [
      (.lighthouse, "sigp/lighthouse:latest"),
      (.teku, "consensys/teku:latest"),
      (.nimbus, "statusim/nimbus-validator-client:multiarch-latest"),
      (.prysm, "gcr.io/prysmaticlabs/prysm/validator:latest"),
      (.lodestar, "chainsafe/lodestar:latest"),
      (.grandine, "ethpandaops/grandine:master")]
    complete := by intro kind; cases kind <;> rfl }
  resources := fun _ => .standard
  dataRoot := "/data"

instance : Inhabited ClientDefaults := ⟨standard⟩

/-- The image of an execution client. -/
def executionImage (d : ClientDefaults) (kind : ExecutionKind) : String :=
  d.executionImages.image kind

/-- The image of a beacon node. -/
def beaconImage (d : ClientDefaults) (kind : ConsensusKind) : String := d.beaconImages.image kind

/-- The image of a validator. -/
def validatorImage (d : ClientDefaults) (kind : ConsensusKind) : String :=
  d.validatorImages.image kind

/-! ## Overrides -/

/-- Changes the image of one execution client. -/
def withExecutionImage (d : ClientDefaults) (kind : ExecutionKind) (image : String) :
    ClientDefaults :=
  { d with executionImages := d.executionImages.set kind image }

/-- Changes the beacon image of one consensus client. -/
def withBeaconImage (d : ClientDefaults) (kind : ConsensusKind) (image : String) :
    ClientDefaults :=
  { d with beaconImages := d.beaconImages.set kind image }

/-- Changes the validator image of one consensus client. -/
def withValidatorImage (d : ClientDefaults) (kind : ConsensusKind) (image : String) :
    ClientDefaults :=
  { d with validatorImages := d.validatorImages.set kind image }

/-- Changes the resource request of one role. -/
def withResources (d : ClientDefaults) (role : Role) (resources : Resources) : ClientDefaults :=
  { d with resources := fun r => if r = role then resources else d.resources r }

/-- Changes the directory below which all data directories lie. -/
def withDataRoot (d : ClientDefaults) (root : String) : ClientDefaults :=
  { d with dataRoot := root }

/-! ## Data directories -/

/-- The last part of a data directory. -/
def dataLeaf : Role → String
  | .execution => "execution-data"
  | .consensus => "beacon-data"
  | .validator => "validator-data"

/-- A path without slashes at its end. -/
def trimSlashes (path : String) : String :=
  String.ofList (path.toList.reverse.dropWhile (· == '/')).reverse

/-- Where a client keeps its chain data, such as `/data/geth/execution-data`. -/
def dataDirectory (d : ClientDefaults) (role : Role) (client : String) : String :=
  trimSlashes d.dataRoot ++ "/" ++ client ++ "/" ++ dataLeaf role

end ClientDefaults
end DevnetChaos
