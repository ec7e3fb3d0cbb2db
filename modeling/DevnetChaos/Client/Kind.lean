import DevnetChaos.Failure

/-!
# Client implementations and roles

The closed vocabularies of a devnet: which programs can run on its execution and on its consensus
side, and which part a service plays inside a node.

Main definitions:

- `ExecutionKind`, `ConsensusKind`: the known implementations of each side.
- `Role`: execution, consensus or validator service.
- `ClientKind`: an implementation of either side.

Main results:

- `ExecutionKind.ofName?_name`, `ConsensusKind.ofName?_name`: a name stands for one
  implementation.
- `ClientKind.names_disjoint`: no name belongs to both sides.
- `ClientKind.eq_of_name_eq`: a name stands for one client of either side.
-/

namespace DevnetChaos

/-! ## Execution clients -/

/-- Implementations of the execution side. -/
inductive ExecutionKind where
  | geth
  | erigon
  | nethermind
  | besu
  | reth
  | ethereumjs
  | nimbusEth1
  deriving DecidableEq, Repr

namespace ExecutionKind

/-- Every implementation, in the order in which they are listed. -/
def all : List ExecutionKind := [geth, erigon, nethermind, besu, reth, ethereumjs, nimbusEth1]

/-- The name used in documents, labels and service names. -/
def name : ExecutionKind → String
  | geth => "geth"
  | erigon => "erigon"
  | nethermind => "nethermind"
  | besu => "besu"
  | reth => "reth"
  | ethereumjs => "ethereumjs"
  | nimbusEth1 => "nimbus-eth1"

/-- The implementation of a name. -/
def ofName? (s : String) : Option ExecutionKind := all.find? fun k => k.name == s

/-- The implementation of a name, or the failure that names the text. -/
def ofName (s : String) : Except Failure ExecutionKind :=
  match ofName? s with
  | some k => .ok k
  | none => .error (.configuration (.notExecutionClient s))

theorem ofName?_name (k : ExecutionKind) : ofName? k.name = some k := by
  cases k <;> rfl

theorem name_of_ofName? {s : String} {k : ExecutionKind} (h : ofName? s = some k) :
    k.name = s := by
  simpa using List.find?_some h

end ExecutionKind

/-! ## Consensus clients -/

/-- Implementations of the consensus side.  Validator services use the same vocabulary. -/
inductive ConsensusKind where
  | lighthouse
  | teku
  | nimbus
  | prysm
  | lodestar
  | grandine
  deriving DecidableEq, Repr

namespace ConsensusKind

/-- Every implementation, in the order in which they are listed. -/
def all : List ConsensusKind := [lighthouse, teku, nimbus, prysm, lodestar, grandine]

/-- The name used in documents, labels and service names. -/
def name : ConsensusKind → String
  | lighthouse => "lighthouse"
  | teku => "teku"
  | nimbus => "nimbus"
  | prysm => "prysm"
  | lodestar => "lodestar"
  | grandine => "grandine"

/-- The implementation of a name. -/
def ofName? (s : String) : Option ConsensusKind := all.find? fun k => k.name == s

/-- The implementation of a name, or the failure that names the text. -/
def ofName (s : String) : Except Failure ConsensusKind :=
  match ofName? s with
  | some k => .ok k
  | none => .error (.configuration (.notConsensusClient s))

theorem ofName?_name (k : ConsensusKind) : ofName? k.name = some k := by
  cases k <;> rfl

theorem name_of_ofName? {s : String} {k : ConsensusKind} (h : ofName? s = some k) :
    k.name = s := by
  simpa using List.find?_some h

end ConsensusKind

/-! ## Roles -/

/-- The part a service plays inside a node. -/
inductive Role where
  | execution
  | consensus
  | validator
  deriving DecidableEq, Repr

namespace Role

/-- Every role, in the order in which a node lists its services. -/
def all : List Role := [execution, consensus, validator]

/-- The name used in documents and messages. -/
def name : Role → String
  | execution => "execution"
  | consensus => "consensus"
  | validator => "validator"

/-- The role of a name. -/
def ofName? (s : String) : Option Role := all.find? fun r => r.name == s

/-- The token that opens a service name. -/
def token : Role → String
  | execution => "el"
  | consensus => "cl"
  | validator => "vc"

/-- The role a service name opens with: its token, or its name in full. -/
def ofToken? (s : String) : Option Role := all.find? fun r => r.token == s || r.name == s

/-- The value of the service-type label on pods of this role. -/
def serviceType : Role → String
  | execution => "execution-client"
  | consensus => "consensus-client"
  | validator => "validator-client"

theorem mem_all (r : Role) : r ∈ all := by
  cases r <;> decide

theorem ofToken?_token (r : Role) : ofToken? r.token = some r := by
  cases r <;> rfl

theorem eq_of_serviceType_eq {r r' : Role} (h : r.serviceType = r'.serviceType) : r = r' := by
  revert h
  cases r <;> cases r' <;> decide

end Role

/-! ## Clients of either side -/

/-- An implementation of either side. -/
inductive ClientKind where
  | execution (kind : ExecutionKind)
  | consensus (kind : ConsensusKind)
  deriving DecidableEq, Repr

namespace ClientKind

/-- The name used in documents, labels and service names. -/
def name : ClientKind → String
  | execution kind => kind.name
  | consensus kind => kind.name

/-- The side the implementation belongs to. -/
def role : ClientKind → Role
  | execution _ => .execution
  | consensus _ => .consensus

/-- The implementation of a name; the two vocabularies share none. -/
def ofName? (s : String) : Option ClientKind :=
  match ExecutionKind.ofName? s with
  | some kind => some (execution kind)
  | none => (ConsensusKind.ofName? s).map consensus

/-- The implementation of a name, or the failure that names the text. -/
def ofName (s : String) : Except Failure ClientKind :=
  match ofName? s with
  | some kind => .ok kind
  | none => .error (.configuration (.notClient s))

/-- No name belongs to both sides. -/
theorem names_disjoint (el : ExecutionKind) (cl : ConsensusKind) : el.name ≠ cl.name := by
  cases el <;> cases cl <;> decide

/-- A name stands for one client of either side. -/
theorem eq_of_name_eq {a b : ClientKind} (h : a.name = b.name) : a = b := by
  cases a with
  | execution el =>
    cases b with
    | execution el' =>
      have hname : ExecutionKind.ofName? el.name = ExecutionKind.ofName? el'.name := congrArg _ h
      rw [ExecutionKind.ofName?_name, ExecutionKind.ofName?_name] at hname
      exact congrArg execution (Option.some.inj hname)
    | consensus cl => exact absurd h (names_disjoint el cl)
  | consensus cl =>
    cases b with
    | execution el => exact absurd h.symm (names_disjoint el cl)
    | consensus cl' =>
      have hname : ConsensusKind.ofName? cl.name = ConsensusKind.ofName? cl'.name := congrArg _ h
      rw [ConsensusKind.ofName?_name, ConsensusKind.ofName?_name] at hname
      exact congrArg consensus (Option.some.inj hname)

end ClientKind
end DevnetChaos
