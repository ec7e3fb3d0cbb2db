import DevnetChaos.Client.Kind
import DevnetChaos.Text.Digits
import DevnetChaos.Word

/-!
# Service names

Node services are named `role-index-client-paired`, such as `el-03-geth-lighthouse` or
`vc-1-nimbus-nimbus-eth1`.  A client name may hold hyphens itself, so the two clients are found by
trying every hyphen of the tail as the boundary between them.

Main definitions:

- `ServiceName`: role, index and the two clients of a name.
- `ServiceName.render`: the name in a network of a given size, which fixes the width of the index.
- `ServiceName.parse`: the reading of a name.
- `ServiceName.looksLikeNodeService`: the quick check that tells node services from auxiliary ones.
-/

namespace DevnetChaos

/-- A parsed name.  The client of an execution service is `execution` and the other one is the
client it is paired with; for the other two roles it is the other way round, and a validator
service keeps the type of its validator in `consensus`. -/
structure ServiceName where
  role : Role
  index : Nat
  execution : ExecutionKind
  consensus : ConsensusKind
  deriving DecidableEq, Repr

/-- Number of decimal digits of a node count, at least one. -/
def indexWidth (nodeCount : Nat) : Nat :=
  (toString (max nodeCount 1)).length

/-- A number with zeros in front up to the given width. -/
def padIndex (width index : Nat) : String :=
  let digits := toString index
  String.ofList (List.replicate (width - digits.length) '0') ++ digits

namespace ServiceName

/-- The name of the client that the service runs. -/
def client (s : ServiceName) : String :=
  match s.role with
  | .execution => s.execution.name
  | .consensus | .validator => s.consensus.name

/-- The name of the client on the other side of the node. -/
def paired (s : ServiceName) : String :=
  match s.role with
  | .execution => s.consensus.name
  | .consensus | .validator => s.execution.name

/-- The name in a network of `nodeCount` nodes. -/
def render (s : ServiceName) (nodeCount : Nat) : String :=
  s.role.token ++ "-" ++ padIndex (indexWidth nodeCount) s.index ++ "-" ++ s.client ++ "-"
    ++ s.paired

/-- The name without padding. -/
def display (s : ServiceName) : String := s.render 0

/-! ## Reading a name -/

/-- A text cut at its first hyphen, if it has one. -/
def cutHyphen? : List Char → Option (List Char × List Char)
  | [] => none
  | c :: rest =>
      if c == '-' then some ([], rest)
      else (cutHyphen? rest).map fun (front, back) => (c :: front, back)

/-- Every way to cut a text at one of its hyphens, from left to right. -/
def hyphenCuts : List Char → List (List Char × List Char)
  | [] => []
  | c :: rest =>
      let later := (hyphenCuts rest).map fun (front, back) => (c :: front, back)
      if c == '-' then ([], rest) :: later else later

/-- The two clients of a name's tail under a given role, for one cut. -/
def clientsOf? (role : Role) (client paired : String) : Option (ExecutionKind × ConsensusKind) :=
  match role with
  | .execution =>
      match ExecutionKind.ofName? client, ConsensusKind.ofName? paired with
      | some el, some cl => some (el, cl)
      | _, _ => none
  | .consensus | .validator =>
      match ExecutionKind.ofName? paired, ConsensusKind.ofName? client with
      | some el, some cl => some (el, cl)
      | _, _ => none

/-- The first three parts of a name: role token, index and tail. -/
def parts? (name : String) : Option (List Char × List Char × List Char) := do
  let (token, rest) ← cutHyphen? name.toList
  let (index, tail) ← cutHyphen? rest
  return (token, index, tail)

/-- Reads a name; an index is a run of digits that fits a 64-bit word. -/
def parse? (name : String) : Option ServiceName := do
  let (token, digits, tail) ← parts? name
  let role ← Role.ofToken? (String.ofList token)
  let index ← (Text.natOfDigits? digits).filter fun n => n < wordCount
  let (el, cl) ← (hyphenCuts tail).findSome? fun (client, paired) =>
    clientsOf? role (String.ofList client) (String.ofList paired)
  return ⟨role, index, el, cl⟩

/-- Reads a name, or gives the failure that names it. -/
def parse (name : String) : Except Failure ServiceName :=
  match parse? name with
  | some s => .ok s
  | none => .error (.unrecognizedService name)

/-- Whether a name opens like that of a node service: a role, a run of digits and something after
them.  What passes is still read strictly. -/
def looksLikeNodeService (name : String) : Bool :=
  match parts? name with
  | some (token, digits, _) =>
      (Role.ofToken? (String.ofList token)).isSome && !digits.isEmpty && digits.all Text.isDigit
  | none => false

end ServiceName
end DevnetChaos
