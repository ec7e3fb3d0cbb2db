/-!
# Failures

Everything that can go wrong while planning or running a chaos experiment, as causes.  The wording
of each cause is in one place, so that a caller branches on the cause and never on the text.

Main definitions:

- `Misconfiguration`, `TopologyFlaw`, `SelectorFlaw`, `BuildFlaw`: the causes of the four
  failures that have several of them.
- `Failure`: a cause together with the part of the program that reports it.
- `Failure.message`: the one line shown to an operator.
- `Failure.ofPlatform`: tells a backend that is down from one that refused a call.
- `Failure.isRetryable`, `Failure.isPreflight`: the two hints callers branch on.

A health check that finds a dead pod is not a failure: it is a verdict, recorded in an artifact.
-/

namespace DevnetChaos

/-- Reasons for which declared input is refused. -/
inductive Misconfiguration where
  /-- A reason given as text by the caller. -/
  | stated (reason : String)
  | notExecutionClient (name : String)
  | notConsensusClient (name : String)
  | notClient (name : String)
  /-- A word outside one of the closed vocabularies, which are listed in the message. -/
  | unsupportedWord (vocabulary : String) (word : String) (supported : List String)
  | badDirection (word : String)
  | badDuration (text : String)
  | targetNamesNoNodes
  | nodeMissing (index : Nat)
  | nodeDoesNotRun (index : Nat) (client : String)
  | noTargetingDimension
  | noAttackSize
  | noVersion (role : String) (client : String)
  | declaredTwice (role : String) (client : String)
  | bootnodeUndeclared (client : String)
  | zeroMultiplier
  | shareOutOfRange (share : String)
  | targetNotInCatalog (client : String)
  | cannotPad (count : Nat) (role : String) (client : String)
  | parameterNotScalar (fault : String) (key : String)
  | parameterMissing (fault : String) (key : String)
  | parameterNotPercentage (fault : String) (key : String) (text : String)
  | nothingCompiled (fault : String) (client : String) (candidates : Nat)
  deriving DecidableEq, Repr

/-- Wording of a refused input. -/
def Misconfiguration.message : Misconfiguration → String
  | .stated reason => reason
  | .notExecutionClient name => "'" ++ name ++ "' is not an execution client type"
  | .notConsensusClient name => "'" ++ name ++ "' is not a consensus client type"
  | .notClient name =>
      "the target client '" ++ name ++ "' is not a valid execution or consensus client type"
  | .unsupportedWord vocabulary word supported =>
      "the " ++ vocabulary ++ " '" ++ word ++ "' is not supported. Supported: "
        ++ ", ".intercalate supported
  | .badDirection word =>
      "packet drop direction must be one of to, from, both (got '" ++ word ++ "')"
  | .badDuration text => "invalid duration '" ++ text ++ "'"
  | .targetNamesNoNodes => "target names no nodes"
  | .nodeMissing index => "node #" ++ toString index ++ " is not part of the topology"
  | .nodeDoesNotRun index client => "node #" ++ toString index ++ " does not run " ++ client
  | .noTargetingDimension => "at least one fault targeting dimension is required"
  | .noAttackSize => "at least one attack size dimension is required"
  | .noVersion role client => "no version found for " ++ role ++ " client type: " ++ client
  | .declaredTwice role client => role ++ " client " ++ client ++ " is declared more than once"
  | .bootnodeUndeclared client => "bootnode client " ++ client ++ " has no declared version"
  | .zeroMultiplier => "target_node_multiplier must be at least 1"
  | .shareOutOfRange share =>
      "invalid value (" ++ share
        ++ ") for target_as_percent_of_network, must be >= 0 and < 1"
  | .targetNotInCatalog client => "target client " ++ client ++ " is not in the catalog"
  | .cannotPad count role client =>
      "cannot pad the network with " ++ toString count ++ " nodes: no declared " ++ role
        ++ " client other than " ++ client
  | .parameterNotScalar fault key => fault ++ " parameter '" ++ key ++ "' must be a scalar"
  | .parameterMissing fault key => fault ++ " fault requires the '" ++ key ++ "' parameter"
  | .parameterNotPercentage fault key text =>
      fault ++ " parameter '" ++ key
        ++ "' must be an integer percentage between 0 and 100, got '" ++ text ++ "'"
  | .nothingCompiled fault client candidates =>
      "no test could be compiled for " ++ fault ++ " against " ++ client ++ " with "
        ++ toString candidates ++ " matching node(s)"

/-- Reasons for which observed services do not form a topology. -/
inductive TopologyFlaw where
  | stated (reason : String)
  | duplicateService (role : String) (index : Nat)
  | consensusMissing (execution : String) (index : Nat)
  | consensusOrphaned (index : Nat)
  | validatorOrphaned (index : Nat)
  deriving DecidableEq, Repr

/-- Wording of an unreconcilable observation. -/
def TopologyFlaw.message : TopologyFlaw → String
  | .stated reason => reason
  | .duplicateService role index =>
      "more than one " ++ role ++ " service at index " ++ toString index
  | .consensusMissing execution index =>
      "no consensus service found for execution client " ++ execution ++ " at index "
        ++ toString index
  | .consensusOrphaned index =>
      "consensus service at index " ++ toString index ++ " has no execution service"
  | .validatorOrphaned index =>
      "validator service at index " ++ toString index ++ " has no node"

/-- Reasons for which a fault cannot use the selector it was given. -/
inductive SelectorFlaw where
  | stated (reason : String)
  | missing (fault : String)
  | foreignKey (fault : String) (key : String)
  | foreignOperator (fault : String) (operator : String)
  | inTest (test : String) (flaw : SelectorFlaw)
  deriving DecidableEq, Repr

/-- Wording of an unusable selector. -/
def SelectorFlaw.message : SelectorFlaw → String
  | .stated reason => reason
  | .missing fault => fault ++ " fault has no selector"
  | .foreignKey fault key =>
      fault ++ " faults can only target pods by service id, got key '" ++ key ++ "'"
  | .foreignOperator fault operator =>
      fault ++ " faults can only use the 'In' operator, got '" ++ operator ++ "'"
  | .inTest test flaw => "test '" ++ test ++ "': " ++ flaw.message

/-- Reasons for which a network build counts as failed. -/
inductive BuildFlaw where
  | stated (reason : String)
  | streamEnded
  | errorReported (message : String)
  | unsuccessful (output : String)
  | timedOut (limit : String)
  deriving DecidableEq, Repr

/-- Wording of a failed build. -/
def BuildFlaw.message : BuildFlaw → String
  | .stated reason => reason
  | .streamEnded => "build event stream ended before the run finished"
  | .errorReported message => "deployment failed during execution: " ++ message
  | .unsuccessful output => "deployment failed: " ++ output
  | .timedOut limit => "network build timed out after " ++ limit

/-- A failed plan, document, platform call or run. -/
inductive Failure where
  /-- The declared input uses an unsupported word or value. -/
  | configuration (cause : Misconfiguration)
  /-- A service name outside the role-index-client-client form. -/
  | unrecognizedService (name : String)
  /-- Observed services that do not form a topology. -/
  | inconsistentTopology (cause : TopologyFlaw)
  /-- The running devnet has another shape than the declared one. -/
  | topologyMismatch (enclave : String) (declared : String) (observed : String)
  /-- A backend that could not be reached. -/
  | platformUnavailable (platform : String) (message : String)
  /-- A backend that was reached and refused the call. -/
  | platformCall (platform : String) (message : String)
  /-- A fault with a selector its kind cannot express. -/
  | unsupportedSelector (cause : SelectorFlaw)
  /-- A consensus client whose sidecar flag and validator disagree. -/
  | sidecar (client : String) (reason : String)
  /-- A network build that ended without success. -/
  | buildFailed (cause : BuildFlaw)
  /-- An injected fault that reported an error, or did not complete in time. -/
  | faultFailed (fault : String) (reason : String)
  /-- A state change the test state machine does not allow. -/
  | invalidTransition (source : String) (target : String)
  /-- The run was cancelled while waiting. -/
  | cancelled (operation : String)
  /-- A value of the wrong shape, or JSON text that does not parse. -/
  | malformedValue
  /-- A YAML document that does not parse or does not fit its type. -/
  | malformedDocument
  /-- A file that could not be read or written. -/
  | fileAccess
  /-- A broken assumption of the program itself. -/
  | internal (message : String)
  deriving DecidableEq, Repr

namespace Failure

/-- The line shown to an operator.  Failures of the reader carry no detail. -/
def message : Failure → String
  | configuration cause => "Invalid configuration: " ++ cause.message
  | unrecognizedService name => "Unrecognized service name: " ++ name
  | inconsistentTopology cause => "Inconsistent topology: " ++ cause.message
  | topologyMismatch enclave declared observed =>
      "Enclave " ++ enclave ++ " runs a different topology than declared (declared: " ++ declared
        ++ "; observed: " ++ observed ++ ")"
  | platformUnavailable platform message => platform ++ " platform is not reachable: " ++ message
  | platformCall platform message => platform ++ " platform call failed: " ++ message
  | unsupportedSelector cause => "Unsupported selector: " ++ cause.message
  | sidecar client reason =>
      "Consensus client " ++ client ++ " violates the sidecar invariant: " ++ reason
  | buildFailed cause => "Network build failed: " ++ cause.message
  | faultFailed fault reason => "Fault " ++ fault ++ " failed: " ++ reason
  | invalidTransition source target =>
      "Invalid state transition from " ++ source ++ " to " ++ target
  | cancelled operation => "Cancelled during " ++ operation
  | malformedValue => "Serialization error"
  | malformedDocument => "YAML error"
  | fileAccess => "IO error"
  | internal message => "Internal error: " ++ message

/-! ## Failures of a backend -/

/-- Phrases of a transport error that mean the backend is down.  They are ASCII and no character
outside ASCII has one of their letters as its lower case, so an ASCII fold is enough. -/
def unreachableMarkers : List String :=
  ["connection refused", "connect: connection refused", "no route to host", "not reachable"]

/-- Whether `needle` occurs in `text`. -/
def occursIn (needle : List Char) : List Char → Bool
  | [] => needle.isEmpty
  | c :: rest => needle.isPrefixOf (c :: rest) || occursIn needle rest

/-- Whether a backend message says that the backend could not be reached, in any letter case. -/
def saysUnreachable (message : String) : Bool :=
  let folded := message.toList.map Char.toLower
  unreachableMarkers.any fun marker => occursIn marker.toList folded

/-- Classifies a raw backend failure: a transport error asks the operator to start the engine,
anything else is a call that failed. -/
def ofPlatform (platform message : String) : Failure :=
  if saysUnreachable message then
    platformUnavailable platform
      ("could not connect to the " ++ platform
        ++ " engine; make sure it is running and reachable from this host (" ++ message ++ ")")
  else platformCall platform message

/-! ## Hints for callers -/

/-- Whether running everything again could plausibly succeed. -/
def isRetryable : Failure → Bool
  | platformUnavailable .. | platformCall .. | buildFailed .. => true
  | _ => false

/-- Whether the failure is one that is raised before any platform is called. -/
def isPreflight : Failure → Bool
  | configuration .. | unsupportedSelector .. | sidecar .. => true
  | _ => false

end Failure
end DevnetChaos
