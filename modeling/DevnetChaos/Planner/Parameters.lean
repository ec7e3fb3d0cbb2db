import DevnetChaos.Fault
import DevnetChaos.Input
import DevnetChaos.Planner.Config
import DevnetChaos.Planner.Vocabulary

/-!
# Fault parameters

The parameters of a fault, read from one dimension of a planner document.  Values are scalars, so
that `50` and `"50"` mean the same.

Main definitions:

- `FaultParams`: the parameters of each fault type.
- `ParamDimension`: parameters with the grace period of the checks that follow.
- `ParamDimension.parse`, `parseDimensions`: the reading of one dimension and of all of them.
-/

namespace DevnetChaos

/-- The parameters of a fault. -/
inductive FaultParams where
  | clockSkew (skew : String) (duration : Duration)
  | restartFailures
  | ioLatency (delay : Duration) (percent : UInt8) (duration : Duration)
  | networkLatency (delay : Duration) (jitter : Duration) (duration : Duration)
      (correlation : UInt8)
  | packetDrop (percent : UInt8) (direction : PacketDirection) (duration : Duration)
  deriving DecidableEq, Repr

namespace FaultParams

/-- The fault type that has these parameters. -/
def faultType : FaultParams → FaultType
  | clockSkew .. => .clockSkew
  | restartFailures => .restartFailures
  | ioLatency .. => .ioLatency
  | networkLatency .. => .networkLatency
  | packetDrop .. => .packetDrop

/-- The text of parameters in descriptions and names of tests. -/
def display : FaultParams → String
  | clockSkew skew duration => "skew=" ++ skew ++ " duration=" ++ duration.format
  | restartFailures => "restart"
  | ioLatency delay percent duration =>
      "delay=" ++ delay.format ++ " percent=" ++ toString percent.toNat ++ " duration="
        ++ duration.format
  | networkLatency delay jitter duration correlation =>
      "delay=" ++ delay.format ++ " jitter=" ++ jitter.format ++ " correlation="
        ++ toString correlation.toNat ++ " duration=" ++ duration.format
  | packetDrop percent direction duration =>
      "percent=" ++ toString percent.toNat ++ " direction=" ++ direction.name ++ " duration="
        ++ duration.format

end FaultParams

/-- Parameters with the grace period of the checks that follow the fault. -/
structure ParamDimension where
  params : FaultParams
  gracePeriod : Option Duration
  deriving DecidableEq, Repr

/-! ## Reading parameters -/

namespace Parameter

variable (type : FaultType) (entries : Dimension)

/-- The text of a parameter, if it is given. -/
def text? (key : String) : Input (Option String) :=
  match entries.get? key with
  | none => .ok none
  | some v =>
      match v.scalarText? with
      | some s => .ok (some s)
      | none => Input.refuse (.parameterNotScalar type.name key)

/-- The text of a parameter that has to be given. -/
def text (key : String) : Input String := do
  match ← text? type entries key with
  | some s => return s
  | none => Input.refuse (.parameterMissing type.name key)

/-- A duration. -/
def span (key : String) : Input Duration := do Input.duration (← text type entries key)

/-- The whole percentage of a text: digits, perhaps after a plus sign and between blanks. -/
def percentOf? (s : String) : Option UInt8 :=
  let cs := Text.trimChars s.toList
  let digits := match cs with
    | '+' :: rest => rest
    | cs => cs
  ((Text.natOfDigits? digits).filter (· ≤ 100)).map UInt8.ofNat

/-- A whole percentage. -/
def percent (key : String) : Input UInt8 := do
  let s ← text type entries key
  match percentOf? s with
  | some p => return p
  | none => Input.refuse (.parameterNotPercentage type.name key s)

/-- The magnitude of a signed offset: what follows its signs. -/
def skewMagnitude (skew : String) : String :=
  String.ofList ((Text.trimChars skew.toList).dropWhile fun c => c == '-' || c == '+')

/-- A signed offset such as `-5m`, kept as text without blanks around it. -/
def skew (key : String) : Input String := do
  let s ← text type entries key
  let _ ← Input.duration (skewMagnitude s)
  return Text.trim s

/-- A direction. -/
def direction (key : String) : Input PacketDirection := do
  Input.ofExcept (PacketDirection.ofName (← text type entries key))

/-- The parameters of a fault type. -/
def params : Input FaultParams :=
  match type with
  | .clockSkew => do
      let skew ← skew type entries "skew"
      return .clockSkew skew (← span type entries "duration")
  | .restartFailures => .ok .restartFailures
  | .ioLatency => do
      let delay ← span type entries "delay"
      let percent ← percent type entries "percent"
      return .ioLatency delay percent (← span type entries "duration")
  | .networkLatency => do
      let delay ← span type entries "delay"
      let jitter ← span type entries "jitter"
      let duration ← span type entries "duration"
      return .networkLatency delay jitter duration (← percent type entries "correlation")
  | .packetDrop => do
      let percent ← percent type entries "percent"
      let direction ← direction type entries "direction"
      return .packetDrop percent direction (← span type entries "duration")

end Parameter

/-- Reads one dimension for a fault type. -/
def ParamDimension.parse (type : FaultType) (entries : Dimension) : Input ParamDimension := do
  let params ← Parameter.params type entries
  match ← Parameter.text? type entries "grace_period" with
  | none => return ⟨params, none⟩
  | some s => return ⟨params, some (← Input.duration s)⟩

/-- Reads all dimensions.  Without any there is one empty dimension, which only a fault without
parameters accepts. -/
def parseDimensions (type : FaultType) (dimensions : List Dimension) :
    Input (List ParamDimension) :=
  if dimensions.isEmpty then return [← ParamDimension.parse type .empty]
  else dimensions.mapM (ParamDimension.parse type)

end DevnetChaos
