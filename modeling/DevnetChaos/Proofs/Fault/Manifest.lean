import DevnetChaos.Fault.Manifest
import DevnetChaos.Proofs.Duration.Writing
import DevnetChaos.Proofs.Schema.Experiment
import DevnetChaos.Proofs.TextMap
import Mathlib.Data.List.Nodup

/-!
# What a manifest keeps

The manifest of a fault holds all of its parameters, in five shapes that share four kinds of
resources.  A reader that looks entries up by their keys, in whatever order they stand, gets the
fault back, but for what is below a millisecond.

Main definitions:

- `Tree.SameDocument`: trees that differ in the order of entries only.
- `Fault.ofManifest?`: a fault with its namespace and its name from a manifest.
- `Fault.floorMillis`: a fault without what its durations have below a millisecond.

Main results:

- `Tree.get?_ordered`: what is found at a key does not depend on the order of entries.
- `Fault.ignoresOrder_ofManifest`: so neither does what is read of a manifest.
- `Fault.ofManifest?_manifest`: the fault is read back from its manifest.
- `Fault.sameManifest_iff`: when two faults have the same manifest.
- `Fault.manifest_lossless`: faults in whole milliseconds are told apart by their manifests.
-/

namespace DevnetChaos

/-! ## Entries in any order -/

namespace Tree

/-- Two trees are the same document if they differ in the order of entries only; of several entries
with one key the last one counts. -/
def SameDocument (a b : Tree) : Prop := a.ordered = b.ordered

/-- Items are brought in order one by one. -/
theorem orderedItems_eq_map (items : List Tree) : orderedItems items = items.map ordered := by
  induction items with
  | nil => rfl
  | cons t rest ih => rw [orderedItems, ih, List.map_cons]

/-- Values of entries are brought in order one by one. -/
theorem orderedEntries_eq_map (entries : List (String × Tree)) :
    orderedEntries entries = entries.map fun e => (e.1, e.2.ordered) := by
  induction entries with
  | nil => rfl
  | cons e rest ih => rw [orderedEntries, ih, List.map_cons]

/-- The value of a key is the same tree in order, wherever its entry stands. -/
theorem lookup_map_ordered (entries : List (String × Tree)) (key : String) :
    (entries.map fun e => (e.1, e.2.ordered)).lookup key = (entries.lookup key).map ordered := by
  induction entries with
  | nil => rfl
  | cons e rest ih =>
    rw [List.map_cons, TextMap.lookup_cons_eq, TextMap.lookup_cons_eq, ih]
    split <;> rfl

/-- Where no key comes twice, it does not matter from which end entries are looked up. -/
theorem lastEntry?_entries (m : TextMap Tree) (key : String) :
    lastEntry? key m.entries = m.get? key := by
  have hreverse : (m.entries.reverse.map Prod.fst).Nodup := by
    rw [List.map_reverse, List.nodup_reverse]
    exact m.nodup_keys
  unfold lastEntry?
  apply Option.ext
  intro t
  rw [TextMap.lookup_eq_some_iff hreverse, List.mem_reverse, TextMap.get?_eq_some_iff]

/-- What is found at a key does not depend on the order of entries. -/
@[simp]
theorem get?_ordered (t : Tree) (key : String) :
    t.ordered.get? key = (t.get? key).map ordered := by
  cases t with
  | map entries =>
    rw [ordered, get?, get?, lastEntry?_entries, TextMap.get?_ofList, orderedEntries_eq_map,
      ← List.map_reverse, lookup_map_ordered, lastEntry?]
  | _ => simp [ordered, get?]

/-! ## Readers -/

section Readers

variable {α : Type}

/-- A text. -/
def text? : Tree → Option String
  | .text s => some s
  | _ => none

/-- A number below 256, or its digits. -/
def byte? : Tree → Option UInt8
  | .int (.ofNat n) => some (UInt8.ofNat n)
  | .text s => (Text.natOfDigits? s.toList).map UInt8.ofNat
  | _ => none

/-- The text of a duration. -/
def duration? (t : Tree) : Option Duration := t.text?.bind Duration.ofText?

/-- The items of a list. -/
def items? : Tree → Option (List Tree)
  | .list items => some items
  | _ => none

/-- A list, read item by item. -/
def list? (read : Tree → Option α) (t : Tree) : Option (List α) :=
  t.items?.bind fun items => items.mapM read

/-- What stands at a key. -/
def field? (key : String) (read : Tree → Option α) (t : Tree) : Option α := (t.get? key).bind read

/-- A list that stands at a key, and is empty if nothing does. -/
def listField? (key : String) (read : Tree → Option α) (t : Tree) : Option (List α) :=
  match t.get? key with
  | none => some []
  | some items => items.list? read

/-- What is read does not depend on the order of entries. -/
def IgnoresOrder (read : Tree → Option α) : Prop := ∀ t, read t.ordered = read t

theorem ignoresOrder_text : IgnoresOrder text? := by
  intro t
  cases t <;> simp [ordered, text?]

theorem ignoresOrder_byte : IgnoresOrder byte? := by
  intro t
  cases t <;> simp [ordered, byte?]

theorem ignoresOrder_duration : IgnoresOrder duration? := by
  intro t
  rw [duration?, duration?, ignoresOrder_text t]

variable {read : Tree → Option α}

/-- A list is read alike if its items are. -/
theorem IgnoresOrder.list (h : IgnoresOrder read) : IgnoresOrder (list? read) := by
  intro t
  cases t with
  | list items =>
    have hcomp : read ∘ ordered = read := funext h
    simp [ordered, list?, items?, orderedItems_eq_map, List.mapM_map, hcomp]
  | _ => simp [ordered, list?, items?]

/-- A field is read alike if its value is. -/
theorem IgnoresOrder.field (h : IgnoresOrder read) (key : String) :
    IgnoresOrder (field? key read) := by
  intro t
  rw [field?, field?, get?_ordered]
  cases t.get? key with
  | none => rfl
  | some found => exact h found

/-- A field that holds a list is read alike if the items are. -/
theorem IgnoresOrder.listField (h : IgnoresOrder read) (key : String) :
    IgnoresOrder (listField? key read) := by
  intro t
  rw [listField?, listField?, get?_ordered]
  cases t.get? key with
  | none => rfl
  | some found => exact h.list found

end Readers

/-- A percentage is read back where it is a number. -/
@[simp]
theorem byte?_nat (n : UInt8) : (Tree.nat n.toNat).byte? = some n := by
  simp [nat, byte?]

/-- A percentage is read back where it is a text. -/
@[simp]
theorem byte?_text (n : UInt8) : (Tree.text n.toNat.repr).byte? = some n := by
  have hdigits : Text.natOfDigits? n.toNat.repr.toList = some n.toNat := by
    rw [Text.natOfDigits?_eq_some, Nat.toList_repr]
    refine ⟨Nat.toDigits_ne_nil, ?_, by simp⟩
    intro c hc
    exact Text.isDigit_of_mem_toDigits hc
  rw [byte?, hdigits]
  simp

/-- A duration comes back without what it has below a millisecond. -/
@[simp]
theorem duration?_durationTree (d : Duration) :
    (Fault.durationTree d).duration? = some d.floorMillis := by
  simp [Fault.durationTree, duration?, text?, Duration.ofText?_format]

end Tree

/-! ## Reading a manifest -/

/-- A requirement in the shape of the platform. -/
def Requirement.ofTree? (t : Tree) : Option Requirement := do
  let key ← t.field? "key" Tree.text?
  let operator ← SelectorOperator.ofName? (← t.field? "operator" Tree.text?)
  return ⟨key, operator, ← t.listField? "values" Tree.text?⟩

namespace Fault

/-- A fault with a given selector, from the parameters in a resource of a given kind. -/
def ofSpec? (kind : String) (selector : List Requirement) (spec : Tree) : Option Fault :=
  match kind with
  | "TimeChaos" => do
      return .clockSkew selector (← spec.field? "timeOffset" Tree.text?)
        (← spec.field? "duration" Tree.duration?)
  | "PodChaos" => some (.podRestart selector)
  | "IOChaos" => do
      return .ioLatency selector (← spec.field? "volumePath" Tree.text?)
        (← spec.field? "delay" Tree.duration?) (← spec.field? "percent" Tree.byte?)
        (← spec.field? "duration" Tree.duration?)
  | "NetworkChaos" => do
      match ← spec.field? "action" Tree.text? with
      | "delay" =>
          return .networkLatency selector
            (← spec.field? "delay" (Tree.field? "latency" Tree.duration?))
            (← spec.field? "delay" (Tree.field? "jitter" Tree.duration?))
            (← spec.field? "delay" (Tree.field? "correlation" Tree.byte?))
            (← spec.field? "duration" Tree.duration?)
      | "loss" =>
          return .packetDrop selector (← spec.field? "loss" (Tree.field? "loss" Tree.byte?))
            (← PacketDirection.ofName? (← spec.field? "direction" Tree.text?))
            (← spec.field? "duration" Tree.duration?)
      | _ => none
  | _ => none

/-- The fault of a manifest, with its namespace and its name. -/
def ofManifest? (t : Tree) : Option (Fault × String × String) := do
  let kind ← t.field? "kind" Tree.text?
  let selector ← t.field? "spec"
    (Tree.field? "selector" (Tree.field? "expressionSelectors" (Tree.list? Requirement.ofTree?)))
  let fault ← t.field? "spec" (ofSpec? kind selector)
  let ns ← t.field? "metadata" (Tree.field? "namespace" Tree.text?)
  let name ← t.field? "metadata" (Tree.field? "name" Tree.text?)
  return (fault, ns, name)

end Fault

/-! ## The order of entries does not matter -/

open DevnetChaos.Tree

/-- A requirement says the same in any order of its entries. -/
theorem Requirement.ignoresOrder_ofTree : IgnoresOrder ofTree? := by
  intro t
  simp only [ofTree?, ignoresOrder_text.field _ t, ignoresOrder_text.listField _ t]

/-- What a manifest asks for is the same in any order of its entries. -/
theorem Fault.ignoresOrder_ofSpec (kind : String) (selector : List Requirement) :
    IgnoresOrder (ofSpec? kind selector) := by
  intro spec
  simp only [ofSpec?, ignoresOrder_text.field _ spec, ignoresOrder_byte.field _ spec,
    ignoresOrder_duration.field _ spec, (ignoresOrder_duration.field _).field _ spec,
    (ignoresOrder_byte.field _).field _ spec]

/-- What is read of a manifest does not depend on the order of its entries. -/
theorem Fault.ignoresOrder_ofManifest : IgnoresOrder ofManifest? := by
  intro t
  have hselector := Requirement.ignoresOrder_ofTree.list.field "expressionSelectors"
  simp only [ofManifest?, ignoresOrder_text.field _ t, (ignoresOrder_text.field _).field _ t,
    (hselector.field _).field _ t, (ignoresOrder_ofSpec _ _).field _ t]

/-! ## Reading back -/

/-- Of several entries with one key the last counts. -/
@[simp]
theorem Tree.get?_map (entries : List (String × Tree)) (key : String) :
    (Tree.map entries).get? key = entries.reverse.lookup key := rfl

/-- A list is read back if its items are. -/
theorem Tree.list?_map {α : Type} {read : Tree → Option α} (write : α → Tree)
    (h : ∀ a, read (write a) = some a) (as : List α) :
    Tree.list? read (.list (as.map write)) = some as := by
  rw [Tree.list?, Tree.items?, Option.bind_some]
  induction as with
  | nil => rfl
  | cons a rest ih => simp [h, ih]

/-- A requirement is read back; an empty list of values is left out. -/
theorem Requirement.ofTree?_toTree (r : Requirement) : ofTree? r.toTree = some r := by
  obtain ⟨key, operator, values⟩ := r
  have hvalues : Tree.list? Tree.text? (.texts values) = some values :=
    Tree.list?_map .text (fun _ => rfl) values
  cases values with
  | nil =>
    simp [ofTree?, toTree, Tree.entryUnless, Tree.field?, Tree.listField?, TextMap.lookup_cons_eq,
      Tree.text?, SelectorOperator.ofName?_name]
  | cons value rest =>
    simp [ofTree?, toTree, Tree.entryUnless, Tree.field?, Tree.listField?, TextMap.lookup_cons_eq,
      Tree.text?, SelectorOperator.ofName?_name, hvalues]

namespace Fault

/-- A fault with other durations. -/
def mapDurations (f : Duration → Duration) : Fault → Fault
  | clockSkew selector skew duration => clockSkew selector skew (f duration)
  | podRestart selector => podRestart selector
  | ioLatency selector volumePath delay percent duration =>
      ioLatency selector volumePath (f delay) percent (f duration)
  | networkLatency selector delay jitter correlation duration =>
      networkLatency selector (f delay) (f jitter) correlation (f duration)
  | packetDrop selector percent direction duration =>
      packetDrop selector percent direction (f duration)

/-- A fault without what its durations have below a millisecond. -/
def floorMillis : Fault → Fault := mapDurations Duration.floorMillis

/-- The durations of a fault are whole milliseconds. -/
def InWholeMillis (fault : Fault) : Prop := ∀ d ∈ fault.durations, d.nanos % 1000000 = 0

instance (fault : Fault) : Decidable fault.InWholeMillis :=
  inferInstanceAs (Decidable (∀ d ∈ fault.durations, d.nanos % 1000000 = 0))

/-- A fault whose durations are whole milliseconds loses nothing. -/
theorem floorMillis_eq_self {fault : Fault} (h : fault.InWholeMillis) :
    fault.floorMillis = fault := by
  have hself : ∀ d ∈ fault.durations, d.floorMillis = d :=
    fun d hd => Duration.floorMillis_eq_self (h d hd)
  cases fault <;> simp_all [durations, floorMillis, mapDurations]

/-- The parameters of a fault are read back, whatever stands in front of them. -/
theorem ofSpec?_resourceEntries (fault : Fault) (front : List (String × Tree)) :
    ofSpec? fault.resourceKind fault.selector (.map (front ++ fault.resourceEntries)) =
      some fault.floorMillis := by
  cases fault <;>
    simp [ofSpec?, resourceKind, resourceEntries, selector, floorMillis, mapDurations,
      Tree.field?, TextMap.lookup_cons_eq, Tree.text?, PacketDirection.ofName?_name]

/-- No parameter is called a selector. -/
theorem get?_selector (fault : Fault) (mode selector : Tree) :
    (Tree.map ([("mode", mode), ("selector", selector)] ++ fault.resourceEntries)).get? "selector" =
      some selector := by
  cases fault <;> simp [resourceEntries, TextMap.lookup_cons_eq]

/-- A fault is read back from its manifest, without what its durations have below a
millisecond. -/
theorem ofManifest?_manifest (fault : Fault) (ns name : String) :
    ofManifest? (fault.manifest ns name) = some (fault.floorMillis, ns, name) := by
  have hkind : (fault.manifest ns name).field? "kind" Tree.text? = some fault.resourceKind := rfl
  have hns : (fault.manifest ns name).field? "metadata" (Tree.field? "namespace" Tree.text?) =
      some ns := rfl
  have hname : (fault.manifest ns name).field? "metadata" (Tree.field? "name" Tree.text?) =
      some name := rfl
  have hfault : (fault.manifest ns name).field? "spec"
      (ofSpec? fault.resourceKind fault.selector) = some fault.floorMillis :=
    fault.ofSpec?_resourceEntries _
  have hselector : (fault.manifest ns name).field? "spec" (Tree.field? "selector"
      (Tree.field? "expressionSelectors" (Tree.list? Requirement.ofTree?))) =
        some fault.selector := by
    let entry := Tree.map [("namespaces", .texts [ns]),
      ("expressionSelectors", .list (fault.selector.map Requirement.toTree))]
    have hentry : (Tree.map ([("mode", .text "all"), ("selector", entry)] ++
        fault.resourceEntries)).get? "selector" = some entry := get?_selector _ _ _
    calc
      _ = (some entry).bind
            (Tree.field? "expressionSelectors" (Tree.list? Requirement.ofTree?)) := by
        rw [← hentry]
        rfl
      _ = Tree.list? Requirement.ofTree? (.list (fault.selector.map Requirement.toTree)) := rfl
      _ = some fault.selector := Tree.list?_map _ Requirement.ofTree?_toTree _
  simp [ofManifest?, hkind, hns, hname, hfault, hselector]

/-- What is below a millisecond is not in the manifest. -/
theorem manifest_floorMillis (fault : Fault) (ns name : String) :
    fault.floorMillis.manifest ns name = fault.manifest ns name := by
  have hdurationTree : ∀ d : Duration, durationTree d.floorMillis = durationTree d :=
    fun d => congrArg Tree.text d.format_floorMillis
  cases fault <;>
    simp [manifest, floorMillis, mapDurations, resourceKind, resourceEntries, selector,
      hdurationTree]

/-- Two faults have the same manifest exactly if they agree in whole milliseconds and their
namespaces and names are equal. -/
theorem sameManifest_iff {fault fault' : Fault} {ns ns' name name' : String} :
    (fault.manifest ns name).SameDocument (fault'.manifest ns' name') ↔
      fault.floorMillis = fault'.floorMillis ∧ ns = ns' ∧ name = name' := by
  constructor
  · intro hsame
    have hread := congrArg ofManifest? hsame
    rw [ignoresOrder_ofManifest, ignoresOrder_ofManifest, ofManifest?_manifest,
      ofManifest?_manifest] at hread
    simpa using hread
  · rintro ⟨hfault, rfl, rfl⟩
    rw [SameDocument, ← manifest_floorMillis fault, hfault, manifest_floorMillis]

/-- Nothing of a fault in whole milliseconds is lost in its manifest.  The fault is read back from
every document that is the same as its manifest, with its namespace and its name; so two such faults
have the same manifest only if they are equal, in the same namespace and under the same name. -/
theorem manifest_lossless {fault fault' : Fault} (h : fault.InWholeMillis)
    (h' : fault'.InWholeMillis) (ns name ns' name' : String) :
    (∀ t : Tree, t.SameDocument (fault.manifest ns name) →
        ofManifest? t = some (fault, ns, name)) ∧
      ((fault.manifest ns name).SameDocument (fault'.manifest ns' name') ↔
        fault = fault' ∧ ns = ns' ∧ name = name') := by
  constructor
  · intro t hsame
    rw [← ignoresOrder_ofManifest t, hsame, ignoresOrder_ofManifest, ofManifest?_manifest,
      floorMillis_eq_self h]
  · rw [sameManifest_iff, floorMillis_eq_self h, floorMillis_eq_self h']

/-- A delay of network traffic with the given jitter. -/
def unsteady (jitter : Duration) : Fault :=
  .networkLatency [.serviceIds ["el-1-geth-teku"], ⟨"zone", .present, []⟩] (.ofMillis 300) jitter 25
    (.ofSeconds 120)

/-- The longest duration in whole milliseconds, whose text no document can hold, is told apart from
one that is a millisecond shorter. -/
theorem manifest_lossless_longest :
    ∃ longest shorter : Duration,
      (unsteady longest).InWholeMillis ∧ (unsteady shorter).InWholeMillis ∧
        longest.format = "18446744073709551615999ms" ∧
        ofManifest? ((unsteady longest).manifest "chaos" "jitter") =
          some (unsteady longest, "chaos", "jitter") ∧
        ¬ ((unsteady longest).manifest "chaos" "jitter").SameDocument
          ((unsteady shorter).manifest "chaos" "jitter") := by
  let longest : Duration := ⟨18446744073709551615999000000, by decide⟩
  let shorter : Duration := ⟨18446744073709551615998000000, by decide⟩
  have hlongest : (unsteady longest).InWholeMillis := by decide
  have hshorter : (unsteady shorter).InWholeMillis := by decide
  obtain ⟨hread, hsame⟩ := manifest_lossless hlongest hshorter "chaos" "jitter" "chaos" "jitter"
  refine ⟨longest, shorter, hlongest, hshorter, by decide, hread _ rfl, ?_⟩
  rw [hsame]
  decide

end Fault
end DevnetChaos
