import DevnetChaos.Document.Yaml.Reader
import DevnetChaos.Proofs.Document.Places

/-!
# What YAML documents say

A node without tags and references spells a tree if it is built like it and its scalars mean what
the tree has in their places.  What such a node answers is what the tree would answer.

Main definitions:

- `Yaml.Node.spells`: a node that spells a tree.
- `Yaml.Document.Says`: a text whose one document says a tree.

Main results:

- `Yaml.Spot.says_of_node`, `Yaml.Spot.says_spot`: a node that spells a tree answers as the
  tree would, and so does the root of a document.
-/

namespace DevnetChaos

/-! ## Plain scalars -/

namespace Scalar

/-- No integer is a text. -/
theorem integerOf?_ne_text {text s : String} : integerOf? text ≠ some (some (.text s)) := by
  rw [integerOf?]
  split
  · split <;> simp
  · split
    · split <;> simp
    · simp

/-- A spelling that means a text means itself. -/
theorem ofPlain?_of_meansText {text : String} (h : meansText text = true) :
    ofPlain? text = some (.text text) := by
  obtain ⟨s, hs⟩ : ∃ s, ofPlain? text = some (.text s) := by
    rw [meansText] at h
    split at h
    · exact ⟨_, ‹_›⟩
    · cases h
  have hsame : text = s := by
    rw [ofPlain?] at hs
    split at hs
    · cases hs
    · split at hs
      · cases hs
      · split at hs
        · next hinteger =>
          rw [hs] at hinteger
          exact absurd hinteger integerOf?_ne_text
        · split at hs
          · cases hs
            rfl
          · split at hs
            · cases hs
            · cases hs
              rfl
  rw [hs, hsame]

/-- The words for truth values. -/
theorem boolOf?_eq_some {text : String} {b : Bool} (h : boolOf? text = some b) :
    text ∈ ["true", "True", "TRUE", "false", "False", "FALSE"] := by
  rw [boolOf?] at h
  simp only [Bool.or_eq_true, beq_iff_eq] at h
  split at h
  · next hword => rcases hword with (rfl | rfl) | rfl <;> simp
  · split at h
    · next hword => rcases hword with (rfl | rfl) | rfl <;> simp
    · cases h

/-- A word for a truth value means the truth value. -/
theorem ofPlain?_of_boolOf? {text : String} {b : Bool} (h : boolOf? text = some b) :
    ofPlain? text = some (.bool b) := by
  have hwords : ∀ word ∈ ["true", "True", "TRUE", "false", "False", "FALSE"],
      (word.isEmpty || nullWord word) = false := by decide
  rw [ofPlain?, hwords text (boolOf?_eq_some h), h]
  rfl

/-- A spelling that means a natural number is one where a natural number is wanted. -/
theorem unsignedOf?_of_ofPlain? {text : String} {n : Nat} (h : ofPlain? text = some (.nat n)) :
    unsignedOf? text = some n := by
  rw [ofPlain?] at h
  split at h
  · cases h
  · split at h
    · cases h
    · split at h
      · next hinteger =>
        rw [h, integerOf?] at hinteger
        split at hinteger
        · next m hfits =>
          have hm := (Option.filter_eq_some_iff.1 hfits).1
          split at hinteger
          · cases hinteger
            exact hm
          · cases hinteger
        · split at hinteger
          · split at hinteger <;> cases hinteger
          · cases hinteger
      · split at h
        · cases h
        · split at h <;> cases h

end Scalar

namespace Yaml

/-! ## Nodes -/

namespace Node

/-- Whether a node is a scalar without a tag that means a text. -/
def isText (s : String) : Node → Bool
  | .scalar marks text style =>
      marks.tag.isNone && text == s && (style != .plain || Scalar.meansText text)
  | _ => false

/-- Whether a node is a plain scalar without a tag that means a truth value. -/
def isBool (b : Bool) : Node → Bool
  | .scalar marks text .plain => marks.tag.isNone && Scalar.boolOf? text == some b
  | _ => false

/-- Whether a node is a plain scalar without a tag that means a natural number. -/
def isNat (n : Int) : Node → Bool
  | .scalar marks text .plain =>
      marks.tag.isNone && match Scalar.ofPlain? text with
        | some (.nat m) => n == m
        | _ => false
  | _ => false

mutual

/-- Whether a node without tags and references spells a tree of texts, truth values and natural
numbers, in which lists and maps are at most so deep. -/
def spells : Nat → Node → Tree → Bool
  | _, n, .text s => n.isText s
  | _, n, .bool b => n.isBool b
  | _, n, .int i => n.isNat i
  | depth + 1, .list marks items, .list ts => marks.tag.isNone && spellsItems depth items ts
  | depth + 1, .map marks entries, .map es => marks.tag.isNone && spellsEntries depth entries es
  | _, _, _ => false

def spellsItems : Nat → List Node → List Tree → Bool
  | _, [], [] => true
  | depth, n :: ns, t :: ts => n.spells depth t && spellsItems depth ns ts
  | _, _, _ => false

def spellsEntries : Nat → List (Node × Node) → List (String × Tree) → Bool
  | _, [], [] => true
  | depth, (k, n) :: ns, (key, t) :: es =>
      k.isText key && n.spells depth t && spellsEntries depth ns es
  | _, _, _ => false

end
end Node

/-- A text that has one document, whose root spells a tree. -/
structure Document.Says (d : Document) (t : Tree) : Prop where
  root : d.root.spells 128 t = true
  isLast : d.isLast = true

/-! ## Scalars -/

namespace Spot

variable {d : Document} {depth : Nat} {n : Node}

/-- The place of a node whose tag, if it has one, is not used up. -/
def place (d : Document) (depth : Nat) (n : Node) : Place := .yaml ⟨d, n, depth, false⟩

/-- How values inside lists and maps are read at a depth. -/
def inner (d : Document) : Nat → Inner
  | 0 => none
  | depth + 1 => some (valueWithin d false depth)

theorem value_place (d : Document) (depth : Nat) (n : Node) :
    (place d depth n).value = valueWith d false (inner d depth) false n := by
  cases depth <;> rfl

/-- A scalar without a tag that means something has its meaning as its value. -/
theorem stands_scalar {t : Tree} {v : Value} {anchor : Option Nat} {text : String}
    {style : ScalarStyle} (ht : t.toValue? = some v)
    (hpresent : style = .plain → isNothing text = false)
    (hvalue : scalarValue? none text style = some v) :
    (place d depth (.scalar ⟨anchor, none⟩ text style)).Stands t := by
  refine ⟨?_, v, ht, ?_⟩
  · cases style with
    | plain =>
      let s : Spot := ⟨d, .scalar ⟨anchor, none⟩ text .plain, depth, false⟩
      have hsome : (if isNothing text then none else some s) = some s := by
        rw [hpresent rfl]
        rfl
      exact congrArg (fun found => (pure (found.map Place.yaml) : Reading (Option Place))) hsome
    | _ => rfl
  · rw [value_place]
    change Reading.ofOption (scalarValue? none text style) = pure v
    rw [hvalue]
    rfl

/-- What means something other than null stands for something. -/
theorem isNothing_of_ofPlain? {text : String} {v : Value} (h : Scalar.ofPlain? text = some v)
    (hv : v ≠ .null) : isNothing text = false := by
  rw [isNothing]
  cases hnothing : text.isEmpty || Scalar.nullWord text with
  | false => rfl
  | true =>
    rw [Scalar.ofPlain?, hnothing] at h
    cases h
    exact absurd rfl hv

/-- A node that spells a text says it. -/
theorem says_isText {s : String} (h : n.isText s = true) :
    (place d depth n).Stands (.text s) ∧ (place d depth n).SaysText s := by
  cases n with
  | scalar marks text style =>
    obtain ⟨anchor, tag⟩ := marks
    simp only [Node.isText, Bool.and_eq_true, Option.isNone_iff_eq_none, beq_iff_eq,
      Bool.or_eq_true, bne_iff_ne] at h
    obtain ⟨⟨rfl, rfl⟩, hmeans⟩ := h
    have hplain : style = .plain → Scalar.ofPlain? text = some (.text text) := fun hstyle =>
      Scalar.ofPlain?_of_meansText (hmeans.resolve_left fun hother => hother hstyle)
    have hvalue : scalarValue? none text style = some (.text text) := by
      cases style with
      | plain => exact hplain rfl
      | _ => rfl
    have hstands : (place d depth (.scalar ⟨anchor, none⟩ text style)).Stands (.text text) :=
      stands_scalar rfl (fun hstyle => isNothing_of_ofPlain? (hplain hstyle) (by simp)) hvalue
    obtain ⟨_, ⟨⟩, hread⟩ := hstands.value
    exact ⟨hstands, rfl, rfl, rfl, hread⟩
  | _ => cases h

/-- A node that spells a truth value says it. -/
theorem says_isBool {b : Bool} (h : n.isBool b = true) : (place d depth n).Says (.bool b) := by
  cases n with
  | scalar marks text style =>
    obtain ⟨anchor, tag⟩ := marks
    cases style with
    | plain =>
      simp only [Node.isBool, Bool.and_eq_true, Option.isNone_iff_eq_none, beq_iff_eq] at h
      obtain ⟨rfl, hword⟩ := h
      have hplain := Scalar.ofPlain?_of_boolOf? hword
      refine ⟨stands_scalar rfl (fun _ => isNothing_of_ofPlain? hplain (by simp)) hplain, ?_⟩
      change Reading.ofOption (Scalar.boolOf? text) = pure b
      rw [hword]
      rfl
    | _ => cases h
  | _ => cases h

/-- A node that spells a number says it. -/
theorem says_isNat {i : Int} (h : n.isNat i = true) : (place d depth n).Says (.int i) := by
  cases n with
  | scalar marks text style =>
    obtain ⟨anchor, tag⟩ := marks
    cases style with
    | plain =>
      simp only [Node.isNat, Bool.and_eq_true, Option.isNone_iff_eq_none] at h
      obtain ⟨rfl, hnumber⟩ := h
      split at hnumber
      · next m hplain =>
        rw [beq_iff_eq] at hnumber
        subst hnumber
        refine ⟨stands_scalar rfl (fun _ => isNothing_of_ofPlain? hplain (by simp)) hplain, ?_⟩
        intro k hk
        cases Int.ofNat.inj hk
        change Reading.ofOption (Scalar.unsignedOf? text) = pure m
        rw [Scalar.unsignedOf?_of_ofPlain? hplain]
        rfl
      · cases hnumber
    | _ => cases h
  | _ => cases h

/-! ## Lists and maps -/

/-- The entries of a node as places. -/
def entryPlaces (d : Document) (depth : Nat) (entries : List (Node × Node)) :
    List (Place × Place) :=
  entries.map fun e => (place d depth e.1, place d depth e.2)

/-- The values of places that say the trees of a list. -/
theorem mapM_value {nodes : List Node} {ts : List Tree}
    (h : Place.SaysItems (nodes.map (place d depth)) ts) :
    ∃ vs, Tree.toValues? ts = some vs ∧ nodes.mapM (valueWithin d false depth false) = pure vs := by
  induction nodes generalizing ts with
  | nil =>
    cases ts with
    | nil => exact ⟨[], rfl, rfl⟩
    | cons => cases h
  | cons n rest ih =>
    cases ts with
    | nil => cases h
    | cons t ts =>
      obtain ⟨v, hv, hread⟩ := h.1.value
      obtain ⟨vs, hvs, hrest⟩ := ih h.2
      refine ⟨v :: vs, by rw [Tree.toValues?, hv, hvs]; rfl, ?_⟩
      have hfirst : valueWithin d false depth false n = pure v := hread
      rw [List.mapM_cons, hfirst, hrest]
      rfl

/-- The entries of a map are kept in order. -/
theorem readEntries_value {entries : List (Node × Node)} {es : List (String × Tree)}
    (h : Place.SaysEntries (entryPlaces d depth entries) es) (seen : List (Value × Value)) :
    ∃ vs, Tree.toValueEntries? es = some vs ∧
      readEntries false false (valueWithin d false depth) seen entries =
        pure (seen.reverse ++ vs) := by
  induction entries generalizing es seen with
  | nil =>
    cases es with
    | nil => exact ⟨[], rfl, by rw [List.append_nil]; rfl⟩
    | cons => cases h
  | cons e rest ih =>
    obtain ⟨k, n⟩ := e
    cases es with
    | nil => cases h
    | cons e es =>
      obtain ⟨key, t⟩ := e
      obtain ⟨v, hv, hread⟩ := h.2.1.value
      obtain ⟨vs, hvs, hrest⟩ := ih h.2.2 ((.text key, v) :: seen)
      refine ⟨(.text key, v) :: vs, by rw [Tree.toValueEntries?, hv, hvs]; rfl, ?_⟩
      have hkey : valueWithin d false depth false k = pure (.text key) := h.1.value
      have hvalue : valueWithin d false depth false n = pure v := hread
      rw [readEntries, hkey, pure_bind, hvalue]
      simpa using hrest

mutual

/-- A node that spells a tree answers as the tree would. -/
theorem says_of_node (d : Document) : ∀ (t : Tree) (depth : Nat) (n : Node),
    n.spells depth t = true → (place d depth n).Says t
  | .text s, depth, n, h => says_isText (by rwa [Node.spells] at h)
  | .bool b, depth, n, h => says_isBool (by rwa [Node.spells] at h)
  | .int i, depth, n, h => says_isNat (by rwa [Node.spells] at h)
  | .list ts, depth + 1, .list marks items, h => by
    obtain ⟨anchor, tag⟩ := marks
    rw [Node.spells, Bool.and_eq_true, Option.isNone_iff_eq_none] at h
    obtain ⟨rfl, hsays⟩ := h
    have hitems := saysItems_of_nodes d ts depth items hsays
    obtain ⟨vs, hvs, hread⟩ := mapM_value hitems
    refine ⟨⟨rfl, .list vs, by rw [Tree.toValue?, hvs]; rfl, ?_⟩,
      items.map (place d depth), ?_, hitems⟩
    · rw [value_place]
      change (do return Value.list (← items.mapM (valueWithin d false depth false))) = _
      rw [hread]
      rfl
    · exact congrArg (pure : List Place → Reading (List Place)) List.map_map
  | .map es, depth + 1, .map marks entries, h => by
    obtain ⟨anchor, tag⟩ := marks
    rw [Node.spells, Bool.and_eq_true, Option.isNone_iff_eq_none] at h
    obtain ⟨rfl, hsays⟩ := h
    have hentries := saysEntries_of_nodes d es depth entries hsays
    obtain ⟨vs, hvs, hread⟩ := readEntries_value hentries []
    have hplaces : Place.ofSpots (entries.map fun e =>
        (⟨d, e.1, depth, false⟩, ⟨d, e.2, depth, false⟩)) = entryPlaces d depth entries :=
      List.map_map
    refine ⟨⟨rfl, .map vs, by rw [Tree.toValue?, hvs]; rfl, ?_⟩,
      entryPlaces d depth entries, ?_, ?_, ?_, hentries⟩
    · rw [value_place]
      change (do
        let pairs ← readEntries false false (valueWithin d false depth) [] entries
        return Value.map pairs) = _
      rw [hread]
      rfl
    · exact congrArg (pure : List (Place × Place) → Reading (List (Place × Place))) hplaces
    · exact congrArg (fun ps => (pure (.entries ps) : Reading Place.Parts)) hplaces
    · exact congrArg (fun ps => (pure (.entries ps) : Reading Place.Parts)) hplaces
  | .list _, 0, n, h => by simp [Node.spells] at h
  | .map _, 0, n, h => by simp [Node.spells] at h
  | .null, _, n, h => by simp [Node.spells] at h
  | .float _, _, n, h => by simp [Node.spells] at h
  | .unreadable, _, n, h => by simp [Node.spells] at h

/-- Nodes that spell items say them. -/
theorem saysItems_of_nodes (d : Document) : ∀ (ts : List Tree) (depth : Nat) (nodes : List Node),
    Node.spellsItems depth nodes ts = true → Place.SaysItems (nodes.map (place d depth)) ts
  | [], _, [], _ => trivial
  | t :: ts, depth, n :: nodes, h => by
    rw [Node.spellsItems, Bool.and_eq_true] at h
    exact ⟨says_of_node d t depth n h.1, saysItems_of_nodes d ts depth nodes h.2⟩

/-- Nodes that spell entries say them. -/
theorem saysEntries_of_nodes (d : Document) : ∀ (es : List (String × Tree)) (depth : Nat)
    (entries : List (Node × Node)), Node.spellsEntries depth entries es = true →
      Place.SaysEntries (entryPlaces d depth entries) es
  | [], _, [], _ => trivial
  | (key, t) :: es, depth, (k, n) :: entries, h => by
    rw [Node.spellsEntries, Bool.and_eq_true, Bool.and_eq_true] at h
    exact ⟨(says_isText h.1.1).2, says_of_node d t depth n h.1.2,
      saysEntries_of_nodes d es depth entries h.2⟩

end

/-- The root of a document that says a tree answers as the tree would. -/
theorem says_spot {t : Tree} (h : d.Says t) : (Place.yaml d.spot).Says t :=
  says_of_node d t 128 d.root h.root

end Spot
end Yaml
end DevnetChaos
