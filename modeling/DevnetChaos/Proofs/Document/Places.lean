import DevnetChaos.Document.Place

/-!
# What places say

A place says a tree if it answers every question as the tree would: it has the text, the number, the
items or the entries that the tree has, is not left out, and has the value of the tree where no
shape is asked for.  Then nothing is known of the place but the tree, so a reader that fits the tree
reads the same in JSON, in YAML and in a value that was kept.

Main definitions:

- `Place.SaysText`, `Place.Stands`: a place with a text, and one with the value of a tree.
- `Place.Says`: a place that says a tree.

Main results:

- `Tree.exists_toValue?`: a tree in which everything stands for something has a value.
- `Place.says_kept`, `Place.says_json`: a kept value says the tree it comes from, and a tree that
  was given as JSON says itself.
-/

namespace DevnetChaos

/-! ## Values of trees -/

namespace Tree

mutual

/-- A tree in which everything stands for something has a value. -/
theorem exists_toValue? : ∀ t : Tree, t.isReadable = true → ∃ v, t.toValue? = some v
  | .null, _ => ⟨_, rfl⟩
  | .bool _, _ => ⟨_, rfl⟩
  | .int (.ofNat _), _ => ⟨_, rfl⟩
  | .int (.negSucc _), _ => ⟨_, rfl⟩
  | .float _, _ => ⟨_, rfl⟩
  | .text _, _ => ⟨_, rfl⟩
  | .list items, h => by
    obtain ⟨vs, hvs⟩ := exists_toValues? items h
    exact ⟨.list vs, by rw [toValue?, hvs]; rfl⟩
  | .map entries, h => by
    obtain ⟨vs, hvs⟩ := exists_toValueEntries? entries h
    exact ⟨.map vs, by rw [toValue?, hvs]; rfl⟩

/-- Items that have a meaning have values. -/
theorem exists_toValues? : ∀ ts : List Tree, areReadable ts = true →
    ∃ vs, toValues? ts = some vs
  | [], _ => ⟨_, rfl⟩
  | t :: rest, h => by
    rw [areReadable, Bool.and_eq_true] at h
    obtain ⟨v, hv⟩ := exists_toValue? t h.1
    obtain ⟨vs, hvs⟩ := exists_toValues? rest h.2
    exact ⟨v :: vs, by rw [toValues?, hv, hvs]; rfl⟩

/-- Entries that have a meaning have values. -/
theorem exists_toValueEntries? : ∀ es : List (String × Tree), entriesAreReadable es = true →
    ∃ vs, toValueEntries? es = some vs
  | [], _ => ⟨_, rfl⟩
  | (key, t) :: rest, h => by
    rw [entriesAreReadable, Bool.and_eq_true] at h
    obtain ⟨v, hv⟩ := exists_toValue? t h.1
    obtain ⟨vs, hvs⟩ := exists_toValueEntries? rest h.2
    exact ⟨(.text key, v) :: vs, by rw [toValueEntries?, hv, hvs]; rfl⟩

end
end Tree

/-! ## Answers -/

namespace Place

/-- A place with a text, which may be the name of a field or of an alternative. -/
structure SaysText (p : Place) (s : String) : Prop where
  text : p.text = pure s
  identifier : p.identifier = pure (.name s)
  choice : p.choice = pure (.name s, none)
  value : p.value = pure (.text s)

/-- A place that is not left out and has the value of a tree. -/
structure Stands (p : Place) (t : Tree) : Prop where
  present : p.present? = pure (some p)
  value : ∃ v, t.toValue? = some v ∧ p.value = pure v

mutual

/-- A place that answers as a tree would. -/
def Says : Place → Tree → Prop
  | p, .null => p.present? = pure none ∧ p.value = pure .null
  | p, .bool b => p.Stands (.bool b) ∧ p.bool = pure b
  | p, .int n => p.Stands (.int n) ∧ ∀ m : Nat, n = m → p.natural = pure m
  | p, .float x => p.Stands (.float x) ∧ p.float = pure x
  | p, .text s => p.Stands (.text s) ∧ p.SaysText s
  | p, .list ts => p.Stands (.list ts) ∧ ∃ ps, p.items = pure ps ∧ SaysItems ps ts
  | p, .map es => p.Stands (.map es) ∧ ∃ ps, p.entries = pure ps ∧
      p.fieldParts = pure (.entries ps) ∧ p.parts = pure (.entries ps) ∧ SaysEntries ps es
  | _, .unreadable => False

def SaysItems : List Place → List Tree → Prop
  | [], [] => True
  | p :: ps, t :: ts => p.Says t ∧ SaysItems ps ts
  | _, _ => False

def SaysEntries : List (Place × Place) → List (String × Tree) → Prop
  | [], [] => True
  | (k, p) :: ps, (key, t) :: es => k.SaysText key ∧ p.Says t ∧ SaysEntries ps es
  | _, _ => False

end

/-- A place has the value of the tree that it says. -/
theorem Says.value {p : Place} {t : Tree} (h : p.Says t) :
    ∃ v, t.toValue? = some v ∧ p.value = pure v := by
  cases t with
  | null => exact ⟨.null, rfl, h.2⟩
  | unreadable => exact h.elim
  | _ => exact h.1.value

/-- A place that says something other than null is not left out. -/
theorem Says.present {p : Place} {t : Tree} (h : p.Says t) (ht : t ≠ .null) :
    p.present? = pure (some p) := by
  cases t with
  | null => exact absurd rfl ht
  | unreadable => exact h.elim
  | _ => exact h.1.present

/-! ## Values that were kept -/

theorem saysText_kept (s : String) : (kept (.text s)).SaysText s := ⟨rfl, rfl, rfl, rfl⟩

mutual

/-- A kept value says the tree whose value it is. -/
theorem says_kept : ∀ (t : Tree) {v : Value}, t.toValue? = some v → (kept v).Says t
  | .null, _, rfl => ⟨rfl, rfl⟩
  | .bool b, _, rfl => ⟨⟨rfl, _, rfl, rfl⟩, rfl⟩
  | .int (.ofNat n), _, rfl => ⟨⟨rfl, _, rfl, rfl⟩, fun m h => by cases h; rfl⟩
  | .int (.negSucc n), _, rfl => ⟨⟨rfl, _, rfl, rfl⟩, fun m h => by cases h⟩
  | .float x, _, rfl => ⟨⟨rfl, _, rfl, rfl⟩, rfl⟩
  | .text s, _, rfl => ⟨⟨rfl, _, rfl, rfl⟩, saysText_kept s⟩
  | .list ts, v, h => by
    obtain ⟨vs, hvs, rfl⟩ := Option.map_eq_some_iff.1 h
    exact ⟨⟨rfl, _, h, rfl⟩, vs.map kept, rfl, saysItems_kept ts hvs⟩
  | .map es, v, h => by
    obtain ⟨vs, hvs, rfl⟩ := Option.map_eq_some_iff.1 h
    exact ⟨⟨rfl, _, h, rfl⟩, ofKeptEntries vs, rfl, rfl, rfl, saysEntries_kept es hvs⟩

/-- Items that were kept say what they were kept for. -/
theorem saysItems_kept : ∀ (ts : List Tree) {vs : List Value}, Tree.toValues? ts = some vs →
    SaysItems (vs.map kept) ts
  | [], _, rfl => trivial
  | t :: rest, vs, h => by
    rw [Tree.toValues?] at h
    obtain ⟨v, hv, h⟩ := Option.bind_eq_some_iff.1 h
    obtain ⟨rest', hrest, h⟩ := Option.bind_eq_some_iff.1 h
    cases h
    exact ⟨says_kept t hv, saysItems_kept rest hrest⟩

/-- Entries that were kept say what they were kept for. -/
theorem saysEntries_kept : ∀ (es : List (String × Tree)) {vs : List (Value × Value)},
    Tree.toValueEntries? es = some vs → SaysEntries (ofKeptEntries vs) es
  | [], _, rfl => trivial
  | (key, t) :: rest, vs, h => by
    rw [Tree.toValueEntries?] at h
    obtain ⟨v, hv, h⟩ := Option.bind_eq_some_iff.1 h
    obtain ⟨rest', hrest, h⟩ := Option.bind_eq_some_iff.1 h
    cases h
    exact ⟨saysText_kept key, says_kept t hv, saysEntries_kept rest hrest⟩

end

/-! ## Trees that were given as JSON -/

/-- A tree that has a meaning stands for itself. -/
theorem stands_json {t : Tree} (hpresent : (json t).present? = pure (some (json t)))
    (h : t.isReadable = true) : (json t).Stands t := by
  obtain ⟨v, hv⟩ := t.exists_toValue? h
  refine ⟨hpresent, v, hv, ?_⟩
  rw [value, hv]
  rfl

mutual

/-- A tree in which everything stands for something says itself. -/
theorem says_json : ∀ t : Tree, t.isReadable = true → (json t).Says t
  | .null, _ => ⟨rfl, rfl⟩
  | .bool b, h => ⟨stands_json rfl h, rfl⟩
  | .int (.ofNat n), h => ⟨stands_json rfl h, fun m hm => by cases hm; rfl⟩
  | .int (.negSucc n), h => ⟨stands_json rfl h, fun m hm => by cases hm⟩
  | .float x, h => ⟨stands_json rfl h, rfl⟩
  | .text s, h => ⟨stands_json rfl h, rfl, rfl, rfl, rfl⟩
  | .list ts, h => ⟨stands_json rfl h, ts.map json, rfl, saysItems_json ts h⟩
  | .map es, h => ⟨stands_json rfl h, ofEntries es, rfl, rfl, rfl, saysEntries_json es h⟩

/-- The items of a tree say themselves. -/
theorem saysItems_json : ∀ ts : List Tree, Tree.areReadable ts = true →
    SaysItems (ts.map json) ts
  | [], _ => trivial
  | t :: rest, h => by
    rw [Tree.areReadable, Bool.and_eq_true] at h
    exact ⟨says_json t h.1, saysItems_json rest h.2⟩

/-- The entries of a tree say themselves. -/
theorem saysEntries_json : ∀ es : List (String × Tree), Tree.entriesAreReadable es = true →
    SaysEntries (ofEntries es) es
  | [], _ => trivial
  | (key, t) :: rest, h => by
    rw [Tree.entriesAreReadable, Bool.and_eq_true] at h
    exact ⟨⟨rfl, rfl, rfl, rfl⟩, says_json t h.1, saysEntries_json rest h.2⟩

end
end Place
end DevnetChaos
