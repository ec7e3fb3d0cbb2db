import DevnetChaos.Random.ChaCha

/-!
# Random choice

A source of random words and the uniform choice of an element of a list.

Main definitions:

- `Source`: a key with a position in its stream.
- `Source.ofSeed`: the source of a seed.
- `Source.choose`: one element of a list, by rejection, so that every element is equally likely.

Main results:

- `choose_mem`: what is chosen is an element of the list.
- `choose_isSome`: from a list that is not empty an element is chosen.
-/

namespace DevnetChaos
namespace Random

/-- Expands the state of a seed by one word. -/
def seedStep (state : UInt64) : UInt64 :=
  state * 6364136223846793005 + 11634580027462260723

/-- The word of a state of a seed. -/
def seedWord (state : UInt64) : UInt32 :=
  let x := (((state >>> 18) ^^^ state) >>> 27).toUInt32
  let r := (state >>> 59).toUInt32
  if r == 0 then x else (x >>> r) ||| (x <<< (32 - r))

/-- The words of the next `n` states of a seed. -/
def seedWords : Nat → UInt64 → List UInt32
  | 0, _ => []
  | n + 1, state => let next := seedStep state; seedWord next :: seedWords n next

/-- A key with the place in its stream: the number of the next block, and the words of the current
one that are not yet drawn. -/
structure Source where
  key : Key
  counter : UInt64
  pending : List UInt32
  deriving DecidableEq, Repr

namespace Source

/-- The source of a seed. -/
def ofSeed (seed : UInt64) : Source :=
  match seedWords 8 seed with
  | [a, b, c, d, e, f, g, h] => ⟨⟨⟨a, b, c, d⟩, ⟨e, f, g, h⟩⟩, 0, []⟩
  | _ => ⟨⟨⟨0, 0, 0, 0⟩, ⟨0, 0, 0, 0⟩⟩, 0, []⟩

/-- Draws a word. -/
def next (s : Source) : UInt32 × Source :=
  match s.pending with
  | word :: rest => (word, { s with pending := rest })
  | [] =>
      match s.key.output s.counter with
      | word :: rest => (word, { s with counter := s.counter + 1, pending := rest })
      | [] => (0, s)

/-- Doubles a number until it fills its 32 bits. -/
def fill : Nat → UInt32 → UInt32
  | 0, n => n
  | fuel + 1, n => if n ≥ 0x80000000 then n else fill fuel (2 * n)

/-- The largest low half of a product that is accepted for a range. -/
def zone (range : UInt32) : UInt32 := fill 32 range - 1

/-- Draws words until the low half of the product with the range is accepted, and gives the high
half.  More than half of all words are accepted; the last of the allowed draws always is. -/
def below (range : UInt32) : Nat → Source → Nat × Source
  | 0, s =>
      let (word, s) := s.next
      (word.toNat * range.toNat / 4294967296, s)
  | fuel + 1, s =>
      let (word, s) := s.next
      let product := word.toNat * range.toNat
      if product % 4294967296 ≤ (zone range).toNat then (product / 4294967296, s)
      else below range fuel s

/-- Chooses an element of a list; an empty list has none and draws nothing. -/
def choose {α : Type} (s : Source) (xs : List α) : Option α × Source :=
  if xs.isEmpty then (none, s)
  else
    let (i, s) := s.below (UInt32.ofNat xs.length) 1000
    (xs[i]?, s)

theorem choose_mem {α : Type} {s s' : Source} {xs : List α} {a : α}
    (h : s.choose xs = (some a, s')) : a ∈ xs := by
  unfold choose at h
  split at h
  · simp at h
  · simp only [Prod.mk.injEq] at h
    exact List.mem_of_getElem? h.1

theorem below_lt (range : UInt32) (h : 0 < range.toNat) (fuel : Nat) (s : Source) :
    (s.below range fuel).1 < range.toNat := by
  have key (w : UInt32) : w.toNat * range.toNat / 4294967296 < range.toNat := by
    have hw : w.toNat < 4294967296 := w.toNat_lt
    refine Nat.div_lt_of_lt_mul ?_
    exact (Nat.mul_lt_mul_right h).2 hw
  induction fuel generalizing s with
  | zero => exact key _
  | succ fuel ih =>
    unfold below
    simp only
    split
    · exact key _
    · exact ih _

/-- From a list that is not empty, and not longer than a word counts, an element is chosen. -/
theorem choose_isSome {α : Type} (s : Source) {xs : List α} (h : xs ≠ [])
    (hl : xs.length < 4294967296) : (s.choose xs).1.isSome := by
  have hr : (UInt32.ofNat xs.length).toNat = xs.length := by
    rw [UInt32.toNat_ofNat']; exact Nat.mod_eq_of_lt hl
  have hp : 0 < xs.length := List.length_pos_iff.2 h
  have hb := below_lt (UInt32.ofNat xs.length) (by omega) 1000 s
  unfold choose
  rw [if_neg (by simpa using h)]
  simp only
  rw [List.getElem?_eq_getElem (by omega)]
  rfl

end Source
end Random
end DevnetChaos
