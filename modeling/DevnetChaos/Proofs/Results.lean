import DevnetChaos.Input

/-!
# Computations that succeed

Planning is written as computations that stop at the first failure.  The facts here take a
computation that came back with a value apart into the values of its steps.

Main definitions:

- `FailsOnly`: a computation fails with failures of one kind only.

Main results:

- `bind_eq_ok`, `map_eq_ok`: a computation in two parts succeeds if both parts do.
- `bind_eq_error`: a computation in two parts fails if one of them does.
- `mapM_eq_ok`: a list is worked through if each of its elements is.
- `forM_eq_ok`: a list passes a check if each of its elements does.
- `forM_eq_error`: a list that does not fails at one of its elements.
- `FailsOnly.bind`, `FailsOnly.mapM`: the failures of a computation are those of its parts.
- `exists_eq_ok_of_isOk`: a computation that succeeds has a value.
- `Input.ofExcept_eq_ok`: reading input keeps the values of other computations.
-/

namespace DevnetChaos

variable {ε α β : Type}

/-- A computation in two parts succeeds exactly if both parts do. -/
theorem bind_eq_ok {x : Except ε α} {f : α → Except ε β} {b : β} :
    (x >>= f) = .ok b ↔ ∃ a, x = .ok a ∧ f a = .ok b := by
  cases x <;> simp [bind, Except.bind]

/-- A computation in two parts fails exactly if its first part does, or its second part after the
value of the first. -/
theorem bind_eq_error {x : Except ε α} {f : α → Except ε β} {e : ε} :
    (x >>= f) = .error e ↔ x = .error e ∨ ∃ a, x = .ok a ∧ f a = .error e := by
  cases x <;> simp [bind, Except.bind]

/-- A changed value comes from a value. -/
theorem map_eq_ok {x : Except ε α} {f : α → β} {b : β} :
    x.map f = .ok b ↔ ∃ a, x = .ok a ∧ f a = b := by
  cases x <;> simp [Except.map]

/-- A list is worked through exactly if each of its elements is. -/
theorem mapM_eq_ok {f : α → Except ε β} {xs : List α} {ys : List β} :
    xs.mapM f = .ok ys ↔ xs.map f = ys.map .ok := by
  induction xs generalizing ys with
  | nil => cases ys <;> simp [pure, Except.pure]
  | cons x xs ih =>
    rw [List.mapM_cons, bind_eq_ok]
    constructor
    · rintro ⟨y, hy, h⟩
      obtain ⟨later, hlater, h⟩ := bind_eq_ok.1 h
      cases h
      simp [hy, ih.1 hlater]
    · intro h
      cases ys with
      | nil => simp at h
      | cons y later =>
        simp only [List.map_cons, List.cons.injEq] at h
        refine ⟨y, h.1, bind_eq_ok.2 ⟨later, ih.2 h.2, rfl⟩⟩

/-- A list passes a check exactly if each of its elements does. -/
theorem forM_eq_ok {f : α → Except ε Unit} {xs : List α} :
    xs.forM f = .ok () ↔ ∀ x ∈ xs, f x = .ok () := by
  induction xs with
  | nil => exact ⟨fun _ => by simp, fun _ => rfl⟩
  | cons x rest ih =>
    have hcons : (x :: rest).forM f = f x >>= fun _ => rest.forM f := rfl
    rw [hcons, bind_eq_ok, List.forall_mem_cons, ← ih]
    constructor
    · rintro ⟨_, hx, hrest⟩
      exact ⟨hx, hrest⟩
    · rintro ⟨hx, hrest⟩
      exact ⟨(), hx, hrest⟩

/-- A list that does not pass a check fails at one of its elements. -/
theorem forM_eq_error {f : α → Except ε Unit} {xs : List α} {e : ε}
    (h : xs.forM f = .error e) : ∃ x ∈ xs, f x = .error e := by
  induction xs with
  | nil => cases h
  | cons x rest ih =>
    rcases bind_eq_error.1 h with hx | ⟨_, -, hrest⟩
    · exact ⟨x, List.mem_cons_self, hx⟩
    · obtain ⟨y, hy, hfails⟩ := ih hrest
      exact ⟨y, List.mem_cons_of_mem x hy, hfails⟩

/-! ## Kinds of failures -/

/-- A computation fails with failures of one kind only. -/
def FailsOnly (P : ε → Prop) (x : Except ε α) : Prop := ∀ e, x = .error e → P e

namespace FailsOnly

variable {P : ε → Prop}

theorem ok (a : α) : FailsOnly P (.ok a) := fun _ he => nomatch he

theorem error {e : ε} (h : P e) : FailsOnly P (.error e : Except ε α) := by
  rintro _ ⟨⟩
  exact h

/-- A computation in two parts fails only as its parts do. -/
theorem bind {x : Except ε α} {f : α → Except ε β} (hx : FailsOnly P x)
    (hf : ∀ a, x = .ok a → FailsOnly P (f a)) : FailsOnly P (x >>= f) := by
  intro e he
  rcases bind_eq_error.1 he with he | ⟨a, ha, he⟩
  · exact hx e he
  · exact hf a ha e he

/-- A check that is passed, or fails as it says. -/
theorem check {p : Prop} [Decidable p] {e : ε} {rest : Unit → Except ε α} (he : P e)
    (hrest : FailsOnly P (rest ())) :
    FailsOnly P (if p then (throw e : Except ε Unit) >>= rest else rest ()) := by
  split
  · exact error he
  · exact hrest

theorem map {x : Except ε α} (f : α → β) (hx : FailsOnly P x) : FailsOnly P (x.map f) := by
  cases x with
  | ok a => exact ok (f a)
  | error e => exact error (hx e rfl)

/-- A list of computations fails only as each of them does. -/
theorem mapM {f : α → Except ε β} (hf : ∀ a, FailsOnly P (f a)) (xs : List α) :
    FailsOnly P (xs.mapM f) := by
  induction xs with
  | nil => exact ok []
  | cons x later ih =>
    rw [List.mapM_cons]
    exact (hf x).bind fun y _ => ih.bind fun ys _ => ok (y :: ys)

end FailsOnly

/-- A computation that succeeds has a value. -/
theorem exists_eq_ok_of_isOk {x : Except ε α} (h : x.isOk = true) : ∃ a, x = .ok a := by
  cases x with
  | error e => simp [Except.isOk, Except.toBool] at h
  | ok a => exact ⟨a, rfl⟩

/-- Reading input keeps the values of other computations. -/
theorem Input.ofExcept_eq_ok {x : Except Failure α} {a : α} :
    Input.ofExcept x = .ok a ↔ x = .ok a := by
  cases x <;> simp [Input.ofExcept]

end DevnetChaos
