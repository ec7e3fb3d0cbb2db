import DevnetChaos.Run.Call

/-!
# Runs that succeed

A run succeeds in a state of its environment if it comes to a value.  What then holds of the value
and of the state after it is put together from what holds after the parts of the run.

Main definitions:

- `Run.Succeeds`: a run comes to a value and a state with a property.

Main results:

- `Run.Succeeds.bind`: a run in two parts succeeds if both parts do.
- `Run.Succeeds.attempt`: a run that succeeds has no failure to go on after.
-/

namespace DevnetChaos
namespace Run

variable {α β σ : Type} {env : Environment σ} {s : σ}

/-- A run that begins with a call goes on from its answer. -/
theorem execute_call {c : Call} {next : c.Answer → Run α} {answer : c.Answer} {s' : σ}
    (hanswer : env c s = (some answer, s')) :
    (call c next).execute env s = (next answer).execute env s' := by
  rw [execute, hanswer]

/-- A run in two parts comes to a value when both parts do. -/
theorem execute_bind_done {r : Run α} {f : α → Run β} {b : β} {s' : σ}
    (h : (r >>= f).execute env s = (.done b, s')) :
    ∃ a s₁, r.execute env s = (.done a, s₁) ∧ (f a).execute env s₁ = (.done b, s') := by
  rw [execute_bind] at h
  split at h
  · next a s₁ hfirst => exact ⟨a, s₁, hfirst, h⟩
  · cases h
  · cases h

/-- A run goes on from the value of its first part. -/
theorem execute_bind_of_done {r : Run α} {f : α → Run β} {a : α} {s' : σ}
    (h : r.execute env s = (.done a, s')) : (r >>= f).execute env s = (f a).execute env s' := by
  rw [execute_bind, h]

/-- A run comes to a value, and the value and the state after it have a property. -/
def Succeeds (env : Environment σ) (r : Run α) (s : σ) (Q : α → σ → Prop) : Prop :=
  ∃ a s', r.execute env s = (.done a, s') ∧ Q a s'

namespace Succeeds

variable {P Q : α → σ → Prop} {R : β → σ → Prop}

theorem pure {a : α} (h : Q a s) : Succeeds env (Pure.pure a : Run α) s Q :=
  ⟨a, s, rfl, h⟩

/-- A property may be replaced by a weaker one. -/
theorem mono {r : Run α} (h : Succeeds env r s P) (hPQ : ∀ a s', P a s' → Q a s') :
    Succeeds env r s Q := by
  obtain ⟨a, s', hexecute, hP⟩ := h
  exact ⟨a, s', hexecute, hPQ a s' hP⟩

/-- A run in two parts succeeds if its first part does, and its second part does after it. -/
theorem bind {r : Run α} {f : α → Run β} (hr : Succeeds env r s P)
    (hf : ∀ a s', P a s' → Succeeds env (f a) s' R) : Succeeds env (r >>= f) s R := by
  obtain ⟨a, s', hexecute, hP⟩ := hr
  obtain ⟨b, s'', hlater, hR⟩ := hf a s' hP
  refine ⟨b, s'', ?_, hR⟩
  rw [execute_bind, hexecute]
  exact hlater

theorem call {c : Call} {next : c.Answer → Run α} {answer : c.Answer} {s' : σ}
    (hanswer : env c s = (some answer, s')) (hnext : Succeeds env (next answer) s' Q) :
    Succeeds env (.call c next) s Q := by
  obtain ⟨a, s'', hexecute, hQ⟩ := hnext
  exact ⟨a, s'', (execute_call hanswer).trans hexecute, hQ⟩

/-- A computation that has a value is a run that succeeds. -/
theorem ofExcept {x : Except Failure α} {a : α} (hx : x = .ok a) (h : Q a s) :
    Succeeds env (Run.ofExcept x) s Q := by
  rw [hx]
  exact ⟨a, s, rfl, h⟩

end Succeeds

/-- What a run comes to when it goes on after a failure as well. -/
theorem execute_attempt (env : Environment σ) (r : Run α) (s : σ) :
    r.attempt.execute env s =
      match r.execute env s with
      | (.done a, s) => (.done (.ok a), s)
      | (.failed failure, s) => (.done (.error failure), s)
      | (.abandoned, s) => (.abandoned, s) := by
  induction r generalizing s with
  | ended outcome => cases outcome <;> rfl
  | call c next ih =>
    rw [attempt, execute, execute]
    split
    · exact ih _ _
    · rfl

/-- A run that succeeds has no failure to go on after. -/
theorem Succeeds.attempt {r : Run α} {Q : α → σ → Prop} (h : Succeeds env r s Q) :
    Succeeds env r.attempt s fun x s' => ∃ a, x = .ok a ∧ Q a s' := by
  obtain ⟨a, s', hexecute, hQ⟩ := h
  refine ⟨.ok a, s', ?_, a, rfl, hQ⟩
  rw [execute_attempt, hexecute]

end Run
end DevnetChaos
