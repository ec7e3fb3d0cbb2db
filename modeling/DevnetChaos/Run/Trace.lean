import DevnetChaos.Run.Call

/-!
# Traces

What a run does to the systems around it is the list of its calls with the answers it was given.
A path reads such a list off the tree of the run alone, whatever gave the answers; every path is
the trace of an execution and every execution leaves a path, so a statement about all paths is a
statement about every behaviour of the systems around.

Main definitions:

- `Exchange`: a call and its answer.
- `Run.Path`: the exchanges along one branch of a run, and the outcome there.
- `Run.trace`: the exchanges of a run under an environment.
- `replay`: the environment that gives the answers of a list.

Main results:

- `path_trace`: the trace of an execution is a path to its outcome.
- `execute_replay`, `trace_replay`: a path is the trace of an execution.
- `path_bind`: a path of a run in two parts.
-/

namespace DevnetChaos

/-- A call and its answer; there is none if the run was left while it waited for it. -/
structure Exchange where
  call : Call
  answer : Option call.Answer

namespace Run

variable {α β σ : Type}

/-! ## Paths -/

/-- The exchanges along one branch of a run, and the outcome at its end. -/
inductive Path : Run α → List Exchange → Outcome α → Prop where
  | ended (outcome : Outcome α) : Path (.ended outcome) [] outcome
  | answered {c : Call} {next : c.Answer → Run α} {answer : c.Answer} {rest : List Exchange}
      {outcome : Outcome α} :
      Path (next answer) rest outcome → Path (.call c next) (⟨c, some answer⟩ :: rest) outcome
  | unanswered {c : Call} {next : c.Answer → Run α} :
      Path (.call c next) [⟨c, none⟩] .abandoned

/-- A path of a run in two parts ends in the first part, or goes through both. -/
theorem path_bind {r : Run α} {f : α → Run β} {exchanges : List Exchange} {outcome : Outcome β}
    (h : Path (r >>= f) exchanges outcome) :
    (∃ failure, Path r exchanges (.failed failure) ∧ outcome = .failed failure) ∨
      (Path r exchanges .abandoned ∧ outcome = .abandoned) ∨
      ∃ a before after, Path r before (.done a) ∧ Path (f a) after outcome ∧
        exchanges = before ++ after := by
  induction r generalizing exchanges with
  | ended first =>
    cases first with
    | done a => exact .inr (.inr ⟨a, [], exchanges, .ended _, h, rfl⟩)
    | failed failure => cases h; exact .inl ⟨failure, .ended _, rfl⟩
    | abandoned => cases h; exact .inr (.inl ⟨.ended _, rfl⟩)
  | call c next ih =>
    rw [call_bind] at h
    cases h with
    | unanswered => exact .inr (.inl ⟨.unanswered, rfl⟩)
    | answered h =>
      rcases ih _ h with ⟨failure, h, e⟩ | ⟨h, e⟩ | ⟨a, before, after, h, h', e⟩
      · exact .inl ⟨failure, .answered h, e⟩
      · exact .inr (.inl ⟨.answered h, e⟩)
      · exact .inr (.inr ⟨a, _, after, .answered h, h', by rw [e, List.cons_append]⟩)

/-! ## Traces of executions -/

/-- The exchanges of a run under an environment that starts in a state. -/
def trace (env : Environment σ) : Run α → σ → List Exchange
  | ended _, _ => []
  | call c next, s =>
      match env c s with
      | (some answer, s) => ⟨c, some answer⟩ :: (next answer).trace env s
      | (none, _) => [⟨c, none⟩]

/-- The trace of an execution is a path to its outcome. -/
theorem path_trace (env : Environment σ) (r : Run α) (s : σ) :
    Path r (r.trace env s) (r.execute env s).1 := by
  induction r generalizing s with
  | ended outcome => exact .ended outcome
  | call c next ih =>
    simp only [trace, execute]
    rcases env c s with ⟨_ | answer, s⟩
    · exact .unanswered
    · exact .answered (ih answer s)

end Run

/-! ## Replaying a path -/

/-- The environment that gives the answers of a list one after the other, and none when it is
asked for something else. -/
def replay : Environment (List Exchange)
  | _, [] => (none, [])
  | c, ⟨recorded, answer⟩ :: rest =>
      if h : recorded = c then (h ▸ answer, rest) else (none, rest)

@[simp] theorem replay_cons (c : Call) (answer : Option c.Answer) (rest : List Exchange) :
    replay c (⟨c, answer⟩ :: rest) = (answer, rest) := by
  simp [replay]

namespace Run

variable {α : Type}

/-- Replaying a path leads to its outcome. -/
theorem execute_replay {r : Run α} {exchanges : List Exchange} {outcome : Outcome α}
    (h : Path r exchanges outcome) : r.execute replay exchanges = (outcome, []) := by
  induction h with
  | ended outcome => rfl
  | answered _ ih => rw [execute, replay_cons]; exact ih
  | unanswered => rw [execute, replay_cons]

/-- Replaying a path leaves the same trace. -/
theorem trace_replay {r : Run α} {exchanges : List Exchange} {outcome : Outcome α}
    (h : Path r exchanges outcome) : r.trace replay exchanges = exchanges := by
  induction h with
  | ended outcome => rfl
  | answered _ ih => rw [trace, replay_cons]; exact congrArg _ ih
  | unanswered => rw [trace, replay_cons]

end Run

end DevnetChaos
