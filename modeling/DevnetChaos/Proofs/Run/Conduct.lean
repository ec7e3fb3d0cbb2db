import DevnetChaos.Run.Trace

/-!
# How runs conduct themselves

What a run does is judged by its paths, so for every behaviour of the systems around it.  Some
statements are about single calls: there are calls that a run never makes.  Others are about a call
and everything before it.  Those are rules on the history of a call, which a run upholds as long as
the answers that it is given keep to what it relies on.

Main definitions:

- `Run.Only`: a run makes only allowed calls.
- `Run.Gives`: every value of a run has a property.
- `Throughout`: a statement about every exchange and its history.
- `Run.Upholds`: a run upholds a rule, and its value and history have a property.

Main results:

- `Run.Only.path`, `Run.Gives.path`, `Run.Upholds.path`: what these judgments say about paths.
- `Run.Only.bind`, `Run.Gives.bind`, `Run.Upholds.bind`: a run in two parts.
- `Run.Only.keeps`, `Run.trace_keeps`: what the calls of a run keep, the run keeps.
-/

namespace DevnetChaos

/-! ## Histories -/

/-- Every exchange of a list has a property together with its history, which begins with the
exchanges before the list. -/
def Throughout (P : List Exchange → Exchange → Prop) (past exchanges : List Exchange) : Prop :=
  ∀ before x after, exchanges = before ++ x :: after → P (past ++ before) x

section Throughout

variable {P : List Exchange → Exchange → Prop} {past : List Exchange}

theorem throughout_nil : Throughout P past [] := by
  intro before x after h
  simp at h

/-- The first exchange has the history of the list, and is part of the history of the others. -/
theorem throughout_cons {x : Exchange} {rest : List Exchange} :
    Throughout P past (x :: rest) ↔ P past x ∧ Throughout P (past ++ [x]) rest := by
  constructor
  · intro h
    refine ⟨by simpa using h [] x rest rfl, ?_⟩
    intro before y after hrest
    simpa using h (x :: before) y after (by rw [hrest, List.cons_append])
  · rintro ⟨hx, hrest⟩ before y after heq
    rcases List.cons_eq_append_iff.1 heq with ⟨rfl, h⟩ | ⟨earlier, rfl, h⟩
    · cases h
      simpa using hx
    · simpa using hrest earlier y after h

/-- The last exchange has all others in its history. -/
theorem throughout_concat {earlier : List Exchange} {x : Exchange} :
    Throughout P past (earlier ++ [x]) ↔ Throughout P past earlier ∧ P (past ++ earlier) x := by
  induction earlier generalizing past with
  | nil => simp [throughout_cons, throughout_nil]
  | cons y rest ih =>
    rw [List.cons_append, throughout_cons, throughout_cons, ih, and_assoc, List.append_assoc,
      List.singleton_append]

/-- Exchanges may be judged by themselves as well. -/
theorem Throughout.and_forall {exchanges : List Exchange} {R : Exchange → Prop}
    (h : Throughout P past exchanges) (hR : ∀ x ∈ exchanges, R x) :
    Throughout (fun before x => P before x ∧ R x) past exchanges :=
  fun before x after heq => ⟨h before x after heq, hR x (by simp [heq])⟩

end Throughout

namespace Run

variable {α β γ : Type}

/-- Three parts of a run may be taken together in either way. -/
theorem bind_assoc (r : Run α) (f : α → Run β) (g : β → Run γ) :
    r >>= f >>= g = r >>= fun a => f a >>= g := by
  induction r with
  | ended outcome => cases outcome <;> rfl
  | call c next ih => exact congrArg (Run.call c) (funext ih)

/-- A run that begins with a call leaves its exchange and goes on from its answer. -/
theorem trace_call {σ : Type} {env : Environment σ} {s s' : σ} {c : Call} {answer : c.Answer}
    {next : c.Answer → Run α} (hanswer : env c s = (some answer, s')) :
    (call c next).trace env s = ⟨c, some answer⟩ :: (next answer).trace env s' := by
  rw [trace, hanswer]

/-- What is true of a history and a state of an environment stays true along a run whose exchanges
keep a rule, if it does so along every single exchange that keeps it. -/
theorem trace_keeps {σ : Type} {env : Environment σ} {rule : List Exchange → Exchange → Prop}
    {J : List Exchange → σ → Prop} {past : List Exchange} {s : σ} {r : Run α}
    (hstep : ∀ past c s, rule past ⟨c, (env c s).1⟩ → J past s →
      J (past ++ [⟨c, (env c s).1⟩]) (env c s).2)
    (h : Throughout rule past (r.trace env s)) (hs : J past s) :
    J (past ++ r.trace env s) (r.execute env s).2 := by
  induction r generalizing past s with
  | ended outcome =>
    rw [trace, List.append_nil]
    exact hs
  | call c next ih =>
    have hcall := hstep past c s
    rw [trace] at h ⊢
    rw [execute]
    rcases hanswer : env c s with ⟨_ | answer, s'⟩
    · rw [hanswer] at hcall h
      exact hcall (throughout_cons.1 h).1 hs
    · rw [hanswer] at hcall h
      obtain ⟨hrule, hlater⟩ := throughout_cons.1 h
      have hrest := ih answer hlater (hcall hrule hs)
      rwa [List.append_assoc, List.singleton_append] at hrest

/-! ## Calls that a run makes -/

/-- Every call of a run is allowed, whatever it is told. -/
def Only (allowed : Call → Prop) : Run α → Prop
  | ended _ => True
  | call c next => allowed c ∧ ∀ answer, (next answer).Only allowed

namespace Only

variable {allowed : Call → Prop} {r : Run α}

/-- All exchanges on a path are about allowed calls. -/
theorem path {exchanges : List Exchange} {outcome : Outcome α} (h : r.Only allowed)
    (hpath : Path r exchanges outcome) : ∀ x ∈ exchanges, allowed x.call := by
  induction hpath with
  | ended => simp
  | answered _ ih =>
    rw [List.forall_mem_cons]
    exact ⟨h.1, ih (h.2 _)⟩
  | unanswered => simpa using h.1

/-- What every allowed call keeps true of the state of an environment is still true after the
run. -/
theorem keeps {σ : Type} {env : Environment σ} {I : σ → Prop} {s : σ} (h : r.Only allowed)
    (hkeep : ∀ c s, allowed c → I s → I (env c s).2) (hs : I s) : I (r.execute env s).2 := by
  induction r generalizing s with
  | ended outcome => exact hs
  | call c next ih =>
    have hcall := hkeep c s h.1 hs
    rw [Run.execute]
    split
    · next answer s' hanswer =>
      rw [hanswer] at hcall
      exact ih answer (h.2 answer) hcall
    · next s' hanswer =>
      rw [hanswer] at hcall
      exact hcall

/-- Nothing is claimed about the calls. -/
theorem any (r : Run α) : r.Only fun _ => True := by
  induction r with
  | ended outcome => trivial
  | call c next ih => exact ⟨trivial, ih⟩

/-- What a run may call may be widened. -/
theorem mono {permitted : Call → Prop} (h : r.Only allowed)
    (hallowed : ∀ c, allowed c → permitted c) : r.Only permitted := by
  induction r with
  | ended => trivial
  | call c next ih => exact ⟨hallowed c h.1, fun answer => ih answer (h.2 answer)⟩

theorem pure (a : α) : (Pure.pure a : Run α).Only allowed := trivial

theorem fail (failure : Failure) : (Run.fail failure : Run α).Only allowed := trivial

theorem ofExcept (x : Except Failure α) : (Run.ofExcept x).Only allowed := by
  cases x <;> trivial

/-- A run in two parts makes only allowed calls if both parts do. -/
theorem bind {f : α → Run β} (h : r.Only allowed) (hf : ∀ a, (f a).Only allowed) :
    (r >>= f).Only allowed := by
  induction r with
  | ended outcome =>
    cases outcome with
    | done a => exact hf a
    | failed => trivial
    | abandoned => trivial
  | call c next ih => exact ⟨h.1, fun answer => ih answer (h.2 answer)⟩

/-- A run whose failure is caught makes the same calls. -/
theorem attempt (h : r.Only allowed) : r.attempt.Only allowed := by
  induction r with
  | ended outcome => cases outcome <;> trivial
  | call c next ih => exact ⟨h.1, fun answer => ih answer (h.2 answer)⟩

/-- A call whose answer is the value of the run. -/
theorem ask {c : Call} {next : c.Answer → Run α} (hc : allowed c)
    (hnext : ∀ answer, (next answer).Only allowed) : (Run.call c next).Only allowed :=
  ⟨hc, hnext⟩

/-- A wait is a single pause. -/
theorem sleep (hpause : ∀ millis, allowed (.pause millis)) (duration : Duration)
    (operation : String) : (Run.sleep duration operation).Only allowed := by
  refine bind (ask (hpause _) fun _ => trivial) fun how => ?_
  cases how <;> trivial

end Only

/-! ## Values that a run comes to -/

/-- Every value of a run has a property, whatever it is told. -/
def Gives (Q : α → Prop) : Run α → Prop
  | ended (.done a) => Q a
  | ended (.failed _) => True
  | ended .abandoned => True
  | call _ next => ∀ answer, (next answer).Gives Q

namespace Gives

variable {P Q : α → Prop} {r : Run α}

theorem pure {a : α} (h : Q a) : (Pure.pure a : Run α).Gives Q := h

theorem fail {failure : Failure} : (Run.fail failure : Run α).Gives Q := trivial

/-- The property of the values may be replaced by a weaker one. -/
theorem mono (h : r.Gives P) (hPQ : ∀ a, P a → Q a) : r.Gives Q := by
  induction r with
  | ended outcome =>
    cases outcome with
    | done a => exact hPQ a h
    | failed => trivial
    | abandoned => trivial
  | call c next ih => exact fun answer => ih answer (h answer)

/-- Nothing is claimed about the value. -/
theorem any (r : Run α) : r.Gives fun _ => True := by
  induction r with
  | ended outcome => cases outcome <;> trivial
  | call c next ih => exact ih

/-- The values of a run in two parts are those of its second part. -/
theorem bind {f : α → Run β} {R : β → Prop} (h : r.Gives P) (hf : ∀ a, P a → (f a).Gives R) :
    (r >>= f).Gives R := by
  induction r with
  | ended outcome =>
    cases outcome with
    | done a => exact hf a h
    | failed => trivial
    | abandoned => trivial
  | call c next ih => exact fun answer => ih answer (h answer)

/-- The value at the end of a path has the property. -/
theorem path {exchanges : List Exchange} {a : α} (h : r.Gives Q)
    (hpath : Path r exchanges (.done a)) : Q a := by
  generalize hended : Outcome.done a = outcome at hpath
  induction hpath with
  | ended => subst hended; exact h
  | answered _ ih => exact ih (h _) hended
  | unanswered => cases hended

/-- The value of an execution has the property. -/
theorem execute {σ : Type} {env : Environment σ} {s s' : σ} {a : α} (h : r.Gives Q)
    (hexecute : r.execute env s = (.done a, s')) : Q a := by
  have hpath := path_trace env r s
  rw [hexecute] at hpath
  exact h.path hpath

end Gives

/-! ## Rules on histories -/

/-- A run upholds a rule: after a history, and whatever it is told as long as it can be relied on,
each of its calls is allowed by the rule, and its value and history have a property in the end. -/
def Upholds (rely : List Exchange → Exchange → Prop) (rule : List Exchange → Call → Prop) :
    Run α → List Exchange → (α → List Exchange → Prop) → Prop
  | ended (.done a), past, Q => Q a past
  | ended (.failed _), _, _ => True
  | ended .abandoned, _, _ => True
  | call c next, past, Q =>
      rule past c ∧ ∀ answer, rely past ⟨c, some answer⟩ →
        (next answer).Upholds rely rule (past ++ [⟨c, some answer⟩]) Q

namespace Upholds

variable {rely : List Exchange → Exchange → Prop} {rule : List Exchange → Call → Prop}
variable {r : Run α} {past : List Exchange} {P Q : α → List Exchange → Prop}

theorem pure {a : α} (h : Q a past) : (Pure.pure a : Run α).Upholds rely rule past Q := h

theorem fail {failure : Failure} : (Run.fail failure : Run α).Upholds rely rule past Q := trivial

/-- The property at the end may be replaced by a weaker one. -/
theorem mono (h : r.Upholds rely rule past P) (hPQ : ∀ a past', P a past' → Q a past') :
    r.Upholds rely rule past Q := by
  induction r generalizing past with
  | ended outcome =>
    cases outcome with
    | done a => exact hPQ a past h
    | failed => trivial
    | abandoned => trivial
  | call c next ih => exact ⟨h.1, fun answer hanswer => ih answer (h.2 answer hanswer)⟩

/-- The second part of a run begins with the history that its first part leaves. -/
theorem bind {f : α → Run β} {R : β → List Exchange → Prop} (h : r.Upholds rely rule past P)
    (hf : ∀ a past', P a past' → (f a).Upholds rely rule past' R) :
    (r >>= f).Upholds rely rule past R := by
  induction r generalizing past with
  | ended outcome =>
    cases outcome with
    | done a => exact hf a past h
    | failed => trivial
    | abandoned => trivial
  | call c next ih => exact ⟨h.1, fun answer hanswer => ih answer (h.2 answer hanswer)⟩

/-- A single call is allowed, and what follows goes by the answers that can be relied on. -/
theorem ask {c : Call} {next : c.Answer → Run α} (hc : rule past c)
    (hnext : ∀ answer, rely past ⟨c, some answer⟩ →
      (next answer).Upholds rely rule (past ++ [⟨c, some answer⟩]) Q) :
    (Run.call c next).Upholds rely rule past Q :=
  ⟨hc, hnext⟩

/-- A run whose failure is caught makes the same calls, and has the same value if it has one. -/
theorem attempt (h : r.Upholds rely rule past Q) :
    r.attempt.Upholds rely rule past fun result past' => ∀ a, result = .ok a → Q a past' := by
  induction r generalizing past with
  | ended outcome =>
    cases outcome with
    | done a =>
      rintro _ ⟨⟩
      exact h
    | failed failure =>
      rintro _ ⟨⟩
    | abandoned => trivial
  | call c next ih => exact ⟨h.1, fun answer hanswer => ih answer (h.2 answer hanswer)⟩

/-- What all values of a run have in common may be used as well. -/
theorem gives {V : α → Prop} (h : r.Upholds rely rule past Q) (hvalues : r.Gives V) :
    r.Upholds rely rule past fun a past' => V a ∧ Q a past' := by
  induction r generalizing past with
  | ended outcome =>
    cases outcome with
    | done a => exact ⟨hvalues, h⟩
    | failed => trivial
    | abandoned => trivial
  | call c next ih =>
    exact ⟨h.1, fun answer hanswer => ih answer (h.2 answer hanswer) (hvalues answer)⟩

/-- The value and the history at the end are those of a path. -/
theorem along (h : r.Upholds rely rule past Q) : r.Upholds rely rule past fun a past' =>
    Q a past' ∧ ∃ exchanges, past' = past ++ exchanges ∧ Path r exchanges (.done a) := by
  induction r generalizing past with
  | ended outcome =>
    cases outcome with
    | done a => exact ⟨h, [], (List.append_nil past).symm, .ended _⟩
    | failed => trivial
    | abandoned => trivial
  | call c next ih =>
    refine ⟨h.1, fun answer hanswer => (ih answer (h.2 answer hanswer)).mono ?_⟩
    rintro a _ ⟨hQ, exchanges, rfl, hpath⟩
    exact ⟨hQ, ⟨c, some answer⟩ :: exchanges, List.append_assoc .., .answered hpath⟩

/-- On a path with answers that can be relied on, the rule allows every call, and a value has the
property at the end. -/
theorem path {exchanges : List Exchange} {outcome : Outcome α} (h : r.Upholds rely rule past Q)
    (hpath : Path r exchanges outcome) (hrely : Throughout rely past exchanges) :
    Throughout (fun before x => rule before x.call) past exchanges ∧
      ∀ a, outcome = .done a → Q a (past ++ exchanges) := by
  induction hpath generalizing past with
  | ended outcome =>
    refine ⟨throughout_nil, ?_⟩
    rintro a rfl
    rw [List.append_nil]
    exact h
  | @answered c next answer rest outcome _ ih =>
    obtain ⟨hanswer, hlater⟩ := throughout_cons.1 hrely
    obtain ⟨hrule, hQ⟩ := ih (h.2 answer hanswer) hlater
    refine ⟨throughout_cons.2 ⟨h.1, hrule⟩, fun a ha => ?_⟩
    simpa using hQ a ha
  | unanswered => exact ⟨throughout_cons.2 ⟨h.1, throughout_nil⟩, fun a ha => by cases ha⟩

end Upholds
end Run
end DevnetChaos
