import Mathlib.Tactic

/-!
# Programs that call their surroundings

A program is a tree of calls, each answered by the surroundings before the program goes on. A
run is given by its trace, the calls with their answers. On top of it stand statements with
mutable state and exceptions, where an exception keeps the state and the calls made before it.
Each construct has one rule for its runs, an equivalence that splits the trace.
-/

namespace Interaction

/-- Programs over the calls `Op`; the answer to `op` is any value of `Ans op`. -/
inductive Prog (Op : Type) (Ans : Op → Type) (α : Type)
  | ret (a : α)
  | call (op : Op) (k : Ans op → Prog Op Ans α)

/-- The calls of a run with their answers, oldest first. -/
abbrev Trace (Op : Type) (Ans : Op → Type) := List ((op : Op) × Ans op)

variable {Op : Type} {Ans : Op → Type} {α β σ χ : Type}

namespace Prog

def bind : Prog Op Ans α → (α → Prog Op Ans β) → Prog Op Ans β
  | ret a, f => f a
  | call op k, f => call op (fun r => (k r).bind f)

instance : Monad (Prog Op Ans) where
  pure := ret
  bind := bind

def ask (op : Op) : Prog Op Ans (Ans op) := call op ret

/-- `p.Runs t a`: with the calls and answers `t` the program `p` returns `a`. -/
inductive Runs : Prog Op Ans α → Trace Op Ans → α → Prop
  | ret (a : α) : Runs (ret a) [] a
  | call {op : Op} {k : Ans op → Prog Op Ans α} {r : Ans op} {t : Trace Op Ans} {a : α} :
      Runs (k r) t a → Runs (call op k) (⟨op, r⟩ :: t) a

section

variable {p : Prog Op Ans α} {f : α → Prog Op Ans β} {op : Op} {k : Ans op → Prog Op Ans α}
  {t : Trace Op Ans} {a b : α}

lemma runs_ret : Runs (.ret a : Prog Op Ans α) t b ↔ t = [] ∧ b = a := by
  constructor
  · intro h
    cases h
    exact ⟨rfl, rfl⟩
  · rintro ⟨rfl, rfl⟩
    exact Runs.ret b

lemma runs_call : Runs (.call op k) t a ↔ ∃ r t', t = ⟨op, r⟩ :: t' ∧ Runs (k r) t' a := by
  constructor
  · intro h
    cases h with
    | call h => exact ⟨_, _, rfl, h⟩
  · rintro ⟨r, t', rfl, h⟩
    exact h.call

lemma runs_bind {b : β} :
    Runs (p >>= f) t b ↔ ∃ t₁ t₂ a, t = t₁ ++ t₂ ∧ Runs p t₁ a ∧ Runs (f a) t₂ b := by
  change Runs (p.bind f) t b ↔ _
  induction p generalizing t with
  | ret a =>
    constructor
    · intro h
      exact ⟨[], t, a, rfl, Runs.ret a, h⟩
    · rintro ⟨t₁, t₂, a', rfl, h₁, h₂⟩
      obtain ⟨rfl, rfl⟩ := runs_ret.mp h₁
      exact h₂
  | call op k ih =>
    constructor
    · intro h
      obtain ⟨r, t', rfl, h'⟩ := runs_call.mp h
      obtain ⟨t₁, t₂, a, rfl, h₁, h₂⟩ := (ih r).mp h'
      exact ⟨⟨op, r⟩ :: t₁, t₂, a, rfl, h₁.call, h₂⟩
    · rintro ⟨t₁, t₂, a, rfl, h₁, h₂⟩
      obtain ⟨r, t', rfl, h'⟩ := runs_call.mp h₁
      exact Runs.call ((ih r).mpr ⟨t', t₂, a, rfl, h', h₂⟩)

/-- Calls that can be answered lead to the end. -/
lemma exists_runs [∀ op, Nonempty (Ans op)] (p : Prog Op Ans α) : ∃ t a, p.Runs t a := by
  induction p with
  | ret a => exact ⟨[], a, Runs.ret a⟩
  | call op k ih =>
    obtain ⟨r⟩ := ‹∀ op, Nonempty (Ans op)› op
    obtain ⟨t, a, h⟩ := ih r
    exact ⟨⟨op, r⟩ :: t, a, h.call⟩

end

/-! ### One call at a time -/

/-- `p.Reaches t q`: after the calls `t` of `p` there remains `q`. -/
inductive Reaches (p : Prog Op Ans α) : Trace Op Ans → Prog Op Ans α → Prop
  | start : Reaches p [] p
  | answered {t : Trace Op Ans} {op : Op} {k : Ans op → Prog Op Ans α} (r : Ans op) :
      Reaches p t (call op k) → Reaches p (t ++ [⟨op, r⟩]) (k r)

theorem Reaches.runs {p q : Prog Op Ans α} {t t' : Trace Op Ans} {a : α} (h : p.Reaches t q)
    (hq : q.Runs t' a) : p.Runs (t ++ t') a := by
  induction h generalizing t' with
  | start => exact hq
  | answered r _ ih =>
    rw [List.append_assoc]
    exact ih hq.call

/-- A finished program has made a run. -/
lemma Reaches.runs_of_ret {p : Prog Op Ans α} {t : Trace Op Ans} {a : α}
    (h : p.Reaches t (.ret a)) : p.Runs t a := by
  have hrun := h.runs (Runs.ret a)
  rwa [List.append_nil] at hrun

end Prog

/-! ### Statements -/

/-- Statements over a mutable state `σ` that may raise `χ`. -/
abbrev Proc (σ Op : Type) (Ans : Op → Type) (χ : Type) : Type → Type :=
  ExceptT χ (StateT σ (Prog Op Ans))

/-- The program of a statement started in `s`. -/
def Proc.start (x : Proc σ Op Ans χ α) (s : σ) : Prog Op Ans (Except χ α × σ) :=
  x.run.run s

/-- The call `op`. -/
def perform (op : Op) : Proc σ Op Ans χ (Ans op) :=
  ExceptT.lift (StateT.lift (Prog.ask op))

/-- A computed value or exception. -/
def evaluate (r : Except χ α) : Proc σ Op Ans χ α :=
  ExceptT.mk (pure r)

/-- `try: x finally: fin`; an exception of `fin` replaces the result of `x`. -/
def withFinally (x : Proc σ Op Ans χ α) (fin : Proc σ Op Ans χ Unit) : Proc σ Op Ans χ α :=
  ExceptT.mk (do
    let r ← x.run
    match ← fin.run with
    | .ok _ => pure r
    | .error e => pure (.error e))

/-- `Exec x s t r s'`: from `s` the statement `x` makes the calls `t`, ends with `r` and
leaves `s'`. -/
def Exec (x : Proc σ Op Ans χ α) (s : σ) (t : Trace Op Ans) (r : Except χ α) (s' : σ) : Prop :=
  (x.start s).Runs t (r, s')

section Rules

variable {s s' : σ} {t : Trace Op Ans} {a : α} {e : χ} {op : Op}

lemma exec_evaluate {x r : Except χ α} :
    Exec (evaluate x : Proc σ Op Ans χ α) s t r s' ↔ t = [] ∧ r = x ∧ s' = s := by
  unfold Exec
  change Prog.Runs (.ret (x, s)) t (r, s') ↔ _
  rw [Prog.runs_ret, Prod.mk.injEq]

lemma exec_pure {r : Except χ α} :
    Exec (pure a : Proc σ Op Ans χ α) s t r s' ↔ t = [] ∧ r = .ok a ∧ s' = s :=
  exec_evaluate (x := .ok a)

lemma exec_throw {r : Except χ α} :
    Exec (throw e : Proc σ Op Ans χ α) s t r s' ↔ t = [] ∧ r = .error e ∧ s' = s :=
  exec_evaluate (x := .error e)

lemma exec_perform {r : Except χ (Ans op)} :
    Exec (perform op : Proc σ Op Ans χ (Ans op)) s t r s' ↔
      ∃ a, t = [⟨op, a⟩] ∧ r = .ok a ∧ s' = s := by
  unfold Exec
  change Prog.Runs (.call op fun a => .ret (.ok a, s)) t (r, s') ↔ _
  rw [Prog.runs_call]
  constructor
  · rintro ⟨a, t', rfl, h⟩
    obtain ⟨rfl, heq⟩ := Prog.runs_ret.mp h
    obtain ⟨rfl, rfl⟩ := Prod.mk.inj heq
    exact ⟨a, rfl, rfl, rfl⟩
  · rintro ⟨a, rfl, rfl, rfl⟩
    exact ⟨a, [], rfl, Prog.Runs.ret _⟩

lemma exec_get {r : Except χ σ} :
    Exec (get : Proc σ Op Ans χ σ) s t r s' ↔ t = [] ∧ r = .ok s ∧ s' = s := by
  unfold Exec
  change Prog.Runs (.ret (.ok s, s)) t (r, s') ↔ _
  rw [Prog.runs_ret, Prod.mk.injEq]

lemma exec_modify {f : σ → σ} {r : Except χ PUnit} :
    Exec (modify f : Proc σ Op Ans χ PUnit) s t r s' ↔ t = [] ∧ r = .ok ⟨⟩ ∧ s' = f s := by
  unfold Exec
  change Prog.Runs (.ret (.ok ⟨⟩, f s)) t (r, s') ↔ _
  rw [Prog.runs_ret, Prod.mk.injEq]

lemma exec_bind {x : Proc σ Op Ans χ α} {f : α → Proc σ Op Ans χ β} {r : Except χ β} :
    Exec (x >>= f) s t r s' ↔
      (∃ e, Exec x s t (.error e) s' ∧ r = .error e) ∨
      ∃ t₁ t₂ a s₁, t = t₁ ++ t₂ ∧ Exec x s t₁ (.ok a) s₁ ∧ Exec (f a) s₁ t₂ r s' := by
  unfold Exec
  change Prog.Runs (x.start s >>= fun p => _) t (r, s') ↔ _
  rw [Prog.runs_bind]
  constructor
  · rintro ⟨t₁, t₂, ⟨r₁, s₁⟩, rfl, h₁, h₂⟩
    cases r₁ with
    | error e =>
      obtain ⟨rfl, heq⟩ := Prog.runs_ret.mp h₂
      obtain ⟨rfl, rfl⟩ := Prod.mk.inj heq
      rw [List.append_nil]
      exact Or.inl ⟨e, h₁, rfl⟩
    | ok a => exact Or.inr ⟨t₁, t₂, a, s₁, rfl, h₁, h₂⟩
  · rintro (⟨e, h, rfl⟩ | ⟨t₁, t₂, a, s₁, rfl, h₁, h₂⟩)
    · exact ⟨t, [], (.error e, s'), (List.append_nil t).symm, h, Prog.Runs.ret _⟩
    · exact ⟨t₁, t₂, (.ok a, s₁), rfl, h₁, h₂⟩

lemma exec_evaluate_bind {x : Except χ α} {f : α → Proc σ Op Ans χ β} {r : Except χ β} :
    Exec (evaluate x >>= f) s t r s' ↔
      (∃ e, x = .error e ∧ t = [] ∧ r = .error e ∧ s' = s) ∨
      ∃ a, x = .ok a ∧ Exec (f a) s t r s' := by
  rw [exec_bind]
  simp only [exec_evaluate]
  constructor
  · rintro (⟨e, ⟨rfl, he, rfl⟩, rfl⟩ | ⟨t₁, t₂, a, s₁, rfl, ⟨rfl, ha, rfl⟩, h⟩)
    · exact Or.inl ⟨e, he.symm, rfl, rfl, rfl⟩
    · exact Or.inr ⟨a, ha.symm, h⟩
  · rintro (⟨e, he, rfl, rfl, rfl⟩ | ⟨a, ha, h⟩)
    · exact Or.inl ⟨e, ⟨rfl, he.symm, rfl⟩, rfl⟩
    · exact Or.inr ⟨[], t, a, s, rfl, ⟨rfl, ha.symm, rfl⟩, h⟩

lemma exec_perform_bind {f : Ans op → Proc σ Op Ans χ β} {r : Except χ β} :
    Exec (perform op >>= f) s t r s' ↔ ∃ a t', t = ⟨op, a⟩ :: t' ∧ Exec (f a) s t' r s' := by
  rw [exec_bind]
  simp only [exec_perform]
  constructor
  · rintro (⟨e, ⟨a, rfl, he, rfl⟩, rfl⟩ | ⟨t₁, t₂, a, s₁, rfl, ⟨b, rfl, ha, rfl⟩, h⟩)
    · cases he
    · obtain rfl := Except.ok.inj ha
      exact ⟨a, t₂, rfl, h⟩
  · rintro ⟨a, t', rfl, h⟩
    exact Or.inr ⟨[⟨op, a⟩], t', a, s, rfl, ⟨a, rfl, rfl, rfl⟩, h⟩

lemma exec_get_bind {f : σ → Proc σ Op Ans χ β} {r : Except χ β} :
    Exec (get >>= f) s t r s' ↔ Exec (f s) s t r s' := by
  rw [exec_bind]
  simp only [exec_get]
  constructor
  · rintro (⟨e, ⟨-, he, -⟩, -⟩ | ⟨t₁, t₂, a, s₁, rfl, ⟨rfl, ha, rfl⟩, h⟩)
    · cases he
    · obtain rfl := Except.ok.inj ha
      exact h
  · intro h
    exact Or.inr ⟨[], t, s, s, rfl, ⟨rfl, rfl, rfl⟩, h⟩

lemma exec_modify_bind {g : σ → σ} {f : PUnit → Proc σ Op Ans χ β} {r : Except χ β} :
    Exec (modify g >>= f) s t r s' ↔ Exec (f ⟨⟩) (g s) t r s' := by
  rw [exec_bind]
  simp only [exec_modify]
  constructor
  · rintro (⟨e, ⟨-, he, -⟩, -⟩ | ⟨t₁, t₂, a, s₁, rfl, ⟨rfl, -, rfl⟩, h⟩)
    · cases he
    · exact h
  · intro h
    exact Or.inr ⟨[], t, ⟨⟩, g s, rfl, ⟨rfl, trivial, rfl⟩, h⟩

lemma exec_tryCatch {x : Proc σ Op Ans χ α} {h : χ → Proc σ Op Ans χ α} {r : Except χ α} :
    Exec (tryCatch x h) s t r s' ↔
      (∃ a, Exec x s t (.ok a) s' ∧ r = .ok a) ∨
      ∃ t₁ t₂ e s₁, t = t₁ ++ t₂ ∧ Exec x s t₁ (.error e) s₁ ∧ Exec (h e) s₁ t₂ r s' := by
  unfold Exec
  change Prog.Runs (x.start s >>= fun p => _) t (r, s') ↔ _
  rw [Prog.runs_bind]
  constructor
  · rintro ⟨t₁, t₂, ⟨r₁, s₁⟩, rfl, h₁, h₂⟩
    cases r₁ with
    | error e => exact Or.inr ⟨t₁, t₂, e, s₁, rfl, h₁, h₂⟩
    | ok a =>
      obtain ⟨rfl, heq⟩ := Prog.runs_ret.mp h₂
      obtain ⟨rfl, rfl⟩ := Prod.mk.inj heq
      rw [List.append_nil]
      exact Or.inl ⟨a, h₁, rfl⟩
  · rintro (⟨a, h, rfl⟩ | ⟨t₁, t₂, e, s₁, rfl, h₁, h₂⟩)
    · exact ⟨t, [], (.ok a, s'), (List.append_nil t).symm, h, Prog.Runs.ret _⟩
    · exact ⟨t₁, t₂, (.error e, s₁), rfl, h₁, h₂⟩

lemma exec_withFinally {x : Proc σ Op Ans χ α} {fin : Proc σ Op Ans χ Unit} {r : Except χ α} :
    Exec (withFinally x fin) s t r s' ↔
      ∃ t₁ t₂ r₁ s₁ r₂, t = t₁ ++ t₂ ∧ Exec x s t₁ r₁ s₁ ∧ Exec fin s₁ t₂ r₂ s' ∧
        r = r₂.bind (fun _ => r₁) := by
  unfold Exec
  change Prog.Runs (x.start s >>= fun p => fin.start p.2 >>= fun q => _) t (r, s') ↔ _
  rw [Prog.runs_bind]
  constructor
  · rintro ⟨t₁, t', ⟨r₁, s₁⟩, rfl, h₁, h'⟩
    obtain ⟨t₂, t₃, ⟨r₂, s₂⟩, rfl, h₂, h₃⟩ := Prog.runs_bind.mp h'
    cases r₂ with
    | ok u =>
      obtain ⟨rfl, heq⟩ := Prog.runs_ret.mp h₃
      obtain ⟨rfl, rfl⟩ := Prod.mk.inj heq
      exact ⟨t₁, t₂, r, s₁, .ok u, by rw [List.append_nil], h₁, h₂, rfl⟩
    | error e =>
      obtain ⟨rfl, heq⟩ := Prog.runs_ret.mp h₃
      obtain ⟨rfl, rfl⟩ := Prod.mk.inj heq
      exact ⟨t₁, t₂, r₁, s₁, .error e, by rw [List.append_nil], h₁, h₂, rfl⟩
  · rintro ⟨t₁, t₂, r₁, s₁, r₂, rfl, h₁, h₂, rfl⟩
    refine ⟨t₁, t₂, (r₁, s₁), rfl, h₁, ?_⟩
    refine Prog.runs_bind.mpr ⟨t₂, [], (r₂, s'), (List.append_nil t₂).symm, h₂, ?_⟩
    cases r₂ <;> exact Prog.Runs.ret _

end Rules

/-! ### Which calls a statement makes -/

/-- Every call of the statement satisfies `P`. -/
structure Uses (P : Op → Prop) (x : Proc σ Op Ans χ α) : Prop where
  calls : ∀ s t r s', Exec x s t r s' → ∀ c ∈ t, P c.1

namespace Uses

variable {P P' : Op → Prop} {x : Proc σ Op Ans χ α}

theorem mono (h : Uses P x) (hP : ∀ op, P op → P' op) : Uses P' x :=
  ⟨fun s t r s' hexec c hc => hP c.1 (h.calls s t r s' hexec c hc)⟩

theorem evaluate (v : Except χ α) : Uses P (evaluate v : Proc σ Op Ans χ α) := by
  constructor
  intro s t r s' h c hc
  obtain ⟨rfl, -, -⟩ := exec_evaluate.mp h
  cases hc

theorem pure (a : α) : Uses P (pure a : Proc σ Op Ans χ α) :=
  Uses.evaluate (.ok a)

theorem get : Uses P (get : Proc σ Op Ans χ σ) := by
  constructor
  intro s t r s' h c hc
  obtain ⟨rfl, -, -⟩ := exec_get.mp h
  cases hc

theorem modify (f : σ → σ) : Uses P (modify f : Proc σ Op Ans χ PUnit) := by
  constructor
  intro s t r s' h c hc
  obtain ⟨rfl, -, -⟩ := exec_modify.mp h
  cases hc

theorem perform {op : Op} (hop : P op) : Uses P (perform op : Proc σ Op Ans χ (Ans op)) := by
  constructor
  intro s t r s' h c hc
  obtain ⟨a, rfl, -, -⟩ := exec_perform.mp h
  obtain rfl := List.mem_singleton.mp hc
  exact hop

theorem bind {f : α → Proc σ Op Ans χ β} (hx : Uses P x) (hf : ∀ a, Uses P (f a)) :
    Uses P (x >>= f) := by
  constructor
  intro s t r s' h c hc
  rcases exec_bind.mp h with ⟨e, h₁, -⟩ | ⟨t₁, t₂, a, s₁, rfl, h₁, h₂⟩
  · exact hx.calls _ _ _ _ h₁ c hc
  · rcases List.mem_append.mp hc with hc | hc
    · exact hx.calls _ _ _ _ h₁ c hc
    · exact (hf a).calls _ _ _ _ h₂ c hc

theorem perform_bind {op : Op} {f : Ans op → Proc σ Op Ans χ β} (hop : P op)
    (hf : ∀ a, Uses P (f a)) : Uses P (Interaction.perform op >>= f) :=
  (Uses.perform hop).bind hf

theorem evaluate_bind {v : Except χ α} {f : α → Proc σ Op Ans χ β} (hf : ∀ a, Uses P (f a)) :
    Uses P (Interaction.evaluate v >>= f) :=
  (Uses.evaluate v).bind hf

/-- What follows may use the value. -/
theorem evaluate_bind_ok {v : Except χ α} {f : α → Proc σ Op Ans χ β}
    (hf : ∀ a, v = .ok a → Uses P (f a)) : Uses P (Interaction.evaluate v >>= f) := by
  constructor
  intro s t r s' h
  rcases exec_evaluate_bind.mp h with ⟨e, -, rfl, -, -⟩ | ⟨a, ha, hrest⟩
  · intro c hc
    cases hc
  · exact (hf a ha).calls _ _ _ _ hrest

theorem tryCatch {h : χ → Proc σ Op Ans χ α} (hx : Uses P x) (hh : ∀ e, Uses P (h e)) :
    Uses P (tryCatch x h) := by
  constructor
  intro s t r s' hexec c hc
  rcases exec_tryCatch.mp hexec with ⟨a, h₁, -⟩ | ⟨t₁, t₂, e, s₁, rfl, h₁, h₂⟩
  · exact hx.calls _ _ _ _ h₁ c hc
  · rcases List.mem_append.mp hc with hc | hc
    · exact hx.calls _ _ _ _ h₁ c hc
    · exact (hh e).calls _ _ _ _ h₂ c hc

end Uses

end Interaction
