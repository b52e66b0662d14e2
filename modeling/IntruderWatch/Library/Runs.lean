import Mathlib.Tactic
import Mathlib.Data.List.Forall2

/-!
# Labelled runs

A transition system is given either by a step relation `σ → ε → σ → Prop` or by a
partial step function that also returns an output. A run is the list of its labels,
oldest first, so that an invariant may speak of the whole past of a state. This file
proves the induction rule for such history invariants, the composition of runs, and
the lockstep rule for two executions of one step function.
-/

namespace Transition

variable {σ ε ο : Type*}

/-- `Run step s₀ es s`: the labels `es` lead from `s₀` to `s`. -/
inductive Run (step : σ → ε → σ → Prop) (s₀ : σ) : List ε → σ → Prop
  | nil : Run step s₀ [] s₀
  | snoc {es s e s'} : Run step s₀ es s → step s e s' → Run step s₀ (es ++ [e]) s'

namespace Run

variable {step : σ → ε → σ → Prop} {s₀ s s' : σ} {es fs : List ε}

/-- Induction over a run for an invariant of the past and the present state. -/
theorem invariant (Inv : List ε → σ → Prop) (h0 : Inv [] s₀)
    (hstep : ∀ es s e s', Inv es s → step s e s' → Inv (es ++ [e]) s')
    (h : Run step s₀ es s) : Inv es s := by
  induction h with
  | nil => exact h0
  | snoc _ hs ih => exact hstep _ _ _ _ ih hs

/-- The rule for an invariant of the state alone. -/
theorem stateInvariant (Inv : σ → Prop) (h0 : Inv s₀)
    (hstep : ∀ s e s', Inv s → step s e s' → Inv s')
    (h : Run step s₀ es s) : Inv s :=
  invariant (fun _ s => Inv s) h0 (fun _ s e s' => hstep s e s') h

theorem single {e : ε} (h : step s e s') : Run step s [e] s' := by
  have hnil : Run step s [] s := Run.nil
  simpa using hnil.snoc h

theorem append (h : Run step s₀ es s) (h' : Run step s fs s') : Run step s₀ (es ++ fs) s' := by
  induction h' with
  | nil => simpa using h
  | snoc _ hs ih =>
    rw [← List.append_assoc]
    exact ih.snoc hs

lemma snoc_iff {e : ε} : Run step s₀ (es ++ [e]) s' ↔ ∃ s, Run step s₀ es s ∧ step s e s' := by
  constructor
  · intro h
    generalize hfs : es ++ [e] = fs at h
    cases h with
    | nil => simp at hfs
    | snoc h hs =>
      obtain ⟨rfl, he⟩ := List.append_inj' hfs rfl
      obtain rfl : e = _ := by simpa using he
      exact ⟨_, h, hs⟩
  · rintro ⟨s, h, hs⟩
    exact h.snoc hs

lemma nil_iff : Run step s₀ [] s ↔ s = s₀ := by
  constructor
  · intro h
    generalize hfs : ([] : List ε) = fs at h
    cases h with
    | nil => rfl
    | snoc => simp at hfs
  · rintro rfl
    exact .nil

/-- Runs of two systems that make the same steps under other labels. -/
theorem relabel {δ : Type*} {step' : σ → δ → σ → Prop} (f : δ → ε) {ds : List δ}
    (h : ∀ d ∈ ds, ∀ s s', step' s d s' ↔ step s (f d) s') :
    Run step' s₀ ds s ↔ Run step s₀ (ds.map f) s := by
  induction ds using List.reverseRecOn generalizing s with
  | nil => rw [List.map_nil, nil_iff, nil_iff]
  | append_singleton ds d ih =>
    have hbefore := fun {s} => ih (s := s) (fun d hd => h d (List.mem_append_left _ hd))
    have hlast := h d (List.mem_append_right _ List.mem_cons_self)
    simp only [List.map_append, List.map_singleton, snoc_iff, hbefore, hlast]

/-- A run over two segments passes through a state between them. -/
theorem split (h : Run step s₀ (es ++ fs) s') : ∃ s, Run step s₀ es s ∧ Run step s fs s' := by
  induction fs using List.reverseRecOn generalizing s' with
  | nil =>
    rw [List.append_nil] at h
    exact ⟨s', h, Run.nil⟩
  | append_singleton fs f ih =>
    rw [← List.append_assoc, snoc_iff] at h
    obtain ⟨m, hm, hf⟩ := h
    obtain ⟨s, hs, hfs⟩ := ih hm
    exact ⟨s, hs, hfs.snoc hf⟩

end Run

/-! ### Along a run -/

/-- `P` holds in every state that the run passes through. -/
def Always (step : σ → ε → σ → Prop) (s₀ : σ) (P : List ε → σ → Prop) (es : List ε) : Prop :=
  ∀ es₁ es₂ s₁, es = es₁ ++ es₂ → Run step s₀ es₁ s₁ → P es₁ s₁

/-- `C` holds of every step of the run, with the past and the state before the step. -/
def EachStep (step : σ → ε → σ → Prop) (s₀ : σ) (C : List ε → σ → ε → Prop) (es : List ε) : Prop :=
  ∀ es₁ e es₂ s₁, es = es₁ ++ e :: es₂ → Run step s₀ es₁ s₁ → C es₁ s₁ e

section Along

variable {step : σ → ε → σ → Prop} {s₀ s s' : σ} {es : List ε} {e : ε} {P : List ε → σ → Prop}
  {C : List ε → σ → ε → Prop}

/-- Where a step has one outcome, a run has one end. -/
lemma Run.unique (hdet : ∀ s e s' s'', step s e s' → step s e s'' → s' = s'') {t : σ}
    (h : Run step s₀ es s) (h' : Run step s₀ es t) : s = t := by
  induction h generalizing t with
  | nil =>
    generalize hnil : ([] : List ε) = es at h'
    cases h' with
    | nil => rfl
    | snoc => simp at hnil
  | snoc _ hs ih =>
    obtain ⟨m, hm, ht⟩ := Run.snoc_iff.mp h'
    obtain rfl := ih hm
    exact hdet _ _ _ _ hs ht

lemma EachStep.nil : EachStep step s₀ C [] := by
  intro es₁ e es₂ s₁ hes
  simp at hes

lemma EachStep.snoc (hdet : ∀ s e s' s'', step s e s' → step s e s'' → s' = s'')
    (h : EachStep step s₀ C es) (hrun : Run step s₀ es s) (hC : C es s e) :
    EachStep step s₀ C (es ++ [e]) := by
  intro es₁ e₁ es₂ s₁ hes h₁
  rcases List.eq_nil_or_concat es₂ with rfl | ⟨es₂, e', rfl⟩
  · obtain ⟨rfl, heq⟩ := List.append_inj' hes rfl
    obtain rfl : e = e₁ := by simpa using heq
    exact Run.unique hdet hrun h₁ ▸ hC
  · rw [List.concat_eq_append, ← List.cons_append, ← List.append_assoc] at hes
    exact h es₁ e₁ es₂ s₁ (List.append_inj' hes rfl).1 h₁

/-- A property of the past and the state that each step on its way keeps. -/
theorem always_of_eachStep (h0 : P [] s₀)
    (hstep : ∀ es s e s', P es s → C es s e → step s e s' → P (es ++ [e]) s')
    (h : EachStep step s₀ C es) : Always step s₀ P es := by
  rintro es₁ es₂ s₁ rfl h₁
  induction h₁ generalizing es₂ with
  | nil => exact h0
  | @snoc es s e s' hrun hs ih =>
    have hes : es ++ [e] ++ es₂ = es ++ e :: es₂ := List.append_assoc es [e] es₂
    exact hstep es s e s' (ih (e :: es₂) (hes ▸ h)) (h es e es₂ s hes hrun) hs

/-- A property that a step keeps exactly under its condition holds along exactly the runs whose steps
meet the condition. -/
theorem always_iff_eachStep (hdet : ∀ s e s' s'', step s e s' → step s e s'' → s' = s'')
    (h0 : P [] s₀)
    (hstep : ∀ es s e s', P es s → step s e s' → (P (es ++ [e]) s' ↔ C es s e))
    (hrun : Run step s₀ es s) : Always step s₀ P es ↔ EachStep step s₀ C es := by
  refine ⟨?_, always_of_eachStep h0 fun es s e s' hs hC hstep' => (hstep es s e s' hs hstep').mpr hC⟩
  rintro h es₁ e es₂ s₁ rfl h₁
  obtain ⟨m, hm, -⟩ := Run.split (List.append_cons es₁ e es₂ ▸ hrun)
  obtain ⟨s₂, h₂, hs₂⟩ := Run.snoc_iff.mp hm
  obtain rfl := Run.unique hdet h₂ h₁
  exact (hstep es₁ s₂ e m (h es₁ (e :: es₂) s₂ rfl h₂) hs₂).mp
    (h (es₁ ++ [e]) es₂ m (List.append_cons es₁ e es₂) hm)

end Along

/-- Executes a partial step function over a list of inputs and collects its outputs. -/
def exec (f : σ → ε → Option (σ × ο)) : σ → List ε → Option (σ × List ο)
  | s, [] => some (s, [])
  | s, e :: es => do
    let (s', o) ← f s e
    let (s'', os) ← exec f s' es
    some (s'', o :: os)

/-- The step relation of `f`, labelled by input and output. -/
def Steps (f : σ → ε → Option (σ × ο)) (s : σ) (e : ε × ο) (s' : σ) : Prop :=
  f s e.1 = some (s', e.2)

lemma exec_length {f : σ → ε → Option (σ × ο)} {s s' : σ} {es : List ε} {os : List ο}
    (h : exec f s es = some (s', os)) : os.length = es.length := by
  induction es generalizing s os with
  | nil =>
    obtain ⟨rfl, rfl⟩ : s = s' ∧ [] = os := by simpa [exec] using h
    rfl
  | cons e es ih =>
    simp only [exec, Option.bind_eq_bind, Option.bind_eq_some_iff, Option.some.injEq,
      Prod.mk.injEq, Prod.exists] at h
    obtain ⟨t, o, -, t', os', hrest, rfl, rfl⟩ := h
    simp [ih hrest]

/-- Execution over two segments, the first of which succeeds. -/
lemma exec_append {f : σ → ε → Option (σ × ο)} {s s' : σ} {es fs : List ε} {os : List ο}
    (h : exec f s es = some (s', os)) :
    exec f s (es ++ fs) = (exec f s' fs).map (fun p => (p.1, os ++ p.2)) := by
  induction es generalizing s os with
  | nil =>
    obtain ⟨rfl, rfl⟩ : s = s' ∧ [] = os := by simpa [exec] using h
    simp
  | cons e es ih =>
    simp only [exec, Option.bind_eq_bind, Option.bind_eq_some_iff, Option.some.injEq,
      Prod.mk.injEq, Prod.exists] at h
    obtain ⟨t, o, hstep, t', os', hrest, rfl, rfl⟩ := h
    simp only [List.cons_append, exec, hstep, Option.bind_eq_bind, Option.bind_some, ih hrest]
    cases exec f t' fs <;> rfl

/-- An execution is a run of the step relation of `f`. -/
theorem exec_run {f : σ → ε → Option (σ × ο)} {s s' : σ} {es : List ε} {os : List ο}
    (h : exec f s es = some (s', os)) : Run (Steps f) s (es.zip os) s' := by
  induction es generalizing s os with
  | nil =>
    obtain ⟨rfl, rfl⟩ : s = s' ∧ [] = os := by simpa [exec] using h
    exact Run.nil
  | cons e es ih =>
    simp only [exec, Option.bind_eq_bind, Option.bind_eq_some_iff, Option.some.injEq,
      Prod.mk.injEq, Prod.exists] at h
    obtain ⟨t, o, hstep, t', os', hrest, rfl, rfl⟩ := h
    have hfirst : Run (Steps f) s [(e, o)] t := Run.single hstep
    simpa using hfirst.append (ih hrest)

/-- Total execution: a step function that never fails on good inputs, each related to the
inputs before it, runs to the end and keeps an invariant of the whole past. -/
theorem exec_history {f : σ → ε → Option (σ × ο)} {Good : ε → Prop} {R : ε → ε → Prop}
    (Inv : List (ε × ο) → σ → Prop)
    (hstep : ∀ past s e, Inv past s → Good e → (∀ p ∈ past, R p.1 e) →
      ∃ s' o, f s e = some (s', o) ∧ Inv (past ++ [(e, o)]) s')
    {s : σ} {es : List ε} (hgood : ∀ e ∈ es, Good e) (hR : es.Pairwise R) (h0 : Inv [] s) :
    ∃ s' os, exec f s es = some (s', os) ∧ Inv (es.zip os) s' := by
  have hmain : ∀ (es : List ε) (past : List (ε × ο)) (s : σ), (∀ e ∈ es, Good e) → es.Pairwise R →
      (∀ p ∈ past, ∀ e ∈ es, R p.1 e) → Inv past s →
      ∃ s' os, exec f s es = some (s', os) ∧ Inv (past ++ es.zip os) s' := by
    intro es
    induction es with
    | nil =>
      intro past s _ _ _ hs
      exact ⟨s, [], rfl, by simpa using hs⟩
    | cons e es ih =>
      intro past s hgood hR hpast hs
      rw [List.pairwise_cons] at hR
      obtain ⟨t, o, he, ht⟩ := hstep past s e hs (hgood e (by simp))
        (fun p hp => hpast p hp e (by simp))
      have hpast' : ∀ p ∈ past ++ [(e, o)], ∀ e' ∈ es, R p.1 e' := by
        intro p hp e' he'
        rw [List.mem_append, List.mem_singleton] at hp
        rcases hp with hp | rfl
        · exact hpast p hp e' (List.mem_cons_of_mem e he')
        · exact hR.1 e' he'
      obtain ⟨s', os, hrest, hs'⟩ := ih (past ++ [(e, o)]) t
        (fun e' he' => hgood e' (List.mem_cons_of_mem e he')) hR.2 hpast' ht
      refine ⟨s', o :: os, by simp [exec, he, hrest], ?_⟩
      simpa using hs'
  simpa using hmain es [] s hgood hR (by simp) h0

/-- Lockstep: executions from related states on related inputs, whose single steps stay
related and give equal outputs, produce the same outputs. -/
theorem exec_lockstep {f : σ → ε → Option (σ × ο)} {R : σ → σ → Prop} {E : ε → ε → Prop}
    (hstep : ∀ s t e e', R s t → E e e' →
      ∃ s' t' o, f s e = some (s', o) ∧ f t e' = some (t', o) ∧ R s' t')
    {s t : σ} {es es' : List ε} (hst : R s t) (hes : List.Forall₂ E es es') :
    ∃ s' t' os, exec f s es = some (s', os) ∧ exec f t es' = some (t', os) ∧ R s' t' := by
  induction hes generalizing s t with
  | nil => exact ⟨s, t, [], rfl, rfl, hst⟩
  | cons he _ ih =>
    obtain ⟨s₁, t₁, o, hs, ht, h₁⟩ := hstep s t _ _ hst he
    obtain ⟨s₂, t₂, os, hs', ht', h₂⟩ := ih h₁
    exact ⟨s₂, t₂, o :: os, by simp [exec, hs, hs'], by simp [exec, ht, ht'], h₂⟩

end Transition
