import IntruderWatch.Library.Histories
import IntruderWatch.Library.Interaction

/-!
# Watched programs

A watcher remembers what the calls of a program tell, and its law says which calls are allowed after
what it remembers. The precondition `pre x Q E` of a statement speaks of the memory and the variables:
from there on every call of `x` is lawful, a value satisfies `Q` and an exception `E`. Each construct
has one rule, so that the law of a program is proved along its text.
-/

namespace Interaction
open History

variable {Op : Type} {Ans : Op → Type} {α β σ χ μ : Type}

/-- A call that answers or raises. -/
def request (Rep : Op → Type) (op : Op) : Proc σ Op (fun op => Except χ (Rep op)) χ (Rep op) := do
  evaluate (← perform op)

structure Watcher (Op : Type) (Ans : Op → Type) (μ : Type) where
  see : μ → (op : Op) × Ans op → μ
  law : μ → (op : Op) × Ans op → Prop

namespace Watcher

variable (W : Watcher Op Ans μ)

def memory (m : μ) (t : Trace Op Ans) : μ := t.foldl W.see m

/-- Every call is allowed after what the calls before it tell. -/
def Lawful (m : μ) (t : Trace Op Ans) : Prop := Along (fun past => W.law (W.memory m past)) t

/-- What holds at the end of a statement. -/
def Ends (Q : α → μ → σ → Prop) (E : χ → μ → σ → Prop) : Except χ α → μ → σ → Prop
  | .ok a => Q a
  | .error e => E e

def pre (x : Proc σ Op Ans χ α) (Q : α → μ → σ → Prop) (E : χ → μ → σ → Prop) (m : μ) (s : σ) :
    Prop :=
  ∀ t r s', Exec x s t r s' → W.Lawful m t ∧ Ends Q E r (W.memory m t) s'

variable {W} {m : μ} {s s' : σ} {t t' : Trace Op Ans} {x : Proc σ Op Ans χ α}
  {f : α → Proc σ Op Ans χ β} {Q Q' : α → μ → σ → Prop} {R : β → μ → σ → Prop}
  {E E' : χ → μ → σ → Prop} {op : Op}

/-! ### Traces -/

@[simp] lemma memory_nil : W.memory m [] = m := rfl

lemma memory_append : W.memory m (t ++ t') = W.memory (W.memory m t) t' := List.foldl_append

lemma lawful_nil : W.Lawful m [] := along_nil _

lemma lawful_append_iff :
    W.Lawful m (t ++ t') ↔ W.Lawful m t ∧ W.Lawful (W.memory m t) t' := by
  unfold Lawful
  rw [along_append_iff]
  simp only [memory_append]

lemma lawful_singleton {c : (op : Op) × Ans op} (h : W.law m c) : W.Lawful m [c] :=
  along_singleton_iff.mpr h

/-! ### Statements -/

lemma pre_evaluate {v : Except χ α} (h : Ends Q E v m s) :
    W.pre (evaluate v : Proc σ Op Ans χ α) Q E m s := by
  intro t r s' hexec
  obtain ⟨rfl, rfl, rfl⟩ := exec_evaluate.mp hexec
  exact ⟨lawful_nil, h⟩

lemma pre_pure {a : α} (h : Q a m s) : W.pre (pure a : Proc σ Op Ans χ α) Q E m s :=
  pre_evaluate (v := .ok a) h

lemma pre_throw {e : χ} (h : E e m s) : W.pre (throw e : Proc σ Op Ans χ α) Q E m s :=
  pre_evaluate (v := .error e) h

lemma pre_perform {Q : Ans op → μ → σ → Prop}
    (h : ∀ a, W.law m ⟨op, a⟩ ∧ Q a (W.see m ⟨op, a⟩) s) :
    W.pre (perform op : Proc σ Op Ans χ (Ans op)) Q E m s := by
  intro t r s' hexec
  obtain ⟨a, rfl, rfl, rfl⟩ := exec_perform.mp hexec
  exact ⟨lawful_singleton (h a).1, (h a).2⟩

lemma pre_modify {g : σ → σ} {Q : PUnit → μ → σ → Prop} (h : Q ⟨⟩ m (g s)) :
    W.pre (modify g : Proc σ Op Ans χ PUnit) Q E m s := by
  intro t r s' hexec
  obtain ⟨rfl, rfl, rfl⟩ := exec_modify.mp hexec
  exact ⟨lawful_nil, h⟩

lemma pre_bind (h : W.pre x (fun a => W.pre (f a) R E) E m s) : W.pre (x >>= f) R E m s := by
  intro t r s' hexec
  rcases exec_bind.mp hexec with ⟨e, hx, rfl⟩ | ⟨t₁, t₂, a, s₁, rfl, hx, hf⟩
  · exact h t _ s' hx
  · obtain ⟨hlaw, hrest⟩ := h t₁ _ s₁ hx
    obtain ⟨hlaw', hend⟩ := hrest t₂ r s' hf
    rw [memory_append]
    exact ⟨lawful_append_iff.mpr ⟨hlaw, hlaw'⟩, hend⟩

lemma pre_evaluate_bind {v : Except χ α} (h : Ends (fun a => W.pre (f a) R E) E v m s) :
    W.pre (evaluate v >>= f) R E m s :=
  pre_bind (pre_evaluate h)

lemma pre_perform_bind {f : Ans op → Proc σ Op Ans χ β}
    (h : ∀ a, W.law m ⟨op, a⟩ ∧ W.pre (f a) R E (W.see m ⟨op, a⟩) s) :
    W.pre (perform op >>= f) R E m s :=
  pre_bind (pre_perform h)

lemma pre_get_bind {f : σ → Proc σ Op Ans χ β} (h : W.pre (f s) R E m s) :
    W.pre (get >>= f) R E m s :=
  fun t r s' hexec => h t r s' (exec_get_bind.mp hexec)

lemma pre_modify_bind {g : σ → σ} {f : PUnit → Proc σ Op Ans χ β} (h : W.pre (f ⟨⟩) R E m (g s)) :
    W.pre (modify g >>= f) R E m s :=
  pre_bind (pre_modify h)

lemma pre_withFinally {fin : Proc σ Op Ans χ Unit}
    (hx : W.pre x (fun a => W.pre fin (fun _ => Q a) E) (fun e => W.pre fin (fun _ => E e) E) m s) :
    W.pre (withFinally x fin) Q E m s := by
  intro t r s' hexec
  obtain ⟨t₁, t₂, r₁, s₁, r₂, rfl, hbody, hfin, rfl⟩ := exec_withFinally.mp hexec
  obtain ⟨hlaw, hrest⟩ := hx t₁ r₁ s₁ hbody
  rw [memory_append, lawful_append_iff]
  cases r₁ with
  | ok a =>
    obtain ⟨hlaw', hend⟩ := hrest t₂ r₂ s' hfin
    refine ⟨⟨hlaw, hlaw'⟩, ?_⟩
    cases r₂ with
    | ok _ => exact hend
    | error _ => exact hend
  | error e =>
    obtain ⟨hlaw', hend⟩ := hrest t₂ r₂ s' hfin
    refine ⟨⟨hlaw, hlaw'⟩, ?_⟩
    cases r₂ with
    | ok _ => exact hend
    | error _ => exact hend

lemma pre_mono (hQ : ∀ a m s, Q a m s → Q' a m s) (hE : ∀ e m s, E e m s → E' e m s)
    (h : W.pre x Q E m s) : W.pre x Q' E' m s := by
  intro t r s' hexec
  obtain ⟨hlaw, hend⟩ := h t r s' hexec
  refine ⟨hlaw, ?_⟩
  cases r with
  | ok a => exact hQ a _ _ hend
  | error e => exact hE e _ _ hend

end Watcher

/-! ### Requests -/

namespace Watcher

variable {Rep : Op → Type} {W : Watcher Op (fun op => Except χ (Rep op)) μ} {m : μ} {s : σ} {op : Op}
  {Q : Rep op → μ → σ → Prop} {R : β → μ → σ → Prop} {E : χ → μ → σ → Prop}

lemma pre_request (hlaw : ∀ answer, W.law m ⟨op, answer⟩)
    (hok : ∀ a, Q a (W.see m ⟨op, .ok a⟩) s) (herror : ∀ e, E e (W.see m ⟨op, .error e⟩) s) :
    W.pre (request Rep op : Proc σ Op (fun op => Except χ (Rep op)) χ (Rep op)) Q E m s := by
  refine pre_perform_bind fun answer => ⟨hlaw answer, pre_evaluate ?_⟩
  cases answer with
  | ok a => exact hok a
  | error e => exact herror e

lemma pre_request_bind {f : Rep op → Proc σ Op (fun op => Except χ (Rep op)) χ β}
    (hlaw : ∀ answer, W.law m ⟨op, answer⟩) (hok : ∀ a, W.pre (f a) R E (W.see m ⟨op, .ok a⟩) s)
    (herror : ∀ e, E e (W.see m ⟨op, .error e⟩) s) : W.pre (request Rep op >>= f) R E m s :=
  pre_bind (pre_request hlaw hok herror)

end Watcher

end Interaction
