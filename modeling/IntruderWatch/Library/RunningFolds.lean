import Mathlib.Tactic

/-!
# Running counts and extrema

A loop that counts the selected elements of a list and keeps the least and the greatest value
of a reading of them. Each accumulator is determined by the selected elements: the count is
their number, and an extremum bounds their values and is one of them unless it is where the
loop began.
-/

namespace Running

variable {α κ : Type*} [LinearOrder κ] (p : α → Prop) [DecidablePred p] (f : α → κ)

def count (xs : List α) (n : ℤ) : ℤ :=
  xs.foldl (fun n x => if p x then n + 1 else n) n

def least (xs : List α) (m : κ) : κ :=
  xs.foldl (fun m x => if p x then if f x < m then f x else m else m) m

def greatest (xs : List α) (m : κ) : κ :=
  xs.foldl (fun m x => if p x then if m < f x then f x else m else m) m

lemma count_eq (xs : List α) (n : ℤ) : count p xs n = n + (xs.filter p).length := by
  unfold count
  induction xs generalizing n with
  | nil => simp
  | cons x xs ih =>
    rw [List.foldl_cons, ih]
    by_cases hx : p x
    · simp only [hx, if_true, decide_true, List.filter_cons_of_pos, List.length_cons]
      push_cast
      ring
    · simp [hx]

variable {p f}

lemma least_le_start (xs : List α) (m : κ) : least p f xs m ≤ m := by
  unfold least
  induction xs generalizing m with
  | nil => exact le_rfl
  | cons x xs ih =>
    rw [List.foldl_cons]
    apply (ih _).trans
    split_ifs with hx hlt
    · exact hlt.le
    · exact le_rfl
    · exact le_rfl

/-- The least value is below the value of every selected element. -/
lemma least_le {xs : List α} {x : α} (m : κ) (hx : x ∈ xs) (hp : p x) : least p f xs m ≤ f x := by
  induction xs generalizing m with
  | nil => simp at hx
  | cons y xs ih =>
    rcases List.mem_cons.mp hx with rfl | hx
    · have hstart := least_le_start (p := p) (f := f) xs (if f x < m then f x else m)
      have hstep : least p f (x :: xs) m = least p f xs (if f x < m then f x else m) := by
        simp only [least, List.foldl_cons, hp, if_true]
      rw [hstep]
      apply hstart.trans
      split_ifs with hlt
      · exact le_rfl
      · exact not_lt.mp hlt
    · exact ih _ hx

/-- The least value is the value of a selected element, or where the loop began. -/
lemma least_eq (xs : List α) (m : κ) :
    least p f xs m = m ∨ ∃ x ∈ xs, p x ∧ least p f xs m = f x := by
  induction xs generalizing m with
  | nil => exact .inl rfl
  | cons y xs ih =>
    have hstep : least p f (y :: xs) m =
        least p f xs (if p y then if f y < m then f y else m else m) := rfl
    rw [hstep]
    rcases ih (if p y then if f y < m then f y else m else m) with h | ⟨x, hx, hp, h⟩
    · rw [h]
      split_ifs with hy hlt
      · exact .inr ⟨y, by simp, hy, rfl⟩
      · exact .inl rfl
      · exact .inl rfl
    · exact .inr ⟨x, List.mem_cons_of_mem y hx, hp, h⟩

/-- When some selected value is below the start, the least value is one of the selected. -/
lemma least_attained {xs : List α} {x : α} {m : κ} (hx : x ∈ xs) (hp : p x) (hlt : f x < m) :
    ∃ y ∈ xs, p y ∧ least p f xs m = f y := by
  rcases least_eq (p := p) (f := f) xs m with h | h
  · have hle := least_le (f := f) m hx hp
    rw [h] at hle
    exact absurd hlt (not_lt.mpr hle)
  · exact h

/-! The greatest value is the least one of the opposite order. -/

lemma le_greatest {xs : List α} {x : α} (m : κ) (hx : x ∈ xs) (hp : p x) :
    f x ≤ greatest p f xs m :=
  @least_le α κᵒᵈ _ p _ f xs x m hx hp

lemma greatest_attained {xs : List α} {x : α} {m : κ} (hx : x ∈ xs) (hp : p x) (hlt : m < f x) :
    ∃ y ∈ xs, p y ∧ greatest p f xs m = f y :=
  @least_attained α κᵒᵈ _ p _ f xs x m hx hp hlt

lemma greatest_eq (xs : List α) (m : κ) :
    greatest p f xs m = m ∨ ∃ x ∈ xs, p x ∧ greatest p f xs m = f x :=
  @least_eq α κᵒᵈ _ p _ f xs m

end Running
