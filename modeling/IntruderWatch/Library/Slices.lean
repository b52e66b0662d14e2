import Mathlib.Tactic

/-!
# Go slices and counting loops

Slices are lists, and an operation that panics at run time returns `none`. A loop
`for i := lo; i < hi; i++` is a fold over `range lo hi`; a loop body that may panic is
folded in `Option`.
-/

namespace Go

variable {α β : Type*}

/-! `index s i` is `s[i]`, `store s i v` is `s[i] = v`, `copy dst src` the slice `dst` after
`copy(dst, src)`, `slice s lo hi` is `s[lo:hi]` for a slice whose capacity is its length, and
`make n v` is `make([]T, n)` with zero value `v`. -/

def index (s : List α) (i : ℤ) : Option α :=
  if 0 ≤ i then s[i.toNat]? else none

def store (s : List α) (i : ℤ) (v : α) : Option (List α) :=
  if 0 ≤ i ∧ i < s.length then some (s.set i.toNat v) else none

def copy (dst src : List α) : List α :=
  src.take dst.length ++ dst.drop src.length

def slice (s : List α) (lo hi : ℤ) : Option (List α) :=
  if 0 ≤ lo ∧ lo ≤ hi ∧ hi ≤ s.length then some ((s.take hi.toNat).drop lo.toNat) else none

def make (n : ℤ) (v : α) : Option (List α) :=
  if 0 ≤ n then some (List.replicate n.toNat v) else none

/-- The most bytes that `make` allocates, on a platform of 64 bits. -/
def maxAlloc : ℕ := 2 ^ 48

/-- The values of `i` in `for i := lo; i < hi; i++`. -/
def range (lo hi : ℤ) : List ℤ :=
  (List.range (hi - lo).toNat).map (fun k : ℕ => lo + (k : ℤ))

/-- The values of `i` in `for i := lo; i < hi; i += step`, for a positive step. -/
def rangeBy (lo hi step : ℤ) : List ℤ :=
  (List.range ((hi - lo + step - 1) / step).toNat).map (fun k : ℕ => lo + step * (k : ℤ))

/-- The index pairs of two nested loops, the outer index second. -/
def grid (xs ys : List ℤ) : List (ℤ × ℤ) :=
  ys.flatMap (fun y => xs.map (fun x => (x, y)))

@[simp] lemma mem_range {lo hi i : ℤ} : i ∈ range lo hi ↔ lo ≤ i ∧ i < hi := by
  simp only [range, List.mem_map, List.mem_range]
  constructor
  · rintro ⟨k, hk, rfl⟩
    omega
  · rintro ⟨hlo, hhi⟩
    exact ⟨(i - lo).toNat, by omega, by omega⟩

lemma mem_rangeBy {lo hi step i : ℤ} (hstep : 0 < step) :
    i ∈ rangeBy lo hi step ↔ (lo ≤ i ∧ i < hi) ∧ (i - lo) % step = 0 := by
  simp only [rangeBy, List.mem_map, List.mem_range]
  constructor
  · rintro ⟨k, hk, rfl⟩
    have hk' : (k : ℤ) + 1 ≤ (hi - lo + step - 1) / step := by omega
    have hmul := (Int.le_ediv_iff_mul_le hstep).mp hk'
    have hnonneg : 0 ≤ step * (k : ℤ) := by positivity
    refine ⟨⟨by omega, by linarith⟩, ?_⟩
    rw [add_sub_cancel_left, Int.mul_emod_right]
  · rintro ⟨⟨hlo, hhi⟩, hmod⟩
    obtain ⟨k, hk⟩ := Int.dvd_of_emod_eq_zero hmod
    have hk0 : 0 ≤ k := by
      by_contra hneg
      nlinarith
    have hlt : k + 1 ≤ (hi - lo + step - 1) / step := by
      rw [Int.le_ediv_iff_mul_le hstep]
      nlinarith
    refine ⟨k.toNat, by omega, ?_⟩
    rw [Int.toNat_of_nonneg hk0]
    linarith

@[simp] lemma mem_grid {xs ys : List ℤ} {p : ℤ × ℤ} : p ∈ grid xs ys ↔ p.1 ∈ xs ∧ p.2 ∈ ys := by
  obtain ⟨x, y⟩ := p
  simp only [grid, List.mem_flatMap, List.mem_map, Prod.mk.injEq]
  constructor
  · rintro ⟨y', hy, x', hx, rfl, rfl⟩
    exact ⟨hx, hy⟩
  · rintro ⟨hx, hy⟩
    exact ⟨y, hy, x, hx, rfl, rfl⟩

lemma nodup_range (lo hi : ℤ) : (range lo hi).Nodup := by
  apply List.Nodup.map _ List.nodup_range
  intro i j hij
  simpa using hij

lemma length_range (lo hi : ℤ) : (range lo hi).length = (hi - lo).toNat := by
  simp [range]

lemma nodup_grid {xs ys : List ℤ} (hxs : xs.Nodup) (hys : ys.Nodup) : (grid xs ys).Nodup := by
  apply List.nodup_flatMap.mpr
  refine ⟨fun y _ => hxs.map (fun i j hij => (Prod.mk.inj hij).1), ?_⟩
  apply hys.imp
  intro y y' hne p hp hp'
  obtain ⟨x, -, rfl⟩ := List.mem_map.mp hp
  obtain ⟨x', -, heq⟩ := List.mem_map.mp hp'
  exact hne (Prod.mk.inj heq).2.symm

lemma length_grid (xs ys : List ℤ) : (grid xs ys).length = xs.length * ys.length := by
  simp [grid, List.length_flatMap, mul_comm]

lemma index_eq_getElem? {s : List α} {i : ℤ} (h : 0 ≤ i) : index s i = s[i.toNat]? := by
  rw [index, if_pos h]

lemma index_isSome {s : List α} {i : ℤ} (h0 : 0 ≤ i) (h : i < s.length) :
    ∃ v, index s i = some v := by
  have hlt : i.toNat < s.length := by omega
  exact ⟨s[i.toNat], by rw [index_eq_getElem? h0, List.getElem?_eq_getElem hlt]⟩

lemma index_replicate {n : ℕ} {i : ℤ} {v : α} (h0 : 0 ≤ i) (h : i < n) :
    index (List.replicate n v) i = some v := by
  rw [index_eq_getElem? h0, List.getElem?_replicate, if_pos (by omega)]

lemma index_set {s : List α} {i j : ℤ} {v : α} (hj : 0 ≤ j) (hlt : j < s.length) :
    index (s.set j.toNat v) i = if i = j then some v else index s i := by
  by_cases hi : 0 ≤ i
  · rw [index_eq_getElem? hi, index_eq_getElem? hi, List.getElem?_set]
    by_cases hij : i = j
    · subst hij
      simp only [if_true]
      rw [if_pos (by omega)]
    · have hne : j.toNat ≠ i.toNat := by omega
      rw [if_neg hne, if_neg hij]
  · have hne : i ≠ j := by omega
    simp [index, hi, hne]

lemma store_eq_some_iff {s s' : List α} {i : ℤ} {v : α} :
    store s i v = some s' ↔ (0 ≤ i ∧ i < s.length) ∧ s.set i.toNat v = s' := by
  by_cases h : 0 ≤ i ∧ i < s.length
  · simp [store, h]
  · simp [store, h]

lemma make_eq_some_iff {n : ℤ} {v : α} {s : List α} :
    make n v = some s ↔ 0 ≤ n ∧ List.replicate n.toNat v = s := by
  by_cases h : 0 ≤ n
  · simp [make, h]
  · simp [make, h]

/-- Copying over a slice of the same length replaces it. -/
lemma copy_of_length_eq {dst src : List α} (h : src.length = dst.length) : copy dst src = src := by
  rw [copy, ← h, List.take_length, List.drop_eq_nil_of_le (by omega), List.append_nil]

lemma slice_eq_some_iff {s s' : List α} {lo hi : ℤ} :
    slice s lo hi = some s' ↔
      (0 ≤ lo ∧ lo ≤ hi ∧ hi ≤ s.length) ∧ (s.take hi.toNat).drop lo.toNat = s' := by
  by_cases h : 0 ≤ lo ∧ lo ≤ hi ∧ hi ≤ s.length
  · simp [slice, h]
  · simp [slice, h]

lemma slice_middle (xs ys zs : List α) {lo hi : ℤ} (hlo : (xs.length : ℤ) = lo)
    (hhi : (xs.length : ℤ) + ys.length = hi) : slice (xs ++ ys ++ zs) lo hi = some ys := by
  subst hlo hhi
  rw [slice_eq_some_iff]
  refine ⟨?_, ?_⟩
  · simp only [List.length_append, Nat.cast_add]
    omega
  · have hsum : ((xs.length : ℤ) + ys.length).toNat = (xs ++ ys).length := by
      rw [List.length_append]
      omega
    rw [hsum, List.take_left, Int.toNat_natCast, List.drop_left]

@[simp] lemma length_copy (dst src : List α) : (copy dst src).length = dst.length := by
  simp only [copy, List.length_append, List.length_take, List.length_drop]
  omega

/-- A loop whose body never panics is a fold. -/
lemma foldlM_eq_some {f : β → α → Option β} {g : β → α → β} {xs : List α}
    (h : ∀ b, ∀ a ∈ xs, f b a = some (g b a)) (b : β) :
    xs.foldlM f b = some (xs.foldl g b) := by
  induction xs generalizing b with
  | nil => rfl
  | cons a xs ih =>
    rw [List.foldlM_cons, h b a (by simp), Option.bind_eq_bind, Option.bind_some, List.foldl_cons]
    exact ih (fun b c hc => h b c (List.mem_cons_of_mem a hc)) (g b a)

end Go
