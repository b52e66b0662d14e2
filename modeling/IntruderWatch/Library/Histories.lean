import Mathlib.Tactic

/-!
# Histories

A history is a list of records, oldest first. `latest p` is its most recent record with
`p`, `latestOf f` the most recent value of a partial reading `f`, and `Along Law` says that
every record satisfies a law that may speak of the records before it. Each is determined by
appending one record.
-/

namespace History

variable {α : Type*}

/-- The most recent record that satisfies `p`. -/
def latest (p : α → Bool) (xs : List α) : Option α :=
  (xs.filter p).getLast?

@[simp] lemma latest_nil (p : α → Bool) : latest p [] = none := rfl

lemma latest_snoc (p : α → Bool) (xs : List α) (x : α) :
    latest p (xs ++ [x]) = if p x then some x else latest p xs := by
  by_cases h : p x = true
  · simp [latest, h]
  · simp [latest, h]

lemma latest_spec {p : α → Bool} {xs : List α} {x : α} (h : latest p xs = some x) :
    x ∈ xs ∧ p x = true :=
  List.mem_filter.mp (List.mem_of_getLast? h)

lemma latest_eq_none_iff {p : α → Bool} {xs : List α} :
    latest p xs = none ↔ ∀ x ∈ xs, p x = false := by
  simp [latest]

lemma latest_isSome {p : α → Bool} {xs : List α} {x : α} (hx : x ∈ xs) (hp : p x = true) :
    ∃ y, latest p xs = some y := by
  cases h : latest p xs with
  | some y => exact ⟨y, rfl⟩
  | none =>
    rw [latest_eq_none_iff.mp h x hx] at hp
    exact absurd hp Bool.false_ne_true

/-- In an ordered history the latest record is above every record of its kind. -/
lemma latest_upper (r : α → α → Prop) [Std.Refl r] {p : α → Bool} {xs : List α} {x y : α}
    (hxs : xs.Pairwise r) (h : latest p xs = some x) (hy : y ∈ xs) (hp : p y = true) : r y x := by
  induction xs using List.reverseRecOn with
  | nil => simp at h
  | append_singleton xs z ih =>
    rw [List.pairwise_append] at hxs
    rw [latest_snoc] at h
    rw [List.mem_append, List.mem_singleton] at hy
    by_cases hz : p z = true
    · obtain rfl : z = x := by simpa [hz] using h
      rcases hy with hy | rfl
      · exact hxs.2.2 y hy z (by simp)
      · exact Std.Refl.refl y
    · rw [if_neg hz] at h
      rcases hy with hy | rfl
      · exact ih hxs.1 h hy
      · exact absurd hp hz

lemma latest_map {β : Type*} (f : α → β) (p : β → Bool) (xs : List α) :
    latest p (xs.map f) = (latest (fun x => p (f x)) xs).map f := by
  rw [latest, latest, List.filter_map, List.getLast?_map]
  rfl

/-- The most recent value that `f` reads off a record. -/
def latestOf {β : Type*} (f : α → Option β) (xs : List α) : Option β :=
  (xs.filterMap f).getLast?

@[simp] lemma latestOf_nil {β : Type*} (f : α → Option β) : latestOf f [] = none := rfl

@[simp] lemma latestOf_snoc {β : Type*} (f : α → Option β) (xs : List α) (x : α) :
    latestOf f (xs ++ [x]) = (f x).or (latestOf f xs) := by
  cases h : f x with
  | none => simp [latestOf, h]
  | some b => simp [latestOf, h]

lemma latestOf_eq_some {β : Type*} {f : α → Option β} {xs : List α} {b : β}
    (h : latestOf f xs = some b) : ∃ x ∈ xs, f x = some b :=
  List.mem_filterMap.mp (List.mem_of_getLast? h)

lemma latestOf_eq_none {β : Type*} {f : α → Option β} {xs : List α} (h : latestOf f xs = none) :
    ∀ x ∈ xs, f x = none := by
  have hnil : xs.filterMap f = [] := List.getLast?_eq_none_iff.mp h
  exact List.filterMap_eq_nil_iff.mp hnil

/-- When the values of `f` only grow, the most recent one is above each of them. -/
lemma latestOf_upper {β : Type*} (r : β → β → Prop) [Std.Refl r] {f : α → Option β} {xs : List α}
    {x : α} {a b : β} (hxs : (xs.filterMap f).Pairwise r) (h : latestOf f xs = some b) (hx : x ∈ xs)
    (ha : f x = some a) : r a b := by
  have hlatest : latest (fun _ => true) (xs.filterMap f) = some b := by
    rw [latest, List.filter_true]
    exact h
  exact latest_upper r hxs hlatest (List.mem_filterMap.mpr ⟨x, hx, ha⟩) rfl

/-- A record may change in what `f` does not read. -/
lemma latestOf_set {β : Type*} {f : α → Option β} {xs : List α} {i : ℕ} {x y : α}
    (hx : xs[i]? = some x) (hf : f y = f x) : latestOf f (xs.set i y) = latestOf f xs := by
  have hmap : (xs.set i y).map f = xs.map f := by
    apply List.ext_getElem?
    intro j
    rw [List.getElem?_map, List.getElem?_map, List.getElem?_set]
    split_ifs with hj hlt
    · rw [← hj, hx, Option.map_some, Option.map_some, hf]
    · rw [← hj, List.getElem?_eq_none (by omega), Option.map_none]
    · rfl
  have hread : ∀ l : List α, l.filterMap f = (l.map f).filterMap id := by
    intro l
    rw [List.filterMap_map, Function.id_comp]
  unfold latestOf
  rw [hread, hread xs, hmap]

/-- Every record satisfies the law with respect to the records before it. -/
def Along (Law : List α → α → Prop) (xs : List α) : Prop :=
  ∀ k (hk : k < xs.length), Law (xs.take k) xs[k]

lemma along_nil (Law : List α → α → Prop) : Along Law [] := by
  intro k hk
  simp at hk

lemma along_snoc_iff {Law : List α → α → Prop} {xs : List α} {x : α} :
    Along Law (xs ++ [x]) ↔ Along Law xs ∧ Law xs x := by
  constructor
  · intro h
    constructor
    · intro k hk
      have hk' : k < (xs ++ [x]).length := by
        rw [List.length_append]
        omega
      have hlaw := h k hk'
      rwa [List.take_append_of_le_length hk.le, List.getElem_append_left hk] at hlaw
    · simpa using h xs.length (by simp)
  · rintro ⟨h, hx⟩ k hk
    rw [List.length_append, List.length_singleton] at hk
    by_cases hlt : k < xs.length
    · rw [List.take_append_of_le_length hlt.le, List.getElem_append_left hlt]
      exact h k hlt
    · obtain rfl : k = xs.length := by omega
      simpa using hx

/-- A history in two parts, the second with the law as it stands after the first. -/
lemma along_append_iff {Law : List α → α → Prop} {xs ys : List α} :
    Along Law (xs ++ ys) ↔ Along Law xs ∧ Along (fun past => Law (xs ++ past)) ys := by
  induction ys using List.reverseRecOn with
  | nil => simp [along_nil]
  | append_singleton ys y ih => rw [← List.append_assoc, along_snoc_iff, ih, along_snoc_iff, and_assoc]

lemma along_singleton_iff {Law : List α → α → Prop} {x : α} : Along Law [x] ↔ Law [] x := by
  rw [← List.nil_append [x], along_snoc_iff]
  exact and_iff_right (along_nil Law)

lemma along_cons_iff {Law : List α → α → Prop} {x : α} {xs : List α} :
    Along Law (x :: xs) ↔ Law [] x ∧ Along (fun past => Law (x :: past)) xs := by
  rw [← List.singleton_append, along_append_iff, along_singleton_iff]
  exact Iff.rfl

/-- A law that does not look back. -/
lemma along_of_forall {Law : List α → α → Prop} {xs : List α} (h : ∀ x ∈ xs, ∀ past, Law past x) :
    Along Law xs :=
  fun k hk => h xs[k] (List.getElem_mem hk) _

lemma Along.mono {Law Law' : List α → α → Prop} {xs : List α} (h : Along Law xs)
    (himp : ∀ past x, Law past x → Law' past x) : Along Law' xs :=
  fun k hk => himp _ _ (h k hk)

/-- Records that a fold passes over. -/
lemma foldl_of_still {σ : Type*} {f : σ → α → σ} {xs : List α} (h : ∀ x ∈ xs, ∀ s, f s x = s) (s : σ) :
    xs.foldl f s = s := by
  induction xs with
  | nil => rfl
  | cons x xs ih =>
    rw [List.foldl_cons, h x List.mem_cons_self]
    exact ih (fun y hy => h y (List.mem_cons_of_mem x hy))

end History
