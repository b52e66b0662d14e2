import IntruderWatch.Library.Slices

/-!
# Loops of stores

A piece of code that only stores into a slice is described by the list of its stores, in order:
`Stores f ws`. The rules build this list from the shape of the code; the results read off it
when the code panics and which elements it changes.
-/

namespace Go

variable {α ι : Type*}

/-- The stores `s[i] = v` of a list, from left to right. -/
def storeAll (s : List α) (ws : List (ℤ × α)) : Option (List α) :=
  ws.foldlM (fun s w => store s w.1 w.2) s

/-- `f` does exactly the stores `ws`. -/
def Stores (f : List α → Option (List α)) (ws : List (ℤ × α)) : Prop :=
  ∀ s, f s = storeAll s ws

@[simp] lemma storeAll_nil (s : List α) : storeAll s [] = some s := rfl

lemma storeAll_cons (s : List α) (w : ℤ × α) (ws : List (ℤ × α)) :
    storeAll s (w :: ws) = (store s w.1 w.2).bind (fun s => storeAll s ws) := by
  unfold storeAll
  rw [List.foldlM_cons, Option.bind_eq_bind]

lemma storeAll_append (s : List α) (ws ws' : List (ℤ × α)) :
    storeAll s (ws ++ ws') = (storeAll s ws).bind (fun s => storeAll s ws') := by
  unfold storeAll
  rw [List.foldlM_append, Option.bind_eq_bind]

namespace Stores

variable {f g : List α → Option (List α)} {ws ws' : List (ℤ × α)}

lemma skip : Stores (α := α) some [] := fun _ => rfl

lemma single (i : ℤ) (v : α) : Stores (fun s => store s i v) [(i, v)] := by
  intro s
  simp [storeAll_cons]

lemma bind (hf : Stores f ws) (hg : Stores g ws') :
    Stores (fun s => (f s).bind g) (ws ++ ws') := by
  intro s
  have hcont : g = fun s => storeAll s ws' := funext hg
  rw [storeAll_append, ← hf s, hcont]

lemma ite {p : Prop} [Decidable p] (hf : Stores f ws) (hg : Stores g ws') :
    Stores (fun s => if p then f s else g s) (if p then ws else ws') := by
  intro s
  by_cases hp : p
  · simp only [hp, if_true]
    exact hf s
  · simp only [hp, if_false]
    exact hg s

/-- A loop does the stores of its iterations. -/
lemma loop {body : List α → ι → Option (List α)} {trace : ι → List (ℤ × α)} {xs : List ι}
    (h : ∀ x ∈ xs, Stores (fun s => body s x) (trace x)) :
    Stores (fun s => xs.foldlM body s) (xs.flatMap trace) := by
  induction xs with
  | nil => exact skip
  | cons x xs ih =>
    intro s
    have hrest := ih (fun y hy => h y (List.mem_cons_of_mem x hy))
    have hfirst := h x (by simp)
    have hboth := hfirst.bind hrest s
    simp only [List.foldlM_cons, Option.bind_eq_bind, List.flatMap_cons]
    exact hboth

end Stores

lemma store_length {s s' : List α} {i : ℤ} {v : α} (h : store s i v = some s') :
    s'.length = s.length := by
  obtain ⟨-, rfl⟩ := store_eq_some_iff.mp h
  exact List.length_set

section Effect

variable {s s' : List α} {ws : List (ℤ × α)}

lemma storeAll_cons_eq_some_iff {w : ℤ × α} : storeAll s (w :: ws) = some s' ↔
    ∃ mid, store s w.1 w.2 = some mid ∧ storeAll mid ws = some s' := by
  rw [storeAll_cons, Option.bind_eq_some_iff]

lemma storeAll_length (h : storeAll s ws = some s') : s'.length = s.length := by
  induction ws generalizing s with
  | nil =>
    obtain rfl : s = s' := by simpa using h
    rfl
  | cons w ws ih =>
    obtain ⟨mid, hmid, hrest⟩ := storeAll_cons_eq_some_iff.mp h
    exact (ih hrest).trans (store_length hmid)

/-- A list of stores panics unless every index is in range. -/
theorem storeAll_isSome_iff :
    (∃ s', storeAll s ws = some s') ↔ ∀ w ∈ ws, 0 ≤ w.1 ∧ w.1 < s.length := by
  induction ws generalizing s with
  | nil => simp
  | cons w ws ih =>
    rw [List.forall_mem_cons]
    constructor
    · rintro ⟨s', h⟩
      obtain ⟨mid, hmid, hrest⟩ := storeAll_cons_eq_some_iff.mp h
      have hlen := store_length hmid
      refine ⟨(store_eq_some_iff.mp hmid).1, ?_⟩
      have hall := ih.mp ⟨s', hrest⟩
      rwa [hlen] at hall
    · rintro ⟨hw, hws⟩
      have hmid : store s w.1 w.2 = some (s.set w.1.toNat w.2) := store_eq_some_iff.mpr ⟨hw, rfl⟩
      have hin : ∀ w' ∈ ws, 0 ≤ w'.1 ∧ w'.1 < (s.set w.1.toNat w.2).length := by
        rwa [store_length hmid]
      obtain ⟨s', hrest⟩ := ih.mpr hin
      exact ⟨s', storeAll_cons_eq_some_iff.mpr ⟨_, hmid, hrest⟩⟩

lemma index_store {i j : ℤ} {v : α} {s s' : List α} (h : store s j v = some s') :
    index s' i = if i = j then some v else index s i := by
  obtain ⟨⟨h0, hlt⟩, rfl⟩ := store_eq_some_iff.mp h
  exact index_set h0 hlt

/-- An element that no store addresses is unchanged. -/
theorem storeAll_untouched (h : storeAll s ws = some s') {i : ℤ} (hi : ∀ w ∈ ws, w.1 ≠ i) :
    index s' i = index s i := by
  induction ws generalizing s with
  | nil =>
    obtain rfl : s = s' := by simpa using h
    rfl
  | cons w ws ih =>
    obtain ⟨mid, hmid, hrest⟩ := storeAll_cons_eq_some_iff.mp h
    rw [ih hrest (fun w' hw' => hi w' (List.mem_cons_of_mem w hw')), index_store hmid,
      if_neg (Ne.symm (hi w (by simp)))]

/-- An element that some store addresses holds the value of such a store. -/
theorem storeAll_touched (h : storeAll s ws = some s') {i : ℤ} (hi : ∃ w ∈ ws, w.1 = i) :
    ∃ w ∈ ws, w.1 = i ∧ index s' i = some w.2 := by
  induction ws generalizing s with
  | nil =>
    obtain ⟨w, hw, -⟩ := hi
    simp at hw
  | cons w ws ih =>
    obtain ⟨mid, hmid, hrest⟩ := storeAll_cons_eq_some_iff.mp h
    by_cases hlater : ∃ w' ∈ ws, w'.1 = i
    · obtain ⟨w', hw', heq⟩ := ih hrest hlater
      exact ⟨w', List.mem_cons_of_mem w hw', heq⟩
    · obtain ⟨w', hw', rfl⟩ := hi
      rcases List.mem_cons.mp hw' with rfl | hw'
      · refine ⟨w', by simp, rfl, ?_⟩
        have hsame := storeAll_untouched (i := w'.1) hrest (fun v hv heq => hlater ⟨v, hv, heq⟩)
        rw [hsame, index_store hmid, if_pos rfl]
      · exact absurd ⟨w', hw', rfl⟩ hlater

end Effect

end Go
