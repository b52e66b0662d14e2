import Mathlib.Data.List.Nodup
import Mathlib.Tactic

/-!
# Keyed updates of a displayed list

A list on display is brought up to date in two passes that identify its elements by a key: those
whose key is not wanted are removed, then the wanted ones whose key is missing are put in front,
from the last to the first. The main result says when this equals a full redraw.
-/

namespace KeyedDiff

variable {α κ : Type*} [DecidableEq κ] (key : α → κ)

/-- The displayed elements whose key is wanted. -/
def keep (wanted shown : List α) : List α :=
  shown.filter (fun a => decide (key a ∈ wanted.map key))

/-- The wanted elements whose key is missing, in front. -/
def prepend : List α → List α → List α
  | [], shown => shown
  | a :: wanted, shown =>
    if key a ∈ (prepend wanted shown).map key then prepend wanted shown
    else a :: prepend wanted shown

def refresh (wanted shown : List α) : List α := prepend key wanted (keep key wanted shown)

variable {key} {wanted shown : List α}

lemma prepend_cons_of_mem {a : α} (h : key a ∈ (prepend key wanted shown).map key) :
    prepend key (a :: wanted) shown = prepend key wanted shown :=
  if_pos h

lemma prepend_cons_of_notMem {a : α} (h : key a ∉ (prepend key wanted shown).map key) :
    prepend key (a :: wanted) shown = a :: prepend key wanted shown :=
  if_neg h

/-- What is put in front has new keys. -/
lemma prepend_eq (key : α → κ) (wanted shown : List α) :
    ∃ front, prepend key wanted shown = front ++ shown ∧
      ((shown.map key).Nodup → ((front ++ shown).map key).Nodup) := by
  induction wanted with
  | nil => exact ⟨[], rfl, id⟩
  | cons a wanted ih =>
    obtain ⟨front, hfront, hnodup⟩ := ih
    by_cases hnew : key a ∈ (prepend key wanted shown).map key
    · exact ⟨front, (prepend_cons_of_mem hnew).trans hfront, hnodup⟩
    · refine ⟨a :: front, by rw [prepend_cons_of_notMem hnew, hfront, List.cons_append], ?_⟩
      intro hshown
      rw [hfront] at hnew
      rw [List.cons_append, List.map_cons, List.nodup_cons]
      exact ⟨hnew, hnodup hshown⟩

lemma keep_nodup (h : (shown.map key).Nodup) : ((keep key wanted shown).map key).Nodup :=
  h.sublist (List.filter_sublist.map key)

/-- Distinct keys stay distinct. -/
theorem refresh_nodup (h : (shown.map key).Nodup) : ((refresh key wanted shown).map key).Nodup := by
  obtain ⟨front, hfront, hnodup⟩ := prepend_eq key wanted (keep key wanted shown)
  rw [refresh, hfront]
  exact hnodup (keep_nodup h)

/-- Elements that are all missing are put in front in their order. -/
lemma prepend_of_missing (h : (wanted.map key).Nodup)
    (hmissing : ∀ a ∈ wanted, key a ∉ shown.map key) : prepend key wanted shown = wanted ++ shown := by
  induction wanted with
  | nil => rfl
  | cons a wanted ih =>
    rw [List.map_cons, List.nodup_cons] at h
    have hrest := ih h.2 (fun b hb => hmissing b (List.mem_cons_of_mem a hb))
    have hnew : key a ∉ (prepend key wanted shown).map key := by
      rw [hrest, List.map_append, List.mem_append, not_or]
      exact ⟨h.1, hmissing a List.mem_cons_self⟩
    rw [prepend_cons_of_notMem hnew, hrest, List.cons_append]

/-- Elements that are all there change nothing. -/
lemma prepend_of_present (h : ∀ a ∈ wanted, key a ∈ shown.map key) :
    prepend key wanted shown = shown := by
  induction wanted with
  | nil => rfl
  | cons a wanted ih =>
    have hrest := ih (fun b hb => h b (List.mem_cons_of_mem a hb))
    have hthere : key a ∈ (prepend key wanted shown).map key := by
      rw [hrest]
      exact h a List.mem_cons_self
    rw [prepend_cons_of_mem hthere, hrest]

lemma prepend_append (front back : List α) :
    prepend key (front ++ back) shown = prepend key front (prepend key back shown) := by
  induction front with
  | nil => rfl
  | cons a front ih => rw [List.cons_append, prepend, prepend, ih]

/-- The update is a full redraw if the elements kept are the last ones wanted. -/
theorem refresh_of_suffix (hnodup : (wanted.map key).Nodup) (h : keep key wanted shown <:+ wanted) :
    refresh key wanted shown = wanted := by
  obtain ⟨front, hsplit⟩ := h
  have hkeys := hnodup
  rw [← hsplit, List.map_append] at hkeys
  have hdisjoint := List.disjoint_of_nodup_append hkeys
  rw [List.nodup_append] at hkeys
  calc refresh key wanted shown
      = prepend key (front ++ keep key wanted shown) (keep key wanted shown) := by
        rw [hsplit, refresh]
    _ = prepend key front (keep key wanted shown) := by
        rw [prepend_append, prepend_of_present (fun a ha => List.mem_map_of_mem ha)]
    _ = front ++ keep key wanted shown :=
        prepend_of_missing hkeys.1 (fun a ha => hdisjoint (List.mem_map_of_mem ha))
    _ = wanted := hsplit

/-- From distinct keys it is one in no other case. -/
theorem refresh_eq_iff (h : (shown.map key).Nodup) : refresh key wanted shown = wanted ↔
    (wanted.map key).Nodup ∧ keep key wanted shown <:+ wanted := by
  refine ⟨?_, fun hsuffix => refresh_of_suffix hsuffix.1 hsuffix.2⟩
  intro heq
  obtain ⟨front, hfront, -⟩ := prepend_eq key wanted (keep key wanted shown)
  have hnodup : ((refresh key wanted shown).map key).Nodup := refresh_nodup h
  rw [heq] at hnodup
  exact ⟨hnodup, front, hfront.symm.trans heq⟩

end KeyedDiff
