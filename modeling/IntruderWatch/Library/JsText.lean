import IntruderWatch.Library.PyText

/-!
# JavaScript strings

A string is a list of UTF-16 code units. A Python text reaches the browser as its code units; ASCII
characters stand for themselves and never occur in a surrogate pair.
-/

namespace Js

abbrev Str := List UInt16

def ofChar (c : Char) : UInt16 := UInt16.ofNat c.toNat

/-- The code units of a code point. -/
def codeUnits (c : Py.CodePoint) : Str :=
  if c.val < 0x10000 then [UInt16.ofNat c.val]
  else [UInt16.ofNat (0xD800 + (c.val - 0x10000) / 1024), UInt16.ofNat (0xDC00 + c.val % 1024)]

def utf16 (s : Py.Str) : Str := s.flatMap codeUnits

def lit (s : String) : Str := utf16 (Py.lit s)

/-- `a || b` for strings. -/
def orElse (a b : Str) : Str := if a = [] then b else a

/-- `s.split(sep)[0]`. -/
def firstPart (sep : UInt16) (s : Str) : Str := (s.splitOn sep).headD []

/-- `s.replace(/\.[^/.]+$/, "")`: the match that begins first reaches to the end. -/
def removeExtension : Str → Str
  | [] => []
  | c :: s =>
    if c = ofChar '.' ∧ s ≠ [] ∧ ofChar '/' ∉ s ∧ ofChar '.' ∉ s then [] else c :: removeExtension s

/-! ### Code units -/

@[simp] lemma utf16_append (s t : Py.Str) : utf16 (s ++ t) = utf16 s ++ utf16 t :=
  List.flatMap_append

lemma codeUnits_ne_nil (c : Py.CodePoint) : codeUnits c ≠ [] := by
  unfold codeUnits
  split <;> simp

@[simp] lemma utf16_eq_nil_iff {s : Py.Str} : utf16 s = [] ↔ s = [] := by
  cases s with
  | nil => simp [utf16]
  | cons c s => simp [utf16, codeUnits_ne_nil]

lemma toNat_ofChar {c : Char} (hc : c.toNat < 0xD800) : (ofChar c).toNat = c.toNat := by
  rw [ofChar, UInt16.toNat_ofNat', Nat.mod_eq_of_lt (by omega)]

lemma mem_codeUnits {c : Char} (hc : c.toNat < 0xD800) {d : Py.CodePoint} :
    ofChar c ∈ codeUnits d ↔ Py.ofChar c = d := by
  have hchar : (Py.ofChar c).val = c.toNat := rfl
  have hd := d.2
  unfold codeUnits
  split
  · next hsmall =>
    rw [List.mem_singleton, ← UInt16.toNat_inj, toNat_ofChar hc, UInt16.toNat_ofNat',
      Nat.mod_eq_of_lt (by omega), Fin.ext_iff, hchar]
  · next hlarge =>
    simp only [List.mem_cons, List.not_mem_nil, or_false, ← UInt16.toNat_inj, toNat_ofChar hc,
      UInt16.toNat_ofNat', Fin.ext_iff, hchar]
    omega

/-- A character below the surrogates occurs in the code units where it occurs in the text. -/
lemma mem_utf16 {c : Char} (hc : c.toNat < 0xD800) {s : Py.Str} :
    ofChar c ∈ utf16 s ↔ Py.ofChar c ∈ s := by
  unfold utf16
  simp only [List.mem_flatMap, mem_codeUnits hc]
  constructor
  · rintro ⟨d, hd, rfl⟩
    exact hd
  · intro h
    exact ⟨_, h, rfl⟩

lemma utf16_cons {c : Char} (hc : c.toNat < 0xD800) (s : Py.Str) :
    utf16 (Py.ofChar c :: s) = ofChar c :: utf16 s := by
  have hval : (Py.ofChar c).val = c.toNat := rfl
  rw [utf16, List.flatMap_cons, codeUnits, if_pos (by omega), hval]
  rfl

/-! ### Parts and extensions -/

lemma firstPart_append {sep : UInt16} {s : Str} (h : sep ∉ s) (t : Str) :
    firstPart sep (s ++ sep :: t) = s := by
  rw [firstPart, List.splitOn_append_cons_self_of_not_mem h]
  rfl

lemma removeExtension_append {s : Str} (hne : s ≠ []) (hslash : ofChar '/' ∉ s)
    (hdot : ofChar '.' ∉ s) (front : Str) : removeExtension (front ++ ofChar '.' :: s) = front := by
  induction front with
  | nil => rw [List.nil_append, removeExtension, if_pos ⟨rfl, hne, hslash, hdot⟩]
  | cons c front ih =>
    have hrest : ofChar '.' ∈ front ++ ofChar '.' :: s := by simp
    rw [List.cons_append, removeExtension, if_neg (fun h => h.2.2.2 hrest), ih]

lemma mem_of_mem_removeExtension {s : Str} {c : UInt16} (h : c ∈ removeExtension s) : c ∈ s := by
  induction s with
  | nil => exact h
  | cons d s ih =>
    rw [removeExtension] at h
    split at h
    · cases h
    · rw [List.mem_cons] at h ⊢
      exact h.imp_right ih

end Js
