import Mathlib.Data.List.TakeWhile
import IntruderWatch.Library.PyOps

/-!
# URIs

The characters of RFC 3986, and the reading of a URI: fragment, query, authority and path are cut
off at their delimiters, the segments are percent-decoded, and the pairs of the query are decoded
as form data. Characters that do not belong into a URI stand for themselves in the reading.
-/

namespace Uri
open Py

/-! ### Characters -/

def isAlphanumeric (c : CodePoint) : Bool :=
  (48 ≤ c.val && c.val ≤ 57) || (65 ≤ c.val && c.val ≤ 90) || (97 ≤ c.val && c.val ≤ 122)

def isUnreserved (c : CodePoint) : Bool :=
  isAlphanumeric c || (lit "-._~").any (· = c)

/-- The general and the sub-delimiters. -/
def isReserved (c : CodePoint) : Bool :=
  (lit ":/?#[]@!$&'()*+,;=").any (· = c)

def hexValue (c : CodePoint) : Option ℕ :=
  if 48 ≤ c.val ∧ c.val ≤ 57 then some (c.val - 48)
  else if 65 ≤ c.val ∧ c.val ≤ 70 then some (c.val - 55)
  else if 97 ≤ c.val ∧ c.val ≤ 102 then some (c.val - 87)
  else none

def percent : CodePoint := ofChar '%'

/-- `need` hexadecimal digits of an escape are missing. -/
def wellFormedLoop : ℕ → Str → Bool
  | need, [] => need = 0
  | 0, c :: s =>
    if c = percent then wellFormedLoop 2 s
    else (isUnreserved c || isReserved c) && wellFormedLoop 0 s
  | need + 1, c :: s => (hexValue c).isSome && wellFormedLoop need s

/-- Only characters of RFC 3986, with complete escapes. -/
def wellFormed (s : Str) : Bool := wellFormedLoop 0 s

lemma isUnreserved_of_hexValue {c : CodePoint} (h : (hexValue c).isSome = true) :
    isUnreserved c = true := by
  have halnum : isAlphanumeric c = true := by
    unfold hexValue at h
    simp only [isAlphanumeric, Bool.or_eq_true, Bool.and_eq_true, decide_eq_true_eq]
    split_ifs at h with h1 h2 h3
    · exact Or.inl (Or.inl h1)
    · exact Or.inl (Or.inr ⟨h2.1, h2.2.trans (by norm_num)⟩)
    · exact Or.inr ⟨h3.1, h3.2.trans (by norm_num)⟩
    · cases h
  rw [isUnreserved, halnum]
  rfl

lemma mem_wellFormedLoop {need : ℕ} {s : Str} (h : wellFormedLoop need s = true) {c : CodePoint}
    (hc : c ∈ s) : isUnreserved c = true ∨ isReserved c = true ∨ c = percent := by
  induction s generalizing need with
  | nil => simp at hc
  | cons d s ih =>
    cases need with
    | zero =>
      rw [wellFormedLoop] at h
      rcases List.mem_cons.mp hc with rfl | hmem
      · split_ifs at h with hpercent
        · exact Or.inr (Or.inr hpercent)
        · rw [Bool.and_eq_true, Bool.or_eq_true] at h
          exact h.1.imp_right Or.inl
      · split_ifs at h with hpercent
        · exact ih h hmem
        · exact ih (Bool.and_eq_true_iff.mp h).2 hmem
    | succ need =>
      rw [wellFormedLoop, Bool.and_eq_true] at h
      rcases List.mem_cons.mp hc with rfl | hmem
      · exact Or.inl (isUnreserved_of_hexValue h.1)
      · exact ih h.2 hmem

/-- A URI has no character outside of RFC 3986. -/
lemma not_wellFormed {s : Str} {c : CodePoint} (hc : c ∈ s) (hunreserved : isUnreserved c = false)
    (hreserved : isReserved c = false) (hpercent : c ≠ percent) : wellFormed s = false := by
  apply Bool.eq_false_iff.mpr
  intro h
  rcases mem_wellFormedLoop h hc with hyes | hyes | hyes
  · simp [hunreserved] at hyes
  · simp [hreserved] at hyes
  · exact hpercent hyes

/-! ### Decoding -/

/-- The bytes of a text with escapes; a percent sign without two digits stands for itself. -/
def percentBytes : Str → Option (List UInt8)
  | c :: a :: b :: rest =>
    if c = percent then
      match hexValue a, hexValue b with
      | some x, some y => (percentBytes rest).map (UInt8.ofNat (16 * x + y) :: ·)
      | _, _ => (percentBytes (a :: b :: rest)).map (37 :: ·)
    else (encodeCodePoint c).bind (fun bytes => (percentBytes (a :: b :: rest)).map (bytes ++ ·))
  | c :: s => (encodeCodePoint c).bind (fun bytes => (percentBytes s).map (bytes ++ ·))
  | [] => some []

def percentDecode (s : Str) : Option Str :=
  (percentBytes s).bind (fun bytes => (decode bytes).toOption)

/-- Decoding of form data: a plus sign is a space. -/
def formDecode (s : Str) : Option Str :=
  percentDecode (s.map (fun c => if c = ofChar '+' then ofChar ' ' else c))

lemma percentBytes_cons {c : CodePoint} (hc : c ≠ percent) (s : Str) :
    percentBytes (c :: s) =
      (encodeCodePoint c).bind (fun bytes => (percentBytes s).map (bytes ++ ·)) := by
  cases s with
  | nil =>
    rw [percentBytes]
    simp
  | cons a s =>
    cases s with
    | nil =>
      rw [percentBytes]
      simp
    | cons b rest => rw [percentBytes, if_neg hc]

/-- Text without escapes is its own encoding. -/
lemma percentBytes_encode {s : Str} (hpercent : percent ∉ s) {bytes : List UInt8}
    (h : encode s = .ok bytes) : percentBytes s = some bytes := by
  induction s generalizing bytes with
  | nil =>
    obtain rfl : [] = bytes := by simpa [encode] using h
    rfl
  | cons c s ih =>
    rw [List.mem_cons, not_or] at hpercent
    rw [percentBytes_cons (Ne.symm hpercent.1)]
    rw [encode] at h
    cases hc : encodeCodePoint c with
    | none =>
      rw [hc] at h
      cases h
    | some first =>
      rw [hc] at h
      obtain ⟨rest, hrest, h⟩ := bind_eq_ok.mp h
      obtain rfl := Except.ok.inj h
      rw [ih hpercent.2 hrest]
      rfl

lemma percentDecode_self {s : Str} (hpercent : percent ∉ s)
    (hsurrogate : ∀ c ∈ s, isSurrogate c.val = false) : percentDecode s = some s := by
  obtain ⟨bytes, hbytes⟩ := encode_isOk hsurrogate
  rw [percentDecode, percentBytes_encode hpercent hbytes, Option.bind_some, decode_encode hbytes]
  rfl

lemma formDecode_self {s : Str} (hpercent : percent ∉ s) (hplus : ofChar '+' ∉ s)
    (hsurrogate : ∀ c ∈ s, isSurrogate c.val = false) : formDecode s = some s := by
  have hmap : s.map (fun c => if c = ofChar '+' then ofChar ' ' else c) = s := by
    conv_rhs => rw [← List.map_id s]
    apply List.map_congr_left
    intro c hc
    have hne : c ≠ ofChar '+' := fun heq => hplus (heq ▸ hc)
    exact if_neg hne
  rw [formDecode, hmap]
  exact percentDecode_self hpercent hsurrogate

/-! ### Parsing -/

structure Location where
  segments : List Str
  query : List (Str × Str)

/-- The value of a parameter, the last one if it is given more than once. -/
def Location.param (location : Location) (name : Str) : Option Str :=
  ((location.query.filter (fun pair => pair.1 = name)).getLast?).map Prod.snd

def decodePair (pair : Str) : Option (Str × Str) := do
  let (name, value) := (splitFirst (ofChar '=') pair).getD (pair, [])
  let name ← formDecode name
  let value ← formDecode value
  some (name, value)

/-- Path and query of a URI with an authority. -/
def parse (uri : Str) : Option Location := do
  let beforeFragment := uri.takeWhile (· ≠ ofChar '#')
  let (hier, query) := (splitFirst (ofChar '?') beforeFragment).getD (beforeFragment, [])
  let (_, rest) ← splitFirst (ofChar ':') hier
  if (lit "//").isPrefixOf rest then
    let path := (rest.drop 2).dropWhile (· ≠ slash)
    let segments ← (split slash (path.drop 1)).mapM percentDecode
    let pairs ← ((split (ofChar '&') query).filter (· ≠ [])).mapM decodePair
    some ⟨segments, pairs⟩
  else none

section Parse

variable {authority path query : Str}

/-- The delimiters of a URI stand only where its parts end. -/
lemma parse_eq (hslash : slash ∉ authority) (hquestion : ofChar '?' ∉ authority ++ slash :: path)
    (hhash : ofChar '#' ∉ authority ++ slash :: path ++ ofChar '?' :: query) :
    parse (lit "https://" ++ (authority ++ slash :: path) ++ ofChar '?' :: query) = (do
      let segments ← (split slash path).mapM percentDecode
      let pairs ← ((split (ofChar '&') query).filter (· ≠ [])).mapM decodePair
      some ⟨segments, pairs⟩) := by
  have hhier : ofChar '?' ∉ lit "https://" ++ (authority ++ slash :: path) := by
    rw [List.mem_append, not_or]
    exact ⟨by decide, hquestion⟩
  have huri : ofChar '#' ∉ lit "https://" ++ (authority ++ slash :: path) ++ ofChar '?' :: query := by
    rw [List.append_assoc, List.mem_append, not_or]
    exact ⟨by decide, hhash⟩
  have hfragment : (lit "https://" ++ (authority ++ slash :: path) ++ ofChar '?' :: query).takeWhile
      (· ≠ ofChar '#') = lit "https://" ++ (authority ++ slash :: path) ++ ofChar '?' :: query := by
    apply List.takeWhile_eq_self_iff.mpr
    intro c hc
    exact decide_eq_true (fun heq => huri (heq ▸ hc))
  have hcolon : splitFirst (ofChar ':') (lit "https://" ++ (authority ++ slash :: path)) =
      some (lit "https", lit "//" ++ (authority ++ slash :: path)) := by
    have hlit : lit "https://" ++ (authority ++ slash :: path) =
        lit "https" ++ ofChar ':' :: (lit "//" ++ (authority ++ slash :: path)) := rfl
    rw [hlit]
    exact splitFirst_append (by decide) _
  have hdrop : ((lit "//" ++ (authority ++ slash :: path)).drop 2).dropWhile (· ≠ slash) =
      slash :: path := by
    have hauthority : ∀ c ∈ authority, decide (c ≠ slash) = true :=
      fun c hc => decide_eq_true (fun heq => hslash (heq ▸ hc))
    have hlit : (lit "//" ++ (authority ++ slash :: path)).drop 2 = authority ++ slash :: path := rfl
    rw [hlit, List.dropWhile_append_of_pos hauthority]
    simp
  have hstarts : (lit "//").isPrefixOf (lit "//" ++ (authority ++ slash :: path)) = true :=
    List.isPrefixOf_iff_prefix.mpr (List.prefix_append _ _)
  rw [parse, hfragment, splitFirst_append hhier query]
  simp only [Option.getD_some, hcolon, Option.bind_eq_bind, Option.bind_some, hstarts, if_true, hdrop,
    List.drop_one, List.tail_cons]

end Parse

end Uri
