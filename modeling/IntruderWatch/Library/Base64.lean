import Mathlib.Tactic

/-!
# Base64

The encoding of RFC 4648 with its two alphabets, and the lenient decoder of CPython's
`binascii.a2b_base64`: bytes outside the alphabet are skipped, a complete padding ends the
input, and only a data character count of one more than a multiple of four or a missing
padding is an error.
-/

namespace Base64

/-- The ASCII character of a 6-bit value. -/
def digit (v : ℕ) : UInt8 :=
  if v < 26 then UInt8.ofNat (65 + v)
  else if v < 52 then UInt8.ofNat (71 + v)
  else if v < 62 then UInt8.ofNat (v - 4)
  else if v = 62 then 43
  else 47

/-- `table_a2b_base64`, without the padding character. -/
def value (c : UInt8) : Option ℕ :=
  let n := c.toNat
  if 65 ≤ n ∧ n ≤ 90 then some (n - 65)
  else if 97 ≤ n ∧ n ≤ 122 then some (n - 71)
  else if 48 ≤ n ∧ n ≤ 57 then some (n + 4)
  else if n = 43 then some 62
  else if n = 47 then some 63
  else none

def pad : UInt8 := 61

def encode : List UInt8 → List UInt8
  | [] => []
  | [a] => [digit (a.toNat / 4), digit (a.toNat % 4 * 16), pad, pad]
  | [a, b] =>
    [digit (a.toNat / 4), digit (a.toNat % 4 * 16 + b.toNat / 16), digit (b.toNat % 16 * 4), pad]
  | a :: b :: c :: rest =>
    digit (a.toNat / 4) :: digit (a.toNat % 4 * 16 + b.toNat / 16) ::
      digit (b.toNat % 16 * 4 + c.toNat / 64) :: digit (c.toNat % 64) :: encode rest

/-- The loop of `a2b_base64`: `quadPos` data characters of the current group are read,
`leftchar` holds their bits not yet written, and `pads` counts padding characters. -/
def a2bLoop : List UInt8 → ℕ → ℕ → ℕ → Option (List UInt8)
  | [], quadPos, _, _ => if quadPos = 0 then some [] else none
  | c :: rest, quadPos, leftchar, pads =>
    if c = pad then
      if 2 ≤ quadPos ∧ 4 ≤ quadPos + (pads + 1) then some []
      else a2bLoop rest quadPos leftchar (if 2 ≤ quadPos then pads + 1 else pads)
    else
      match value c with
      | none => a2bLoop rest quadPos leftchar pads
      | some v =>
        match quadPos with
        | 0 => a2bLoop rest 1 v 0
        | 1 => (a2bLoop rest 2 (v % 16) 0).map (UInt8.ofNat (leftchar * 4 + v / 16) :: ·)
        | 2 => (a2bLoop rest 3 (v % 4) 0).map (UInt8.ofNat (leftchar * 16 + v / 4) :: ·)
        | _ => (a2bLoop rest 0 0 0).map (UInt8.ofNat (leftchar * 64 + v) :: ·)

def a2b (s : List UInt8) : Option (List UInt8) :=
  a2bLoop s 0 0 0

lemma value_digit {v : ℕ} (h : v < 64) : value (digit v) = some v := by
  have hall : ∀ w : Fin 64, value (digit w.val) = some w.val := by decide
  exact hall ⟨v, h⟩

lemma digit_ne_pad {v : ℕ} (h : v < 64) : digit v ≠ pad := by
  have hall : ∀ w : Fin 64, digit w.val ≠ pad := by decide
  exact hall ⟨v, h⟩

section Loop

variable {v quadPos leftchar pads : ℕ} {rest : List UInt8}

lemma a2bLoop_first (hv : v < 64) : a2bLoop (digit v :: rest) 0 leftchar pads = a2bLoop rest 1 v 0 := by
  simp only [a2bLoop, if_neg (digit_ne_pad hv), value_digit hv]

lemma a2bLoop_second (hv : v < 64) : a2bLoop (digit v :: rest) 1 leftchar pads =
    (a2bLoop rest 2 (v % 16) 0).map (UInt8.ofNat (leftchar * 4 + v / 16) :: ·) := by
  simp only [a2bLoop, if_neg (digit_ne_pad hv), value_digit hv]

lemma a2bLoop_third (hv : v < 64) : a2bLoop (digit v :: rest) 2 leftchar pads =
    (a2bLoop rest 3 (v % 4) 0).map (UInt8.ofNat (leftchar * 16 + v / 4) :: ·) := by
  simp only [a2bLoop, if_neg (digit_ne_pad hv), value_digit hv]

lemma a2bLoop_fourth (hv : v < 64) : a2bLoop (digit v :: rest) 3 leftchar pads =
    (a2bLoop rest 0 0 0).map (UInt8.ofNat (leftchar * 64 + v) :: ·) := by
  simp only [a2bLoop, if_neg (digit_ne_pad hv), value_digit hv]

end Loop

lemma ofNat_eq_of_toNat_eq {a : UInt8} {n : ℕ} (h : n = a.toNat) : UInt8.ofNat n = a := by
  rw [h, UInt8.ofNat_toNat]

/-- Decoding inverts encoding. -/
theorem a2b_encode (s : List UInt8) : a2b (encode s) = some s := by
  unfold a2b
  induction s using encode.induct with
  | case1 => rfl
  | case2 a =>
    have ha := a.toNat_lt
    have hq1 : a.toNat / 4 < 64 := by omega
    have hq2 : a.toNat % 4 * 16 < 64 := by omega
    have hbyte : UInt8.ofNat (a.toNat / 4 * 4 + a.toNat % 4 * 16 / 16) = a :=
      ofNat_eq_of_toNat_eq (by omega)
    rw [encode, a2bLoop_first hq1, a2bLoop_second hq2, hbyte]
    rfl
  | case3 a b =>
    have ha := a.toNat_lt
    have hb := b.toNat_lt
    have hq1 : a.toNat / 4 < 64 := by omega
    have hq2 : a.toNat % 4 * 16 + b.toNat / 16 < 64 := by omega
    have hq3 : b.toNat % 16 * 4 < 64 := by omega
    have hbyte1 : UInt8.ofNat (a.toNat / 4 * 4 + (a.toNat % 4 * 16 + b.toNat / 16) / 16) = a :=
      ofNat_eq_of_toNat_eq (by omega)
    have hbyte2 : UInt8.ofNat ((a.toNat % 4 * 16 + b.toNat / 16) % 16 * 16 +
        b.toNat % 16 * 4 / 4) = b := ofNat_eq_of_toNat_eq (by omega)
    rw [encode, a2bLoop_first hq1, a2bLoop_second hq2, a2bLoop_third hq3, hbyte1, hbyte2]
    rfl
  | case4 a b c rest ih =>
    have ha := a.toNat_lt
    have hb := b.toNat_lt
    have hc := c.toNat_lt
    have hq1 : a.toNat / 4 < 64 := by omega
    have hq2 : a.toNat % 4 * 16 + b.toNat / 16 < 64 := by omega
    have hq3 : b.toNat % 16 * 4 + c.toNat / 64 < 64 := by omega
    have hq4 : c.toNat % 64 < 64 := by omega
    have hbyte1 : UInt8.ofNat (a.toNat / 4 * 4 + (a.toNat % 4 * 16 + b.toNat / 16) / 16) = a :=
      ofNat_eq_of_toNat_eq (by omega)
    have hbyte2 : UInt8.ofNat ((a.toNat % 4 * 16 + b.toNat / 16) % 16 * 16 +
        (b.toNat % 16 * 4 + c.toNat / 64) / 4) = b := ofNat_eq_of_toNat_eq (by omega)
    have hbyte3 : UInt8.ofNat ((b.toNat % 16 * 4 + c.toNat / 64) % 4 * 64 + c.toNat % 64) = c :=
      ofNat_eq_of_toNat_eq (by omega)
    rw [encode, a2bLoop_first hq1, a2bLoop_second hq2, a2bLoop_third hq3, a2bLoop_fourth hq4, ih,
      hbyte1, hbyte2, hbyte3]
    rfl

/-! ### The URL-safe alphabet -/

def toUrlsafe (c : UInt8) : UInt8 :=
  if c = 43 then 45 else if c = 47 then 95 else c

def ofUrlsafe (c : UInt8) : UInt8 :=
  if c = 45 then 43 else if c = 95 then 47 else c

def urlsafeEncode (s : List UInt8) : List UInt8 :=
  (encode s).map toUrlsafe

def urlsafeDecode (s : List UInt8) : Option (List UInt8) :=
  a2b (s.map ofUrlsafe)

lemma encode_mem {s : List UInt8} {c : UInt8} (hc : c ∈ encode s) : c = pad ∨ ∃ v < 64, c = digit v := by
  induction s using encode.induct with
  | case1 => simp [encode] at hc
  | case2 a =>
    have ha := a.toNat_lt
    simp only [encode, List.mem_cons, List.not_mem_nil, or_false] at hc
    rcases hc with rfl | rfl | rfl | rfl
    · exact Or.inr ⟨_, by omega, rfl⟩
    · exact Or.inr ⟨_, by omega, rfl⟩
    · exact Or.inl rfl
    · exact Or.inl rfl
  | case3 a b =>
    have ha := a.toNat_lt
    have hb := b.toNat_lt
    simp only [encode, List.mem_cons, List.not_mem_nil, or_false] at hc
    rcases hc with rfl | rfl | rfl | rfl
    · exact Or.inr ⟨_, by omega, rfl⟩
    · exact Or.inr ⟨_, by omega, rfl⟩
    · exact Or.inr ⟨_, by omega, rfl⟩
    · exact Or.inl rfl
  | case4 a b c rest ih =>
    have ha := a.toNat_lt
    have hb := b.toNat_lt
    have hc' := c.toNat_lt
    simp only [encode, List.mem_cons] at hc
    rcases hc with rfl | rfl | rfl | rfl | hc
    · exact Or.inr ⟨_, by omega, rfl⟩
    · exact Or.inr ⟨_, by omega, rfl⟩
    · exact Or.inr ⟨_, by omega, rfl⟩
    · exact Or.inr ⟨_, by omega, rfl⟩
    · exact ih hc

/-- The characters of an encoded text. -/
lemma encode_range {s : List UInt8} {c : UInt8} (h : c ∈ encode s) :
    43 ≤ c.toNat ∧ c.toNat ≤ 61 ∨ 65 ≤ c.toNat ∧ c.toNat ≤ 90 ∨ 97 ≤ c.toNat ∧ c.toNat ≤ 122 := by
  have hdigit : ∀ v : Fin 64, 43 ≤ (digit v).toNat ∧ (digit v).toNat ≤ 61 ∨
      65 ≤ (digit v).toNat ∧ (digit v).toNat ≤ 90 ∨
        97 ≤ (digit v).toNat ∧ (digit v).toNat ≤ 122 := by decide
  rcases encode_mem h with rfl | ⟨v, hv, rfl⟩
  · decide
  · exact hdigit ⟨v, hv⟩

lemma ofUrlsafe_toUrlsafe {c : UInt8} (hc : c = pad ∨ ∃ v < 64, c = digit v) :
    ofUrlsafe (toUrlsafe c) = c := by
  have hall : ∀ w : Fin 64, ofUrlsafe (toUrlsafe (digit w.val)) = digit w.val := by decide
  rcases hc with rfl | ⟨v, hv, rfl⟩
  · rfl
  · exact hall ⟨v, hv⟩

theorem urlsafeDecode_encode (s : List UInt8) : urlsafeDecode (urlsafeEncode s) = some s := by
  have hmap : ((encode s).map toUrlsafe).map ofUrlsafe = encode s := by
    rw [List.map_map]
    conv_rhs => rw [← List.map_id (encode s)]
    apply List.map_congr_left
    intro c hc
    exact ofUrlsafe_toUrlsafe (encode_mem hc)
  rw [urlsafeDecode, urlsafeEncode, hmap, a2b_encode]

lemma urlsafeEncode_ascii {s : List UInt8} {c : UInt8} (hc : c ∈ urlsafeEncode s) : c.toNat < 128 := by
  have hall : ∀ w : Fin 64, (toUrlsafe (digit w.val)).toNat < 128 := by decide
  obtain ⟨b, hb, rfl⟩ := List.mem_map.mp hc
  rcases encode_mem hb with rfl | ⟨v, hv, rfl⟩
  · decide
  · exact hall ⟨v, hv⟩

end Base64
