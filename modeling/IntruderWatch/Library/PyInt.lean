import IntruderWatch.Library.PyText

/-!
# Python integers and their text

`str(n)` and `int(s)` in base 10: surrounding white space, a sign, single underscores between
digits, the decimal digits of every script, and the limit on the number of digits. The main
result is that `int` inverts `str`.
-/

namespace Py

/-- `sys.int_info.default_max_str_digits`. -/
def maxStrDigits : ℕ := 4300

def strLimit : ℕ := 10 ^ maxStrDigits

/-- An integer that `str` converts without reaching the limit. -/
abbrev Integer := {n : ℤ // n.natAbs < strLimit}

/-- A small natural number. -/
def smallInteger (n : ℕ) (h : n ≤ maxStrDigits) : Integer :=
  ⟨(n : ℤ), h.trans_lt (Nat.lt_pow_self (by norm_num))⟩

/-! ### Printing -/

/-- The decimal digits, most significant first; `0` has one digit. -/
def decimalDigits (n : ℕ) : List ℕ :=
  if n = 0 then [0] else (Nat.digits 10 n).reverse

def digitChar (d : ℕ) : CodePoint := codePoint (48 + d)

def minus : CodePoint := ofChar '-'

/-- The text of an integer, without the limit. -/
def decimal (n : ℤ) : Str :=
  let digits := (decimalDigits n.natAbs).map digitChar
  if n < 0 then minus :: digits else digits

/-- `str(n)`. -/
def intStr (n : ℤ) : Except Exn Str :=
  if n.natAbs < strLimit then .ok (decimal n) else .error .valueError

/-! ### Parsing -/

/-- The zeros of the decimal digit ranges (category Nd) of Unicode 16. -/
def decimalZeros : List ℕ :=
  [0x30, 0x660, 0x6F0, 0x7C0, 0x966, 0x9E6, 0xA66, 0xAE6, 0xB66, 0xBE6, 0xC66, 0xCE6, 0xD66,
    0xDE6, 0xE50, 0xED0, 0xF20, 0x1040, 0x1090, 0x17E0, 0x1810, 0x1946, 0x19D0, 0x1A80, 0x1A90,
    0x1B50, 0x1BB0, 0x1C40, 0x1C50, 0xA620, 0xA8D0, 0xA900, 0xA9D0, 0xA9F0, 0xAA50, 0xABF0,
    0xFF10, 0x104A0, 0x10D30, 0x10D40, 0x11066, 0x110F0, 0x11136, 0x111D0, 0x112F0, 0x11450,
    0x114D0, 0x11650, 0x116C0, 0x116D0, 0x116DA, 0x11730, 0x118E0, 0x11950, 0x11BF0, 0x11C50,
    0x11D50, 0x11DA0, 0x11F50, 0x16130, 0x16A60, 0x16AC0, 0x16B50, 0x16D70, 0x1CCF0, 0x1D7CE,
    0x1D7D8, 0x1D7E2, 0x1D7EC, 0x1D7F6, 0x1E140, 0x1E2F0, 0x1E4F0, 0x1E5F1, 0x1E950, 0x1FBF0]

/-- The white space of `str.isspace` beyond ASCII. -/
def wideSpaces : List ℕ :=
  [0x85, 0xA0, 0x1680, 0x2000, 0x2001, 0x2002, 0x2003, 0x2004, 0x2005, 0x2006, 0x2007, 0x2008,
    0x2009, 0x200A, 0x2028, 0x2029, 0x202F, 0x205F, 0x3000]

/-- `_PyUnicode_TransformDecimalAndSpaceToASCII` on one character; `63` is `?`. -/
def toAsciiDigit (c : CodePoint) : ℕ :=
  let n := c.val
  if n < 128 then n
  else if n ∈ wideSpaces then 32
  else
    match decimalZeros.find? (fun z => z ≤ n && n < z + 10) with
    | some z => 48 + (n - z)
    | none => 63

/-- `Py_ISSPACE`. -/
def isSpace (n : ℕ) : Bool :=
  (9 ≤ n && n ≤ 13) || n = 32

def isDigit (n : ℕ) : Bool :=
  48 ≤ n && n ≤ 57

/-- What the digit scanner has just read. -/
inductive Scanned
  | nothing
  | digit
  | underscore
deriving DecidableEq

/-- Reads digits with single underscores between them; returns the digits and the rest. -/
def scanDigits : List ℕ → Scanned → Option (List ℕ × List ℕ)
  | [], prev => if prev = .digit then some ([], []) else none
  | c :: rest, prev =>
    if isDigit c then (scanDigits rest .digit).map (fun p => ((c - 48) :: p.1, p.2))
    else if c = 95 then if prev = .digit then scanDigits rest .underscore else none
    else if prev = .digit then some ([], c :: rest) else none

lemma scanDigits_lt {s : List ℕ} {prev : Scanned} {ds rest : List ℕ}
    (h : scanDigits s prev = some (ds, rest)) : ∀ d ∈ ds, d < 10 := by
  induction s generalizing prev ds with
  | nil =>
    rw [scanDigits] at h
    split at h
    · obtain ⟨rfl, -⟩ : [] = ds ∧ [] = rest := by simpa using h
      simp
    · cases h
  | cons c s ih =>
    rw [scanDigits] at h
    split at h
    · next hc =>
      obtain ⟨⟨ds', rest'⟩, hscan, hds⟩ := Option.map_eq_some_iff.mp h
      obtain ⟨rfl, rfl⟩ := Prod.mk.inj hds
      intro d hd
      rw [List.mem_cons] at hd
      rcases hd with rfl | hd
      · simp only [isDigit, Bool.and_eq_true, decide_eq_true_eq] at hc
        omega
      · exact ih hscan d hd
    · split at h
      · split at h
        · exact ih h
        · cases h
      · split at h
        · obtain ⟨rfl, -⟩ : [] = ds ∧ c :: s = rest := by simpa using h
          simp
        · cases h

/-- The magnitude of at most `maxStrDigits` digits. -/
def ofDecimalDigits (ds : List ℕ) : ℕ :=
  Nat.ofDigits 10 ds.reverse

lemma ofDecimalDigits_lt {ds : List ℕ} (hds : ∀ d ∈ ds, d < 10) (hlen : ds.length ≤ maxStrDigits) :
    ofDecimalDigits ds < strLimit := by
  have hlt := Nat.ofDigits_lt_base_pow_length (b := 10) (l := ds.reverse) (by norm_num)
    (fun d hd => hds d (List.mem_reverse.mp hd))
  rw [List.length_reverse] at hlt
  exact hlt.trans_le (Nat.pow_le_pow_right (by norm_num) hlen)

/-- The part of `PyLong_FromString` after the sign. -/
def parseMagnitude (s : List ℕ) : Option {n : ℕ // n < strLimit} :=
  match h : scanDigits s .nothing with
  | none => none
  | some (ds, rest) =>
    if hlen : ds.length ≤ maxStrDigits then
      if rest.all isSpace then
        some ⟨ofDecimalDigits ds, ofDecimalDigits_lt (scanDigits_lt h) hlen⟩
      else none
    else none

def negate (m : {n : ℕ // n < strLimit}) : Integer :=
  ⟨-(m.val : ℤ), by simpa using m.2⟩

def ofMagnitude (m : {n : ℕ // n < strLimit}) : Integer :=
  ⟨(m.val : ℤ), by simpa using m.2⟩

/-- A leading sign: whether it is a minus, and the text after it. -/
def splitSign : List ℕ → Bool × List ℕ
  | [] => (false, [])
  | c :: rest => if c = 45 then (true, rest) else if c = 43 then (false, rest) else (false, c :: rest)

/-- `int(s)`. -/
def parseInt (s : Str) : Except Exn Integer :=
  let (neg, rest) := splitSign ((s.map toAsciiDigit).dropWhile isSpace)
  match parseMagnitude rest with
  | some m => .ok (if neg then negate m else ofMagnitude m)
  | none => .error .valueError

lemma parseInt_error {s : Str} {e : Exn} (h : parseInt s = .error e) : e = .valueError := by
  unfold parseInt at h
  dsimp only at h
  split at h
  · cases h
  · exact (Except.error.inj h).symm

/-! ### `int` inverts `str` -/

lemma decimalDigits_lt {n d : ℕ} (hd : d ∈ decimalDigits n) : d < 10 := by
  unfold decimalDigits at hd
  split at hd
  · obtain rfl : d = 0 := by simpa using hd
    norm_num
  · exact Nat.digits_lt_base (by norm_num) (List.mem_reverse.mp hd)

lemma decimalDigits_ne_nil (n : ℕ) : decimalDigits n ≠ [] := by
  unfold decimalDigits
  split
  · simp
  · next hn => simpa [Nat.digits_ne_nil_iff_ne_zero] using hn

lemma ofDecimalDigits_decimalDigits (n : ℕ) : ofDecimalDigits (decimalDigits n) = n := by
  unfold ofDecimalDigits decimalDigits
  split
  · next hn => simp [hn]
  · rw [List.reverse_reverse, Nat.ofDigits_digits]

lemma length_decimalDigits {n : ℕ} (hn : n < strLimit) : (decimalDigits n).length ≤ maxStrDigits := by
  unfold decimalDigits
  split
  · simp [maxStrDigits]
  · rw [List.length_reverse]
    exact (Nat.digits_length_le_iff (by norm_num) n).mpr hn

lemma digitChar_val {d : ℕ} (hd : d < 10) : (digitChar d).val = 48 + d := by
  rw [digitChar, codePoint_val (by omega)]

lemma toAsciiDigit_digitChar {d : ℕ} (hd : d < 10) : toAsciiDigit (digitChar d) = 48 + d := by
  have hval := digitChar_val hd
  simp only [toAsciiDigit, hval]
  rw [if_pos (by omega)]

lemma map_toAsciiDigit {ds : List ℕ} (hds : ∀ d ∈ ds, d < 10) :
    (ds.map digitChar).map toAsciiDigit = ds.map (fun d => 48 + d) := by
  rw [List.map_map]
  apply List.map_congr_left
  intro d hd
  exact toAsciiDigit_digitChar (hds d hd)

lemma scanDigits_of_digits {ds : List ℕ} (hds : ∀ d ∈ ds, d < 10) (prev : Scanned)
    (hprev : ds ≠ [] ∨ prev = .digit) :
    scanDigits (ds.map (fun d => 48 + d)) prev = some (ds, []) := by
  induction ds generalizing prev with
  | nil =>
    rcases hprev with hne | rfl
    · exact absurd rfl hne
    · rfl
  | cons d ds ih =>
    have hd := hds d (by simp)
    have hdigit : isDigit (48 + d) = true := by
      simp only [isDigit, Bool.and_eq_true, decide_eq_true_eq]
      omega
    rw [List.map_cons, scanDigits, if_pos hdigit,
      ih (fun x hx => hds x (List.mem_cons_of_mem d hx)) .digit (Or.inr rfl)]
    simp

lemma parseMagnitude_decimalDigits {n : ℕ} (hn : n < strLimit) :
    parseMagnitude ((decimalDigits n).map (fun d => 48 + d)) = some ⟨n, hn⟩ := by
  have hscan := scanDigits_of_digits (fun d hd => decimalDigits_lt (n := n) hd) .nothing
    (Or.inl (decimalDigits_ne_nil n))
  unfold parseMagnitude
  split
  · next hnone =>
    rw [hscan] at hnone
    cases hnone
  · next ds rest hsome =>
    rw [hscan] at hsome
    obtain ⟨rfl, rfl⟩ : decimalDigits n = ds ∧ [] = rest := by simpa using hsome
    rw [dif_pos (length_decimalDigits hn), List.all_nil, if_pos rfl]
    congr 2
    exact ofDecimalDigits_decimalDigits n

/-- `int(str(n)) == n`. -/
theorem parseInt_decimal (n : Integer) : parseInt (decimal n.val) = .ok n := by
  obtain ⟨n, hn⟩ := n
  have hmag := parseMagnitude_decimalDigits hn
  have hmap : ((decimalDigits n.natAbs).map digitChar).map toAsciiDigit =
      (decimalDigits n.natAbs).map (fun d => 48 + d) :=
    map_toAsciiDigit (fun d hd => decimalDigits_lt hd)
  by_cases hneg : n < 0
  · have hminus : toAsciiDigit minus = 45 := by decide
    have hspace : isSpace 45 = false := by decide
    unfold parseInt decimal
    simp only [hneg, if_true, List.map_cons, hminus, hmap, List.dropWhile_cons, hspace,
      Bool.false_eq_true, if_false, splitSign, hmag, negate]
    congr 2
    omega
  · have hsign : splitSign (((decimalDigits n.natAbs).map (fun d => 48 + d)).dropWhile isSpace) =
        (false, (decimalDigits n.natAbs).map (fun d => 48 + d)) := by
      cases hds : decimalDigits n.natAbs with
      | nil => exact absurd hds (decimalDigits_ne_nil n.natAbs)
      | cons d ds =>
        have hd : d < 10 := decimalDigits_lt (by rw [hds]; simp)
        have hspace : isSpace (48 + d) = false := by
          simp only [isSpace, Bool.or_eq_false_iff, Bool.and_eq_false_iff, decide_eq_false_iff_not]
          omega
        simp only [List.map_cons, List.dropWhile_cons, hspace, Bool.false_eq_true, if_false,
          splitSign]
        rw [if_neg (by omega), if_neg (by omega)]
    unfold parseInt decimal
    simp only [hneg, if_false, hmap, hsign, hmag, Bool.false_eq_true, ofMagnitude]
    congr 2
    omega

/-- The text of an integer determines it. -/
lemma decimal_inj {m n : Integer} (h : decimal m.val = decimal n.val) : m = n := by
  have hboth := (parseInt_decimal m).symm.trans ((congrArg parseInt h).trans (parseInt_decimal n))
  exact Except.ok.inj hboth

/-- The characters of a number. -/
lemma mem_decimal {n : ℤ} {c : CodePoint} (hc : c ∈ decimal n) :
    c.val = 45 ∨ (48 ≤ c.val ∧ c.val ≤ 57) := by
  have hdigits : ∀ c ∈ (decimalDigits n.natAbs).map digitChar, 48 ≤ c.val ∧ c.val ≤ 57 := by
    intro c hc
    obtain ⟨d, hd, rfl⟩ := List.mem_map.mp hc
    have hlt := decimalDigits_lt hd
    rw [digitChar_val hlt]
    omega
  unfold decimal at hc
  dsimp only at hc
  split at hc
  · rw [List.mem_cons] at hc
    rcases hc with rfl | hc
    · exact Or.inl rfl
    · exact Or.inr (hdigits c hc)
  · exact Or.inr (hdigits c hc)

end Py
