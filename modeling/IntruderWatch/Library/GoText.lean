import Mathlib.Tactic

/-!
# Go strings

A Go `string` is its bytes. This file has the decoding of runes, `TrimSpace`, `ToLower` and
`Split` of package `strings`, and `Atoi` of `strconv` for 64-bit integers. The main results
say what `TrimSpace` removes and which strings `Atoi` accepts.
-/

namespace Go

abbrev Str := List UInt8

/-- A literal of ASCII characters. -/
def lit (s : String) : Str := s.toList.map (fun c => UInt8.ofNat c.toNat)

/-! ### Runes -/

def runeError : ℕ := 0xFFFD

def isTail (b : UInt8) : Bool := 0x80 ≤ b && b ≤ 0xBF

/-- The least and the greatest second byte after the first byte `n` of three or four. -/
def acceptRange (n : ℕ) : ℕ × ℕ :=
  (if n = 0xE0 then 0xA0 else if n = 0xF0 then 0x90 else 0x80,
    if n = 0xED then 0x9F else if n = 0xF4 then 0x8F else 0xBF)

def isSecond (n : ℕ) (b : UInt8) : Bool :=
  (acceptRange n).1 ≤ b.toNat && b.toNat ≤ (acceptRange n).2

/-- `utf8.DecodeRuneInString`: the first rune and its size; a byte that begins no valid
encoding is a `RuneError` of size 1. -/
def decodeRune : Str → ℕ × ℕ
  | [] => (runeError, 0)
  | b :: rest =>
    let n := b.toNat
    if n < 0x80 then (n, 1)
    else if 0xC2 ≤ n ∧ n ≤ 0xDF then
      match rest with
      | b₁ :: _ =>
        if isTail b₁ then ((n - 0xC0) * 64 + (b₁.toNat - 0x80), 2) else (runeError, 1)
      | _ => (runeError, 1)
    else if 0xE0 ≤ n ∧ n ≤ 0xEF then
      match rest with
      | b₁ :: b₂ :: _ =>
        if isSecond n b₁ && isTail b₂ then
          ((n - 0xE0) * 4096 + (b₁.toNat - 0x80) * 64 + (b₂.toNat - 0x80), 3)
        else (runeError, 1)
      | _ => (runeError, 1)
    else if 0xF0 ≤ n ∧ n ≤ 0xF4 then
      match rest with
      | b₁ :: b₂ :: b₃ :: _ =>
        if isSecond n b₁ && isTail b₂ && isTail b₃ then
          ((n - 0xF0) * 262144 + (b₁.toNat - 0x80) * 4096 + (b₂.toNat - 0x80) * 64 +
            (b₃.toNat - 0x80), 4)
        else (runeError, 1)
      | _ => (runeError, 1)
    else (runeError, 1)

/-- `utf8.AppendRune` to an empty slice, for the runes that `decodeRune` and `lowerRune` give. -/
def encodeRune (r : ℕ) : Str :=
  if r < 0x80 then [UInt8.ofNat r]
  else if r < 0x800 then [UInt8.ofNat (0xC0 + r / 64), UInt8.ofNat (0x80 + r % 64)]
  else if r < 0x10000 then
    [UInt8.ofNat (0xE0 + r / 4096), UInt8.ofNat (0x80 + r / 64 % 64), UInt8.ofNat (0x80 + r % 64)]
  else
    [UInt8.ofNat (0xF0 + r / 262144), UInt8.ofNat (0x80 + r / 4096 % 64),
      UInt8.ofNat (0x80 + r / 64 % 64), UInt8.ofNat (0x80 + r % 64)]

/-! ### `ToLower` -/

/-- Every `stride`-th rune from `lo` to `hi` has its lower case at distance `delta`. -/
structure CaseRange where
  lo : ℕ
  hi : ℕ
  stride : ℕ
  delta : ℤ

/-- The simple lower case mappings of Unicode 15 beyond ASCII. -/
def lowerRanges : List CaseRange :=
  [⟨0xC0, 0xD6, 1, 32⟩, ⟨0xD8, 0xDE, 1, 32⟩, ⟨0x100, 0x12E, 2, 1⟩, ⟨0x130, 0x130, 1, -199⟩,
    ⟨0x132, 0x136, 2, 1⟩, ⟨0x139, 0x147, 2, 1⟩, ⟨0x14A, 0x176, 2, 1⟩, ⟨0x178, 0x178, 1, -121⟩,
    ⟨0x179, 0x17D, 2, 1⟩, ⟨0x181, 0x181, 1, 210⟩, ⟨0x182, 0x184, 2, 1⟩, ⟨0x186, 0x186, 1, 206⟩,
    ⟨0x187, 0x187, 1, 1⟩, ⟨0x189, 0x18A, 1, 205⟩, ⟨0x18B, 0x18B, 1, 1⟩, ⟨0x18E, 0x18E, 1, 79⟩,
    ⟨0x18F, 0x18F, 1, 202⟩, ⟨0x190, 0x190, 1, 203⟩, ⟨0x191, 0x191, 1, 1⟩, ⟨0x193, 0x193, 1, 205⟩,
    ⟨0x194, 0x194, 1, 207⟩, ⟨0x196, 0x196, 1, 211⟩, ⟨0x197, 0x197, 1, 209⟩, ⟨0x198, 0x198, 1, 1⟩,
    ⟨0x19C, 0x19C, 1, 211⟩, ⟨0x19D, 0x19D, 1, 213⟩, ⟨0x19F, 0x19F, 1, 214⟩, ⟨0x1A0, 0x1A4, 2, 1⟩,
    ⟨0x1A6, 0x1A6, 1, 218⟩, ⟨0x1A7, 0x1A7, 1, 1⟩, ⟨0x1A9, 0x1A9, 1, 218⟩, ⟨0x1AC, 0x1AC, 1, 1⟩,
    ⟨0x1AE, 0x1AE, 1, 218⟩, ⟨0x1AF, 0x1AF, 1, 1⟩, ⟨0x1B1, 0x1B2, 1, 217⟩, ⟨0x1B3, 0x1B5, 2, 1⟩,
    ⟨0x1B7, 0x1B7, 1, 219⟩, ⟨0x1B8, 0x1B8, 1, 1⟩, ⟨0x1BC, 0x1BC, 1, 1⟩, ⟨0x1C4, 0x1C4, 1, 2⟩,
    ⟨0x1C5, 0x1C5, 1, 1⟩, ⟨0x1C7, 0x1C7, 1, 2⟩, ⟨0x1C8, 0x1C8, 1, 1⟩, ⟨0x1CA, 0x1CA, 1, 2⟩,
    ⟨0x1CB, 0x1DB, 2, 1⟩, ⟨0x1DE, 0x1EE, 2, 1⟩, ⟨0x1F1, 0x1F1, 1, 2⟩, ⟨0x1F2, 0x1F4, 2, 1⟩,
    ⟨0x1F6, 0x1F6, 1, -97⟩, ⟨0x1F7, 0x1F7, 1, -56⟩, ⟨0x1F8, 0x21E, 2, 1⟩, ⟨0x220, 0x220, 1, -130⟩,
    ⟨0x222, 0x232, 2, 1⟩, ⟨0x23A, 0x23A, 1, 10795⟩, ⟨0x23B, 0x23B, 1, 1⟩, ⟨0x23D, 0x23D, 1, -163⟩,
    ⟨0x23E, 0x23E, 1, 10792⟩, ⟨0x241, 0x241, 1, 1⟩, ⟨0x243, 0x243, 1, -195⟩, ⟨0x244, 0x244, 1, 69⟩,
    ⟨0x245, 0x245, 1, 71⟩, ⟨0x246, 0x24E, 2, 1⟩, ⟨0x370, 0x372, 2, 1⟩, ⟨0x376, 0x376, 1, 1⟩,
    ⟨0x37F, 0x37F, 1, 116⟩, ⟨0x386, 0x386, 1, 38⟩, ⟨0x388, 0x38A, 1, 37⟩, ⟨0x38C, 0x38C, 1, 64⟩,
    ⟨0x38E, 0x38F, 1, 63⟩, ⟨0x391, 0x3A1, 1, 32⟩, ⟨0x3A3, 0x3AB, 1, 32⟩, ⟨0x3CF, 0x3CF, 1, 8⟩,
    ⟨0x3D8, 0x3EE, 2, 1⟩, ⟨0x3F4, 0x3F4, 1, -60⟩, ⟨0x3F7, 0x3F7, 1, 1⟩, ⟨0x3F9, 0x3F9, 1, -7⟩,
    ⟨0x3FA, 0x3FA, 1, 1⟩, ⟨0x3FD, 0x3FF, 1, -130⟩, ⟨0x400, 0x40F, 1, 80⟩, ⟨0x410, 0x42F, 1, 32⟩,
    ⟨0x460, 0x480, 2, 1⟩, ⟨0x48A, 0x4BE, 2, 1⟩, ⟨0x4C0, 0x4C0, 1, 15⟩, ⟨0x4C1, 0x4CD, 2, 1⟩,
    ⟨0x4D0, 0x52E, 2, 1⟩, ⟨0x531, 0x556, 1, 48⟩, ⟨0x10A0, 0x10C5, 1, 7264⟩,
    ⟨0x10C7, 0x10C7, 1, 7264⟩, ⟨0x10CD, 0x10CD, 1, 7264⟩, ⟨0x13A0, 0x13EF, 1, 38864⟩,
    ⟨0x13F0, 0x13F5, 1, 8⟩, ⟨0x1C90, 0x1CBA, 1, -3008⟩, ⟨0x1CBD, 0x1CBF, 1, -3008⟩,
    ⟨0x1E00, 0x1E94, 2, 1⟩, ⟨0x1E9E, 0x1E9E, 1, -7615⟩, ⟨0x1EA0, 0x1EFE, 2, 1⟩,
    ⟨0x1F08, 0x1F0F, 1, -8⟩, ⟨0x1F18, 0x1F1D, 1, -8⟩, ⟨0x1F28, 0x1F2F, 1, -8⟩,
    ⟨0x1F38, 0x1F3F, 1, -8⟩, ⟨0x1F48, 0x1F4D, 1, -8⟩, ⟨0x1F59, 0x1F5F, 2, -8⟩,
    ⟨0x1F68, 0x1F6F, 1, -8⟩, ⟨0x1F88, 0x1F8F, 1, -8⟩, ⟨0x1F98, 0x1F9F, 1, -8⟩,
    ⟨0x1FA8, 0x1FAF, 1, -8⟩, ⟨0x1FB8, 0x1FB9, 1, -8⟩, ⟨0x1FBA, 0x1FBB, 1, -74⟩,
    ⟨0x1FBC, 0x1FBC, 1, -9⟩, ⟨0x1FC8, 0x1FCB, 1, -86⟩, ⟨0x1FCC, 0x1FCC, 1, -9⟩,
    ⟨0x1FD8, 0x1FD9, 1, -8⟩, ⟨0x1FDA, 0x1FDB, 1, -100⟩, ⟨0x1FE8, 0x1FE9, 1, -8⟩,
    ⟨0x1FEA, 0x1FEB, 1, -112⟩, ⟨0x1FEC, 0x1FEC, 1, -7⟩, ⟨0x1FF8, 0x1FF9, 1, -128⟩,
    ⟨0x1FFA, 0x1FFB, 1, -126⟩, ⟨0x1FFC, 0x1FFC, 1, -9⟩, ⟨0x2126, 0x2126, 1, -7517⟩,
    ⟨0x212A, 0x212A, 1, -8383⟩, ⟨0x212B, 0x212B, 1, -8262⟩, ⟨0x2132, 0x2132, 1, 28⟩,
    ⟨0x2160, 0x216F, 1, 16⟩, ⟨0x2183, 0x2183, 1, 1⟩, ⟨0x24B6, 0x24CF, 1, 26⟩,
    ⟨0x2C00, 0x2C2F, 1, 48⟩, ⟨0x2C60, 0x2C60, 1, 1⟩, ⟨0x2C62, 0x2C62, 1, -10743⟩,
    ⟨0x2C63, 0x2C63, 1, -3814⟩, ⟨0x2C64, 0x2C64, 1, -10727⟩, ⟨0x2C67, 0x2C6B, 2, 1⟩,
    ⟨0x2C6D, 0x2C6D, 1, -10780⟩, ⟨0x2C6E, 0x2C6E, 1, -10749⟩, ⟨0x2C6F, 0x2C6F, 1, -10783⟩,
    ⟨0x2C70, 0x2C70, 1, -10782⟩, ⟨0x2C72, 0x2C72, 1, 1⟩, ⟨0x2C75, 0x2C75, 1, 1⟩,
    ⟨0x2C7E, 0x2C7F, 1, -10815⟩, ⟨0x2C80, 0x2CE2, 2, 1⟩, ⟨0x2CEB, 0x2CED, 2, 1⟩,
    ⟨0x2CF2, 0x2CF2, 1, 1⟩, ⟨0xA640, 0xA66C, 2, 1⟩, ⟨0xA680, 0xA69A, 2, 1⟩, ⟨0xA722, 0xA72E, 2, 1⟩,
    ⟨0xA732, 0xA76E, 2, 1⟩, ⟨0xA779, 0xA77B, 2, 1⟩, ⟨0xA77D, 0xA77D, 1, -35332⟩,
    ⟨0xA77E, 0xA786, 2, 1⟩, ⟨0xA78B, 0xA78B, 1, 1⟩, ⟨0xA78D, 0xA78D, 1, -42280⟩,
    ⟨0xA790, 0xA792, 2, 1⟩, ⟨0xA796, 0xA7A8, 2, 1⟩, ⟨0xA7AA, 0xA7AA, 1, -42308⟩,
    ⟨0xA7AB, 0xA7AB, 1, -42319⟩, ⟨0xA7AC, 0xA7AC, 1, -42315⟩, ⟨0xA7AD, 0xA7AD, 1, -42305⟩,
    ⟨0xA7AE, 0xA7AE, 1, -42308⟩, ⟨0xA7B0, 0xA7B0, 1, -42258⟩, ⟨0xA7B1, 0xA7B1, 1, -42282⟩,
    ⟨0xA7B2, 0xA7B2, 1, -42261⟩, ⟨0xA7B3, 0xA7B3, 1, 928⟩, ⟨0xA7B4, 0xA7C2, 2, 1⟩,
    ⟨0xA7C4, 0xA7C4, 1, -48⟩, ⟨0xA7C5, 0xA7C5, 1, -42307⟩, ⟨0xA7C6, 0xA7C6, 1, -35384⟩,
    ⟨0xA7C7, 0xA7C9, 2, 1⟩, ⟨0xA7D0, 0xA7D0, 1, 1⟩, ⟨0xA7D6, 0xA7D8, 2, 1⟩, ⟨0xA7F5, 0xA7F5, 1, 1⟩,
    ⟨0xFF21, 0xFF3A, 1, 32⟩, ⟨0x10400, 0x10427, 1, 40⟩, ⟨0x104B0, 0x104D3, 1, 40⟩,
    ⟨0x10570, 0x1057A, 1, 39⟩, ⟨0x1057C, 0x1058A, 1, 39⟩, ⟨0x1058C, 0x10592, 1, 39⟩,
    ⟨0x10594, 0x10595, 1, 39⟩, ⟨0x10C80, 0x10CB2, 1, 64⟩, ⟨0x118A0, 0x118BF, 1, 32⟩,
    ⟨0x16E40, 0x16E5F, 1, 32⟩, ⟨0x1E900, 0x1E921, 1, 34⟩]

/-- `unicode.ToLower`. -/
def lowerRune (r : ℕ) : ℕ :=
  if r < 0x80 then if 65 ≤ r ∧ r ≤ 90 then r + 32 else r
  else
    match lowerRanges.find? (fun c => c.lo ≤ r && r ≤ c.hi && (r - c.lo) % c.stride = 0) with
    | some c => ((r : ℤ) + c.delta).toNat
    | none => r

/-- Maps the runes of a string whose first `skip` bytes belong to a rune already mapped. -/
def mapRunes (f : ℕ → ℕ) : ℕ → Str → Str
  | _, [] => []
  | skip + 1, _ :: s => mapRunes f skip s
  | 0, b :: s =>
    encodeRune (f (decodeRune (b :: s)).1) ++ mapRunes f ((decodeRune (b :: s)).2 - 1) s

def toLower (s : Str) : Str := mapRunes lowerRune 0 s

/-! ### `TrimSpace` -/

/-- The encodings of the white space runes of Unicode. -/
def spaces : List Str :=
  [[0x09], [0x0A], [0x0B], [0x0C], [0x0D], [0x20], [0xC2, 0x85], [0xC2, 0xA0], [0xE1, 0x9A, 0x80],
    [0xE2, 0x80, 0x80], [0xE2, 0x80, 0x81], [0xE2, 0x80, 0x82], [0xE2, 0x80, 0x83],
    [0xE2, 0x80, 0x84], [0xE2, 0x80, 0x85], [0xE2, 0x80, 0x86], [0xE2, 0x80, 0x87],
    [0xE2, 0x80, 0x88], [0xE2, 0x80, 0x89], [0xE2, 0x80, 0x8A], [0xE2, 0x80, 0xA8],
    [0xE2, 0x80, 0xA9], [0xE2, 0x80, 0xAF], [0xE2, 0x81, 0x9F], [0xE3, 0x80, 0x80]]

/-- Removes the patterns at the front of a string whose first `skip` bytes belong to a pattern
already found. -/
def stripFront (pats : List Str) : ℕ → Str → Str
  | _, [] => []
  | skip + 1, _ :: s => stripFront pats skip s
  | 0, b :: s =>
    match pats.find? (fun p => p.isPrefixOf (b :: s)) with
    | some p => stripFront pats (p.length - 1) s
    | none => b :: s

/-- `strings.TrimSpace`; white space at the end is white space at the front of the reverse. -/
def trimSpace (s : Str) : Str :=
  (stripFront (spaces.map List.reverse) 0 (stripFront spaces 0 s).reverse).reverse

/-- A string put together from the patterns. -/
def Made (pats : List Str) (s : Str) : Prop :=
  ∃ ps : List Str, (∀ p ∈ ps, p ∈ pats) ∧ ps.flatten = s

abbrev White (s : Str) : Prop := Made spaces s

section Strip

variable {pats : List Str}

lemma stripFront_skip (p s : Str) : stripFront pats p.length (p ++ s) = stripFront pats 0 s := by
  induction p with
  | nil => rfl
  | cons b p ih => exact ih

/-- A pattern at the front is removed. -/
lemma stripFront_found {p s : Str} {b : UInt8}
    (h : pats.find? (fun q => q.isPrefixOf (b :: p ++ s)) = some (b :: p)) :
    stripFront pats 0 (b :: p ++ s) = stripFront pats 0 s := by
  have hstep : stripFront pats 0 (b :: p ++ s) = stripFront pats p.length (p ++ s) := by
    rw [List.cons_append, stripFront, ← List.cons_append, h]
    rfl
  rw [hstep, stripFront_skip]

/-- What is removed is made of the patterns. -/
lemma stripFront_spec (hne : ∀ p ∈ pats, p ≠ []) (s : Str) :
    ∃ pre, Made pats pre ∧ s = pre ++ stripFront pats 0 s := by
  induction hn : s.length using Nat.strong_induction_on generalizing s with
  | _ n ih =>
    cases s with
    | nil => exact ⟨[], ⟨[], by simp, rfl⟩, rfl⟩
    | cons b s =>
      cases hfind : pats.find? (fun p => p.isPrefixOf (b :: s)) with
      | none => exact ⟨[], ⟨[], by simp, rfl⟩, by simp [stripFront, hfind]⟩
      | some p =>
        have hmem : p ∈ pats := List.mem_of_find?_eq_some hfind
        have hprefix : p <+: b :: s := List.isPrefixOf_iff_prefix.mp (by simpa using List.find?_some hfind)
        obtain ⟨rest, hrest⟩ := hprefix
        cases p with
        | nil => exact absurd rfl (hne [] hmem)
        | cons c p =>
          obtain ⟨rfl, rfl⟩ : c = b ∧ p ++ rest = s := by simpa using hrest
          have hlen : rest.length < n := by
            rw [← hn]
            simp only [List.length_cons, List.length_append]
            omega
          obtain ⟨pre, ⟨ps, hps, hpre⟩, heq⟩ := ih rest.length hlen rest rfl
          have hstrip : stripFront pats 0 (c :: p ++ rest) = stripFront pats 0 rest :=
            stripFront_found hfind
          refine ⟨c :: p ++ pre, ⟨(c :: p) :: ps, ?_, ?_⟩, ?_⟩
          · intro q hq
            rcases List.mem_cons.mp hq with rfl | hq
            · exact hmem
            · exact hps q hq
          · rw [List.flatten_cons, hpre]
          · rw [← List.cons_append, hstrip, List.append_assoc, ← heq]

/-- Patterns of which none begins another are removed one by one. -/
lemma stripFront_flatten (hne : ∀ p ∈ pats, p ≠ []) (hfree : ∀ p ∈ pats, ∀ q ∈ pats, p <+: q → p = q)
    {ps : List Str} (hps : ∀ p ∈ ps, p ∈ pats) {t : Str} (hstop : ∀ p ∈ pats, ¬ p <+: t) :
    stripFront pats 0 (ps.flatten ++ t) = t := by
  induction ps with
  | nil =>
    cases t with
    | nil => rfl
    | cons b t =>
      have hnone : pats.find? (fun p => p.isPrefixOf (b :: t)) = none := by
        rw [List.find?_eq_none]
        intro p hp hprefix
        exact hstop p hp (List.isPrefixOf_iff_prefix.mp hprefix)
      simp [stripFront, hnone]
  | cons p ps ih =>
    have hp : p ∈ pats := hps p (by simp)
    have hfront : p <+: p ++ (ps.flatten ++ t) := List.prefix_append p _
    obtain ⟨q, hq⟩ : ∃ q, pats.find? (fun q => q.isPrefixOf (p ++ (ps.flatten ++ t))) = some q := by
      apply Option.isSome_iff_exists.mp
      rw [List.find?_isSome]
      exact ⟨p, hp, List.isPrefixOf_iff_prefix.mpr hfront⟩
    have hqmem : q ∈ pats := List.mem_of_find?_eq_some hq
    have hqfront : q <+: p ++ (ps.flatten ++ t) :=
      List.isPrefixOf_iff_prefix.mp (by simpa using List.find?_some hq)
    obtain rfl : p = q := by
      rcases List.prefix_or_prefix_of_prefix hfront hqfront with h | h
      · exact hfree p hp q hqmem h
      · exact (hfree q hqmem p hp h).symm
    rw [List.flatten_cons, List.append_assoc]
    cases p with
    | nil => exact absurd rfl (hne [] hp)
    | cons b p =>
      rw [stripFront_found hq]
      exact ih (fun r hr => hps r (List.mem_cons_of_mem _ hr))

end Strip

lemma spaces_ne_nil : ∀ p ∈ spaces, p ≠ [] := by decide

lemma spaces_reverse_ne_nil : ∀ p ∈ spaces.map List.reverse, p ≠ [] := by decide

lemma Made.reverse {pats : List Str} {s : Str} (h : Made (pats.map List.reverse) s) :
    Made pats s.reverse := by
  obtain ⟨ps, hps, rfl⟩ := h
  refine ⟨(ps.map List.reverse).reverse, ?_, ?_⟩
  · intro p hp
    obtain ⟨q, hq, rfl⟩ := List.mem_map.mp (List.mem_reverse.mp hp)
    obtain ⟨r, hr, rfl⟩ := List.mem_map.mp (hps q hq)
    rwa [List.reverse_reverse]
  · rw [List.reverse_flatten]

/-- `TrimSpace` removes white space only. -/
theorem trimSpace_decomp (s : Str) :
    ∃ pre post, White pre ∧ White post ∧ s = pre ++ trimSpace s ++ post := by
  obtain ⟨pre, hpre, hs⟩ := stripFront_spec spaces_ne_nil s
  obtain ⟨post, hpost, hrest⟩ := stripFront_spec spaces_reverse_ne_nil (stripFront spaces 0 s).reverse
  refine ⟨pre, post.reverse, hpre, hpost.reverse, ?_⟩
  have hfront : stripFront spaces 0 s = trimSpace s ++ post.reverse := by
    have hrev := congrArg List.reverse hrest
    rwa [List.reverse_reverse, List.reverse_append] at hrev
  rw [List.append_assoc, ← hfront]
  exact hs

/-- The printing characters of ASCII. -/
def isGraphic (b : UInt8) : Bool := 0x21 ≤ b && b ≤ 0x7E

def startsBlank (p : Str) : Bool := p.head?.all (fun b => !isGraphic b)

lemma spaces_head : ∀ p ∈ spaces, startsBlank p = true := by decide

lemma spaces_reverse_head : ∀ p ∈ spaces.map List.reverse, startsBlank p = true := by decide

lemma not_prefix_of_graphic {pats : List Str} (hne : ∀ p ∈ pats, p ≠ [])
    (hhead : ∀ p ∈ pats, startsBlank p = true) {b : UInt8} {s : Str}
    (hb : isGraphic b = true) : ∀ p ∈ pats, ¬ p <+: b :: s := by
  rintro p hp ⟨rest, hrest⟩
  cases p with
  | nil => exact hne [] hp rfl
  | cons c p =>
    obtain ⟨rfl, -⟩ : c = b ∧ p ++ rest = s := by simpa using hrest
    have hblank : isGraphic c = false := by simpa [startsBlank] using hhead (c :: p) hp
    rw [hblank] at hb
    exact Bool.false_ne_true hb

/-- A string that begins and ends with a printing character is what `TrimSpace` leaves when
white space surrounds it. -/
theorem trimSpace_surrounded {pre post s : Str} (hpre : White pre) (hpost : White post) (hne : s ≠ [])
    (hfirst : ∀ b ∈ s.head?, isGraphic b = true) (hlast : ∀ b ∈ s.getLast?, isGraphic b = true) :
    trimSpace (pre ++ s ++ post) = s := by
  have hfree : ∀ p ∈ spaces, ∀ q ∈ spaces, p <+: q → p = q := by decide
  have hfree' : ∀ p ∈ spaces.map List.reverse, ∀ q ∈ spaces.map List.reverse, p <+: q → p = q := by
    decide
  have hstart : stripFront spaces 0 (pre ++ s ++ post) = s ++ post := by
    obtain ⟨ps, hps, rfl⟩ := hpre
    rw [List.append_assoc]
    apply stripFront_flatten spaces_ne_nil hfree hps
    cases s with
    | nil => exact absurd rfl hne
    | cons b s => exact not_prefix_of_graphic spaces_ne_nil spaces_head (hfirst b rfl)
  have hend : stripFront (spaces.map List.reverse) 0 (post.reverse ++ s.reverse) = s.reverse := by
    obtain ⟨ps, hps, rfl⟩ := hpost
    rw [List.reverse_flatten]
    apply stripFront_flatten spaces_reverse_ne_nil hfree'
    · intro p hp
      obtain ⟨q, hq, rfl⟩ := List.mem_map.mp (List.mem_reverse.mp hp)
      exact List.mem_map_of_mem (hps q hq)
    · have hhead : s.reverse.head? = s.getLast? := List.head?_reverse
      cases hs : s.reverse with
      | nil => exact absurd (List.reverse_eq_nil_iff.mp hs) hne
      | cons b t =>
        rw [hs] at hhead
        exact not_prefix_of_graphic spaces_reverse_ne_nil spaces_reverse_head
          (hlast b hhead.symm)
  rw [trimSpace, hstart, List.reverse_append, hend, List.reverse_reverse]

/-! ### `Split` -/

/-- `strings.Split` for a separator of one byte. -/
def split (s : Str) (sep : UInt8) : List Str := s.splitOn sep

/-! ### `Atoi` -/

inductive NumError
  | errSyntax
  | errRange
deriving DecidableEq

def isDigit (b : UInt8) : Bool := 48 ≤ b && b ≤ 57

/-- The digit loop of `ParseUint` in base 10. -/
def parseDigits : Str → ℕ → Except NumError ℕ
  | [], n => .ok n
  | b :: s, n =>
    if isDigit b then
      if n * 10 + (b.toNat - 48) < 2 ^ 64 then parseDigits s (n * 10 + (b.toNat - 48))
      else .error .errRange
    else .error .errSyntax

def parseUint (s : Str) : Except NumError ℕ :=
  if s = [] then .error .errSyntax else parseDigits s 0

/-- `ParseInt` after the sign. -/
def parseSigned (neg : Bool) (s : Str) : Except NumError ℤ :=
  match parseUint s with
  | .error e => .error e
  | .ok un =>
    if !neg && 2 ^ 63 ≤ un then .error .errRange
    else if neg && 2 ^ 63 < un then .error .errRange
    else .ok (if neg then -(un : ℤ) else un)

/-- `strconv.Atoi`: the value, or the kind of error. -/
def atoi : Str → Except NumError ℤ
  | [] => .error .errSyntax
  | b :: rest =>
    if b = 43 then parseSigned false rest
    else if b = 45 then parseSigned true rest
    else parseSigned false (b :: rest)

/-- The value of a string of digits after the value `n` of the digits before it. -/
def digitsValue (s : Str) (n : ℕ) : ℕ := s.foldl (fun n b => n * 10 + (b.toNat - 48)) n

lemma le_digitsValue (s : Str) (n : ℕ) : n ≤ digitsValue s n := by
  induction s generalizing n with
  | nil => exact le_rfl
  | cons b s ih =>
    have hstep : n ≤ n * 10 + (b.toNat - 48) := by omega
    exact hstep.trans (ih _)

/-- The digit loop computes the value of strings of digits below `2 ^ 64`. -/
lemma parseDigits_eq_ok_iff {s : Str} {n m : ℕ} (hn : n < 2 ^ 64) :
    parseDigits s n = .ok m ↔ (∀ b ∈ s, isDigit b = true) ∧ digitsValue s n = m ∧ m < 2 ^ 64 := by
  induction s generalizing n with
  | nil =>
    simp only [parseDigits, Except.ok.injEq, digitsValue, List.foldl_nil, List.not_mem_nil,
      false_implies, implies_true, true_and]
    constructor
    · rintro rfl
      exact ⟨rfl, hn⟩
    · exact fun h => h.1
  | cons b s ih =>
    have hvalue : digitsValue (b :: s) n = digitsValue s (n * 10 + (b.toNat - 48)) := rfl
    rw [parseDigits, hvalue, List.forall_mem_cons]
    by_cases hb : isDigit b = true
    · by_cases hlt : n * 10 + (b.toNat - 48) < 2 ^ 64
      · rw [if_pos hb, if_pos hlt, ih hlt]
        simp only [hb, true_and]
      · have hle := le_digitsValue s (n * 10 + (b.toNat - 48))
        rw [if_pos hb, if_neg hlt]
        constructor
        · intro h
          cases h
        · rintro ⟨-, rfl, hm⟩
          omega
    · rw [if_neg hb]
      constructor
      · intro h
        cases h
      · intro h
        exact absurd h.1.1 hb

/-- At least one digit and nothing else. -/
def IsDigits (s : Str) : Prop := s ≠ [] ∧ ∀ b ∈ s, isDigit b = true

/-- The decimal numerals with an optional sign, and the integers they denote. -/
inductive Numeral : Str → ℤ → Prop
  | plain {s : Str} : IsDigits s → Numeral s (digitsValue s 0)
  | positive {s : Str} : IsDigits s → Numeral (43 :: s) (digitsValue s 0)
  | negative {s : Str} : IsDigits s → Numeral (45 :: s) (-(digitsValue s 0 : ℤ))

lemma parseUint_eq_ok_iff {s : Str} {m : ℕ} :
    parseUint s = .ok m ↔ IsDigits s ∧ digitsValue s 0 = m ∧ m < 2 ^ 64 := by
  unfold parseUint IsDigits
  by_cases hs : s = []
  · simp [hs]
  · rw [if_neg hs, parseDigits_eq_ok_iff (by norm_num), and_assoc]
    simp only [ne_eq, hs, not_false_eq_true, true_and]

/-- The range check after the digits have been read. -/
lemma parseSigned_of_ok {neg : Bool} {s : Str} {un : ℕ} {n : ℤ} (hok : parseUint s = .ok un) :
    parseSigned neg s = .ok n ↔
      n = (if neg then -(un : ℤ) else un) ∧ -2 ^ 63 ≤ n ∧ n < 2 ^ 63 := by
  rw [parseSigned, hok]
  cases neg with
  | false =>
    simp only [Bool.not_false, Bool.true_and, decide_eq_true_eq, Bool.false_and,
      Bool.false_eq_true, if_false]
    split_ifs with hbig
    · simp only [false_iff, not_and, not_lt]
      omega
    · simp only [Except.ok.injEq]
      omega
  | true =>
    simp only [Bool.not_true, Bool.false_and, Bool.false_eq_true, if_false, Bool.true_and,
      decide_eq_true_eq, if_true]
    split_ifs with hbig
    · simp only [false_iff, not_and, not_lt]
      omega
    · simp only [Except.ok.injEq]
      omega

lemma parseSigned_eq_ok_iff {neg : Bool} {s : Str} {n : ℤ} :
    parseSigned neg s = .ok n ↔
      IsDigits s ∧ n = (if neg then -(digitsValue s 0 : ℤ) else digitsValue s 0) ∧
        -2 ^ 63 ≤ n ∧ n < 2 ^ 63 := by
  cases hp : parseUint s with
  | error e =>
    rw [parseSigned, hp]
    simp only [reduceCtorEq, false_iff, not_and]
    intro hd hn hlo hhi
    have hbound : digitsValue s 0 < 2 ^ 64 := by
      cases neg with
      | false =>
        rw [if_neg Bool.false_ne_true] at hn
        omega
      | true =>
        rw [if_pos rfl] at hn
        omega
    rw [parseUint_eq_ok_iff.mpr ⟨hd, rfl, hbound⟩] at hp
    cases hp
  | ok un =>
    obtain ⟨hd, rfl, -⟩ := parseUint_eq_ok_iff.mp hp
    rw [parseSigned_of_ok hp]
    simp only [hd, true_and]

/-- `Atoi` accepts the numerals of the integers of 64 bits. -/
theorem atoi_eq_ok_iff {s : Str} {n : ℤ} :
    atoi s = .ok n ↔ Numeral s n ∧ -2 ^ 63 ≤ n ∧ n < 2 ^ 63 := by
  constructor
  · intro h
    cases s with
    | nil => cases h
    | cons b rest =>
      simp only [atoi] at h
      split_ifs at h with hplus hminus
      · obtain ⟨hd, hn, hbounds⟩ := parseSigned_eq_ok_iff.mp h
        rw [if_neg Bool.false_ne_true] at hn
        subst hplus hn
        exact ⟨.positive hd, hbounds⟩
      · obtain ⟨hd, hn, hbounds⟩ := parseSigned_eq_ok_iff.mp h
        rw [if_pos rfl] at hn
        subst hminus hn
        exact ⟨.negative hd, hbounds⟩
      · obtain ⟨hd, hn, hbounds⟩ := parseSigned_eq_ok_iff.mp h
        rw [if_neg Bool.false_ne_true] at hn
        subst hn
        exact ⟨.plain hd, hbounds⟩
  · rintro ⟨hnum, hbounds⟩
    cases hnum with
    | positive hd => exact parseSigned_eq_ok_iff.mpr ⟨hd, rfl, hbounds⟩
    | negative hd => exact parseSigned_eq_ok_iff.mpr ⟨hd, rfl, hbounds⟩
    | plain hd =>
      cases s with
      | nil => exact absurd rfl hd.1
      | cons b rest =>
        have hb : isDigit b = true := hd.2 b (by simp)
        have hplus : b ≠ 43 := by
          rintro rfl
          exact absurd hb (by decide)
        have hminus : b ≠ 45 := by
          rintro rfl
          exact absurd hb (by decide)
        rw [atoi, if_neg hplus, if_neg hminus]
        exact parseSigned_eq_ok_iff.mpr ⟨hd, rfl, hbounds⟩

/-! ### Integers of 64 bits -/

/-- The result of an `int` operation whose exact value is `n`. -/
def wrap64 (n : ℤ) : ℤ := n.bmod (2 ^ 64)

lemma wrap64_eq_self {n : ℤ} (hlo : -2 ^ 63 ≤ n) (hhi : n < 2 ^ 63) : wrap64 n = n := by
  unfold wrap64
  apply Int.bmod_eq_of_le
  · omega
  · omega

lemma wrap64_add_mul (n k : ℤ) : wrap64 (n + 2 ^ 64 * k) = wrap64 n := by
  unfold wrap64
  exact Int.add_mul_bmod_self_left n (2 ^ 64) k

lemma wrap64_of_ge {n : ℤ} (hlo : 2 ^ 63 ≤ n) (hhi : n < 3 * 2 ^ 63) :
    wrap64 n = n - 2 ^ 64 := by
  rw [← wrap64_add_mul n (-1), wrap64_eq_self (by omega) (by omega)]
  omega

lemma wrap64_of_lt {n : ℤ} (hlo : -3 * 2 ^ 63 ≤ n) (hhi : n < -2 ^ 63) :
    wrap64 n = n + 2 ^ 64 := by
  rw [← wrap64_add_mul n 1, wrap64_eq_self (by omega) (by omega)]
  omega

end Go
