import IntruderWatch.Library.PyInt

/-!
# The numerals of `int`

The texts that `int(s)` accepts in base 10 and the integers they denote: white space, a sign, and
digits with single underscores between them.
-/

namespace Py

/-- ASCII digits with single underscores between them, and their values. -/
inductive Grouped : List ℕ → List ℕ → Prop
  | last {d : ℕ} : d < 10 → Grouped [48 + d] [d]
  | digit {d : ℕ} {s ds : List ℕ} : d < 10 → Grouped s ds → Grouped ((48 + d) :: s) (d :: ds)
  | underscore {d : ℕ} {s ds : List ℕ} : d < 10 → Grouped s ds →
      Grouped ((48 + d) :: 95 :: s) (d :: ds)

/-- An optional sign, and whether it is a minus. -/
inductive Sign : List ℕ → Bool → Prop
  | none : Sign [] false
  | plus : Sign [43] false
  | minus : Sign [45] true

def signedValue (neg : Bool) (n : ℕ) : ℤ := if neg then -n else n

/-- The text spells the digits `ds`, behind a minus if `neg`. -/
def Spells (s : Str) (neg : Bool) (ds : List ℕ) : Prop :=
  ∃ pre sign digits post, s.map toAsciiDigit = pre ++ (sign ++ (digits ++ post)) ∧
    (pre.all isSpace = true ∧ post.all isSpace = true) ∧ Sign sign neg ∧ Grouped digits ds ∧
    ds.length ≤ maxStrDigits

/-! ### The digit scanner -/

/-- What the scanner reads after a digit: nothing, or more digits, perhaps after an underscore. -/
def Continues (s ds : List ℕ) : Prop :=
  s = [] ∧ ds = [] ∨ Grouped s ds ∨ ∃ s', s = 95 :: s' ∧ Grouped s' ds

lemma Grouped.extend {d : ℕ} {s ds : List ℕ} (hd : d < 10) (h : Continues s ds) :
    Grouped ((48 + d) :: s) (d :: ds) := by
  rcases h with ⟨rfl, rfl⟩ | h | ⟨s', rfl, h⟩
  · exact .last hd
  · exact .digit hd h
  · exact .underscore hd h

lemma isDigit_eq_true {c : ℕ} : isDigit c = true ↔ ∃ d < 10, c = 48 + d := by
  simp only [isDigit, Bool.and_eq_true, decide_eq_true_eq]
  constructor
  · intro h
    exact ⟨c - 48, by omega, by omega⟩
  · rintro ⟨d, hd, rfl⟩
    omega

/-- What the scanner has read is grouped digits. -/
lemma scanDigits_sound {s : List ℕ} {prev : Scanned} {ds rest : List ℕ}
    (h : scanDigits s prev = some (ds, rest)) : ∃ text, s = text ++ rest ∧
      (Grouped text ds ∨ prev = .digit ∧ Continues text ds) := by
  induction s generalizing prev ds with
  | nil =>
    rw [scanDigits] at h
    split_ifs at h with hprev
    obtain ⟨rfl, rfl⟩ := Prod.mk.inj (Option.some.inj h)
    exact ⟨[], rfl, Or.inr ⟨hprev, Or.inl ⟨rfl, rfl⟩⟩⟩
  | cons c s ih =>
    rw [scanDigits] at h
    split_ifs at h with hc hunderscore hprev hstop
    · obtain ⟨⟨ds', rest'⟩, hscan, heq⟩ := Option.map_eq_some_iff.mp h
      obtain ⟨rfl, rfl⟩ := Prod.mk.inj heq
      obtain ⟨d, hd, rfl⟩ := isDigit_eq_true.mp hc
      obtain ⟨text, rfl, htext⟩ := ih hscan
      refine ⟨(48 + d) :: text, rfl, Or.inl ?_⟩
      rw [Nat.add_sub_cancel_left]
      rcases htext with htext | ⟨-, htext⟩
      · exact .digit hd htext
      · exact .extend hd htext
    · obtain ⟨text, rfl, htext | ⟨hnot, -⟩⟩ := ih h
      · exact ⟨95 :: text, by rw [hunderscore]; rfl, Or.inr ⟨hprev, Or.inr (Or.inr ⟨text, rfl, htext⟩)⟩⟩
      · cases hnot
    · obtain ⟨rfl, rfl⟩ := Prod.mk.inj (Option.some.inj h)
      exact ⟨[], rfl, Or.inr ⟨hstop, Or.inl ⟨rfl, rfl⟩⟩⟩

/-- The scanner stops in front of white space. -/
lemma scanDigits_space {s : List ℕ} (h : s.all isSpace = true) : scanDigits s .digit = some ([], s) := by
  cases s with
  | nil => rfl
  | cons c s =>
    rw [List.all_cons, Bool.and_eq_true] at h
    have hc := h.1
    simp only [isSpace, Bool.or_eq_true, Bool.and_eq_true, decide_eq_true_eq] at hc
    have hdigit : isDigit c = false := by
      simp only [isDigit, Bool.and_eq_false_iff, decide_eq_false_iff_not]
      omega
    rw [scanDigits, hdigit, if_neg Bool.false_ne_true, if_neg (by omega), if_pos rfl]

/-- Grouped digits in front of white space are read. -/
lemma scanDigits_complete {text ds post : List ℕ} (h : Grouped text ds) (hpost : post.all isSpace = true)
    (prev : Scanned) : scanDigits (text ++ post) prev = some (ds, post) := by
  have hdigit : ∀ d < 10, isDigit (48 + d) = true := fun d hd => isDigit_eq_true.mpr ⟨d, hd, rfl⟩
  induction h generalizing prev with
  | last hd =>
    rw [List.cons_append, List.nil_append, scanDigits, if_pos (hdigit _ hd), scanDigits_space hpost,
      Option.map_some, Nat.add_sub_cancel_left]
  | digit hd _ ih =>
    rw [List.cons_append, scanDigits, if_pos (hdigit _ hd), ih, Option.map_some,
      Nat.add_sub_cancel_left]
  | underscore hd _ ih =>
    rw [List.cons_append, List.cons_append, scanDigits, if_pos (hdigit _ hd), scanDigits,
      if_neg (by decide), if_pos rfl, if_pos rfl, ih, Option.map_some, Nat.add_sub_cancel_left]

/-! ### `int` -/

lemma parseMagnitude_eq_some_iff {s : List ℕ} {m : {n : ℕ // n < strLimit}} :
    parseMagnitude s = some m ↔ ∃ text ds post, s = text ++ post ∧ Grouped text ds ∧
      post.all isSpace = true ∧ ds.length ≤ maxStrDigits ∧ m.val = ofDecimalDigits ds := by
  constructor
  · intro h
    unfold parseMagnitude at h
    split at h
    · cases h
    · next ds rest hscan =>
      split_ifs at h with hlength hspace
      obtain ⟨text, hs, htext | ⟨hnot, -⟩⟩ := scanDigits_sound hscan
      · exact ⟨text, ds, rest, hs, htext, hspace, hlength, (congrArg Subtype.val (Option.some.inj h)).symm⟩
      · cases hnot
  · rintro ⟨text, ds, post, rfl, htext, hpost, hlength, hm⟩
    have hread := scanDigits_complete htext hpost .nothing
    unfold parseMagnitude
    split
    · next hnone =>
      rw [hread] at hnone
      cases hnone
    · next ds' rest hscan =>
      obtain ⟨rfl, rfl⟩ := Prod.mk.inj (Option.some.inj (hread.symm.trans hscan))
      rw [dif_pos hlength, if_pos hpost]
      exact congrArg some (Subtype.ext hm.symm)

lemma Grouped.lt {text ds : List ℕ} (h : Grouped text ds) : ∀ d ∈ ds, d < 10 := by
  induction h with
  | last hd => simpa using hd
  | digit hd _ ih => exact List.forall_mem_cons.mpr ⟨hd, ih⟩
  | underscore hd _ ih => exact List.forall_mem_cons.mpr ⟨hd, ih⟩

lemma Grouped.head {text ds : List ℕ} (h : Grouped text ds) : ∃ d < 10, ∃ s, text = (48 + d) :: s := by
  cases h with
  | last hd => exact ⟨_, hd, _, rfl⟩
  | digit hd _ => exact ⟨_, hd, _, rfl⟩
  | underscore hd _ => exact ⟨_, hd, _, rfl⟩

lemma splitSign_sound (s : List ℕ) :
    ∃ sign, Sign sign (splitSign s).1 ∧ s = sign ++ (splitSign s).2 := by
  cases s with
  | nil => exact ⟨[], .none, rfl⟩
  | cons c s =>
    rw [splitSign]
    split_ifs with hminus hplus
    · exact ⟨[45], .minus, by rw [hminus]; rfl⟩
    · exact ⟨[43], .plus, by rw [hplus]; rfl⟩
    · exact ⟨[], .none, rfl⟩

lemma splitSign_complete {sign s : List ℕ} {neg : Bool} (hsign : Sign sign neg)
    (hs : ∃ d < 10, ∃ s', s = (48 + d) :: s') : splitSign (sign ++ s) = (neg, s) := by
  obtain ⟨d, hd, s', rfl⟩ := hs
  cases hsign with
  | none =>
    rw [List.nil_append, splitSign, if_neg (by omega), if_neg (by omega)]
  | plus => rfl
  | minus => rfl

/-- The white space in front of a sign or a digit is dropped. -/
lemma dropWhile_space {pre sign s : List ℕ} {neg : Bool} (hpre : pre.all isSpace = true)
    (hsign : Sign sign neg) (hs : ∃ d < 10, ∃ s', s = (48 + d) :: s') :
    (pre ++ (sign ++ s)).dropWhile isSpace = sign ++ s := by
  obtain ⟨d, hd, s', rfl⟩ := hs
  rw [List.dropWhile_append_of_pos (by simpa using hpre)]
  cases hsign with
  | none =>
    have hspace : isSpace (48 + d) = false := by
      simp only [isSpace, Bool.or_eq_false_iff, Bool.and_eq_false_iff, decide_eq_false_iff_not]
      omega
    rw [List.nil_append, List.dropWhile_cons_of_neg (by simp [hspace])]
  | plus => rfl
  | minus => rfl

/-- `int` accepts the numerals. -/
theorem parseInt_eq_ok_iff {s : Str} {n : Integer} : parseInt s = .ok n ↔
    ∃ neg ds, Spells s neg ds ∧ n.val = signedValue neg (ofDecimalDigits ds) := by
  constructor
  · intro h
    unfold parseInt at h
    dsimp only at h
    split at h
    · next m hm =>
      obtain ⟨text, ds, post, hrest, htext, hpost, hlength, hvalue⟩ := parseMagnitude_eq_some_iff.mp hm
      obtain ⟨sign, hsign, hsplit⟩ := splitSign_sound ((s.map toAsciiDigit).dropWhile isSpace)
      refine ⟨_, ds, ⟨(s.map toAsciiDigit).takeWhile isSpace, sign, text, post, ?_,
        ⟨List.all_takeWhile, hpost⟩, hsign, htext, hlength⟩, ?_⟩
      · rw [← hrest, ← hsplit, List.takeWhile_append_dropWhile]
      · rw [← Except.ok.inj h, ← hvalue]
        cases (splitSign ((s.map toAsciiDigit).dropWhile isSpace)).1 with
        | true => rfl
        | false => rfl
    · cases h
  · rintro ⟨neg, ds, ⟨pre, sign, digits, post, hs, ⟨hpre, hpost⟩, hsign, hdigits, hlength⟩, hn⟩
    obtain ⟨d, hd, s', hhead⟩ := hdigits.head
    have hfirst : ∃ d < 10, ∃ s', digits ++ post = (48 + d) :: s' :=
      ⟨d, hd, s' ++ post, by rw [hhead]; rfl⟩
    have hmagnitude : parseMagnitude (digits ++ post) =
        some ⟨ofDecimalDigits ds, ofDecimalDigits_lt hdigits.lt hlength⟩ :=
      parseMagnitude_eq_some_iff.mpr ⟨digits, ds, post, rfl, hdigits, hpost, hlength, rfl⟩
    unfold parseInt
    rw [hs, dropWhile_space hpre hsign hfirst, splitSign_complete hsign hfirst]
    dsimp only
    rw [hmagnitude]
    dsimp only
    congr 1
    apply Subtype.ext
    rw [hn]
    cases neg with
    | true => rfl
    | false => rfl

lemma natAbs_signedValue (neg : Bool) (n : ℕ) : (signedValue neg n).natAbs = n := by
  cases neg with
  | true => rw [signedValue, if_pos rfl, Int.natAbs_neg, Int.natAbs_natCast]
  | false => rw [signedValue, if_neg Bool.false_ne_true, Int.natAbs_natCast]

lemma Spells.parseInt {s : Str} {neg : Bool} {ds : List ℕ} (h : Spells s neg ds) :
    ∃ n, Py.parseInt s = .ok n ∧ n.val = signedValue neg (ofDecimalDigits ds) := by
  have hbound : (signedValue neg (ofDecimalDigits ds)).natAbs < strLimit := by
    obtain ⟨_, _, _, _, -, -, -, hdigits, hlength⟩ := h
    rw [natAbs_signedValue]
    exact ofDecimalDigits_lt hdigits.lt hlength
  exact ⟨⟨_, hbound⟩, parseInt_eq_ok_iff.mpr ⟨neg, ds, h, rfl⟩, rfl⟩

/-! ### Signs and zeros -/

lemma ofDecimalDigits_eq_zero_iff {ds : List ℕ} : ofDecimalDigits ds = 0 ↔ ∀ d ∈ ds, d = 0 := by
  constructor
  · intro h d hd
    exact Nat.digits_zero_of_eq_zero (by norm_num) h d (List.mem_reverse.mpr hd)
  · intro h
    rw [List.eq_replicate_of_mem h, ofDecimalDigits, List.reverse_replicate, Nat.ofDigits_replicate_zero]

lemma ofDecimalDigits_snoc (ds : List ℕ) (d : ℕ) :
    ofDecimalDigits (ds ++ [d]) = 10 * ofDecimalDigits ds + d := by
  rw [ofDecimalDigits, List.reverse_append, List.reverse_singleton, List.singleton_append,
    Nat.ofDigits_cons, ofDecimalDigits, Nat.add_comm]

lemma one_le_signedValue_iff {neg : Bool} {ds : List ℕ} :
    1 ≤ signedValue neg (ofDecimalDigits ds) ↔ neg = false ∧ ∃ d ∈ ds, d ≠ 0 := by
  have hzero : (∃ d ∈ ds, d ≠ 0) ↔ ofDecimalDigits ds ≠ 0 := by
    rw [Ne, ofDecimalDigits_eq_zero_iff]
    push Not
    rfl
  rw [hzero]
  cases neg with
  | true =>
    simp only [signedValue, if_true, Bool.true_eq_false, false_and, iff_false]
    omega
  | false =>
    simp only [signedValue, Bool.false_eq_true, if_false, true_and]
    omega

/-! ### Texts with and without letters -/

lemma Grouped.code_lt {text ds : List ℕ} (h : Grouped text ds) : ∀ n ∈ text, n < 97 := by
  induction h with
  | last hd => simpa using by omega
  | digit hd _ ih => exact List.forall_mem_cons.mpr ⟨by omega, ih⟩
  | underscore hd _ ih =>
    exact List.forall_mem_cons.mpr ⟨by omega, List.forall_mem_cons.mpr ⟨by norm_num, ih⟩⟩

lemma code_lt_of_space {s : List ℕ} (h : s.all isSpace = true) : ∀ n ∈ s, n < 97 := by
  intro n hn
  have hspace := List.all_eq_true.mp h n hn
  simp only [isSpace, Bool.or_eq_true, Bool.and_eq_true, decide_eq_true_eq] at hspace
  omega

lemma Sign.code_lt {sign : List ℕ} {neg : Bool} (h : Sign sign neg) : ∀ n ∈ sign, n < 97 := by
  cases h with
  | none => simp
  | plus => simp
  | minus => simp

/-- No letter stands in a numeral. -/
lemma Spells.code_lt {s : Str} {neg : Bool} {ds : List ℕ} (h : Spells s neg ds) :
    ∀ c ∈ s, toAsciiDigit c < 97 := by
  obtain ⟨pre, sign, digits, post, hs, ⟨hpre, hpost⟩, hsign, hdigits, -⟩ := h
  intro c hc
  have hmem := hs ▸ List.mem_map_of_mem (f := toAsciiDigit) hc
  rw [List.mem_append, List.mem_append, List.mem_append] at hmem
  rcases hmem with hmem | hmem | hmem | hmem
  · exact code_lt_of_space hpre _ hmem
  · exact hsign.code_lt _ hmem
  · exact hdigits.code_lt _ hmem
  · exact code_lt_of_space hpost _ hmem

lemma grouped_digits {ds : List ℕ} (hne : ds ≠ []) (hds : ∀ d ∈ ds, d < 10) :
    Grouped (ds.map (48 + ·)) ds := by
  induction ds with
  | nil => exact absurd rfl hne
  | cons d ds ih =>
    obtain ⟨hd, hrest⟩ := List.forall_mem_cons.mp hds
    cases ds with
    | nil => exact .last hd
    | cons d' ds => exact .digit hd (ih (List.cons_ne_nil d' ds) hrest)

/-- Digits alone are a numeral. -/
lemma spells_digits {ds : List ℕ} (hne : ds ≠ []) (hds : ∀ d ∈ ds, d < 10)
    (hlength : ds.length ≤ maxStrDigits) : Spells (ds.map digitChar) false ds := by
  refine ⟨[], [], ds.map (48 + ·), [], ?_, ⟨rfl, rfl⟩, .none, grouped_digits hne hds, hlength⟩
  rw [map_toAsciiDigit hds, List.nil_append, List.nil_append, List.append_nil]

end Py
