import IntruderWatch.Library.FloatDigits
import IntruderWatch.Library.JsonText
import IntruderWatch.Library.PyNumerals

/-!
# The text of a float reads back

`repr` writes a float as decimal digits with a point or an exponent, and `float` rounds the number
that they denote. The digits are given as lists of values, most significant first. The scanner of
`json.loads` takes the same text for a number and reads it with `float`.
-/

namespace Py

/-! ### Numerals with a point and an exponent -/

/-- The sign and the digits of an exponent. -/
abbrev Exponent := Option (Bool × List ℕ)

def exponentText : Exponent → Str
  | none => []
  | some (neg, es) => ofChar 'e' :: (if neg then minus else ofChar '+') :: es.map digitChar

def exponentValue : Exponent → ℤ
  | none => 0
  | some (neg, es) => signedValue neg (ofDecimalDigits es)

def fractionText (fp : List ℕ) : Str :=
  if fp = [] then [] else ofChar '.' :: fp.map digitChar

def numeralText (ip fp : List ℕ) (e : Exponent) : Str :=
  ip.map digitChar ++ (fractionText fp ++ exponentText e)

def numeralValue (ip fp : List ℕ) (e : Exponent) : ℚ :=
  ofDecimalDigits (ip ++ fp) * 10 ^ (exponentValue e - fp.length)

/-- The digits of a numeral that JSON takes for a float. -/
structure IsNumeral (ip fp : List ℕ) (e : Exponent) : Prop where
  ip_ne : ip ≠ []
  ip_lt : ∀ d ∈ ip, d < 10
  ip_zero : ip.head? = some 0 → ip = [0]
  fp_lt : ∀ d ∈ fp, d < 10
  isFloat : fp ≠ [] ∨ e ≠ none
  exponent : ∀ neg es, e = some (neg, es) → es ≠ [] ∧ ∀ d ∈ es, d < 10

/-! ### The value of digits -/

lemma ofDecimalDigits_append (xs ys : List ℕ) :
    ofDecimalDigits (xs ++ ys) = ofDecimalDigits xs * 10 ^ ys.length + ofDecimalDigits ys := by
  rw [ofDecimalDigits, List.reverse_append, Nat.ofDigits_append, List.length_reverse, ofDecimalDigits,
    ofDecimalDigits]
  ring

lemma ofDecimalDigits_zeros (n : ℕ) : ofDecimalDigits (zeros n) = 0 := by
  rw [ofDecimalDigits_eq_zero_iff]
  intro d hd
  exact (List.mem_replicate.mp hd).2

lemma zeros_lt {n : ℕ} : ∀ d ∈ zeros n, d < 10 := by
  intro d hd
  rw [(List.mem_replicate.mp hd).2]
  norm_num

lemma length_zeros (n : ℕ) : (zeros n).length = n := List.length_replicate

lemma zeros_append_value (n : ℕ) (ds : List ℕ) : ofDecimalDigits (zeros n ++ ds) = ofDecimalDigits ds := by
  rw [ofDecimalDigits_append, ofDecimalDigits_zeros, zero_mul, zero_add]

/-! ### The four layouts -/

section Layouts

variable {ds : List ℕ} (hne : ds ≠ []) (hds : ∀ d ∈ ds, d < 10) (hhead : ds.head? ≠ some 0)

include hne hds hhead

lemma isNumeral_exponent {es : List ℕ} {neg : Bool} (hes : es ≠ []) (hlt : ∀ d ∈ es, d < 10) :
    IsNumeral (ds.take 1) (ds.drop 1) (some (neg, es)) := by
  cases ds with
  | nil => exact absurd rfl hne
  | cons d ds =>
    refine ⟨List.cons_ne_nil d [], fun x hx => hds x (List.mem_of_mem_take hx),
      fun h => absurd h hhead, fun x hx => hds x (List.mem_of_mem_drop hx), Or.inr (by simp), ?_⟩
    intro neg' es' heq
    obtain ⟨-, rfl⟩ := Prod.mk.inj (Option.some.inj heq)
    exact ⟨hes, hlt⟩

/-- What `repr` lays out is a numeral for `0.ds` times `10 ^ point`. -/
lemma placeDigits_numeral (point : ℤ) : ∃ ip fp e, IsNumeral ip fp e ∧
    placeDigits ds point = numeralText ip fp e ∧
    numeralValue ip fp e = ofDecimalDigits ds * 10 ^ (point - ds.length) := by
  have hlen : 0 < ds.length := List.length_pos_iff.mpr hne
  have hnone : ∀ neg es, (none : Exponent) = some (neg, es) → es ≠ [] ∧ ∀ d ∈ es, d < 10 := by
    intro neg es h
    cases h
  unfold placeDigits
  dsimp only
  by_cases hexp : point ≤ -4 ∨ 16 < point
  · -- one digit, the others behind the point, and an exponent
    set e := point - 1 with he
    set es := zeros (2 - (decimalDigits e.natAbs).length) ++ decimalDigits e.natAbs with hes
    refine ⟨ds.take 1, ds.drop 1, some (decide (e < 0), es),
      isNumeral_exponent hne hds hhead ?_ ?_, ?_, ?_⟩
    · intro hnil
      exact decimalDigits_ne_nil _ (List.append_eq_nil_iff.mp hnil).2
    · intro d hd
      rcases List.mem_append.mp hd with hd | hd
      · exact zeros_lt d hd
      · exact decimalDigits_lt hd
    · have hdrop : (ds.length ≤ 1) = (ds.drop 1 = []) := propext List.drop_eq_nil_iff.symm
      rw [if_pos hexp]
      simp only [numeralText, fractionText, exponentText, hdrop, decide_eq_true_eq, List.append_assoc]
    · have hvalue : exponentValue (some (decide (e < 0), es)) = e := by
        simp only [exponentValue, hes, zeros_append_value, ofDecimalDigits_decimalDigits]
        by_cases hneg : e < 0
        · rw [decide_eq_true hneg, signedValue, if_pos rfl]
          omega
        · rw [decide_eq_false hneg, signedValue, if_neg Bool.false_ne_true]
          omega
      rw [numeralValue, hvalue, List.take_append_drop, List.length_drop, Nat.cast_sub hlen]
      congr 2
      push_cast
      omega
  rw [if_neg hexp]
  by_cases hsmall : point ≤ 0
  · rw [if_pos hsmall]
    refine ⟨[0], zeros (-point).toNat ++ ds, none, ⟨by simp, by simp, fun _ => rfl, ?_,
      Or.inl (by simp [hne]), hnone⟩, ?_, ?_⟩
    · intro d hd
      rcases List.mem_append.mp hd with hd | hd
      · exact zeros_lt d hd
      · exact hds d hd
    · rw [numeralText, fractionText, if_neg (by simp [hne]), exponentText, List.append_nil]
    · have hzero : ofDecimalDigits ([0] ++ (zeros (-point).toNat ++ ds)) = ofDecimalDigits ds := by
        rw [← List.append_assoc]
        exact zeros_append_value ((-point).toNat + 1) ds
      rw [numeralValue, hzero, List.length_append, length_zeros, exponentValue]
      congr 2
      push_cast
      omega
  rw [if_neg hsmall]
  by_cases hlong : ds.length ≤ point.toNat
  · rw [if_pos hlong]
    refine ⟨ds ++ zeros (point.toNat - ds.length), [0], none, ⟨by simp [hne], ?_, ?_, by simp,
      Or.inl (by simp), hnone⟩, ?_, ?_⟩
    · intro d hd
      rcases List.mem_append.mp hd with hd | hd
      · exact hds d hd
      · exact zeros_lt d hd
    · intro h
      cases ds with
      | nil => exact absurd rfl hne
      | cons d ds => exact absurd h hhead
    · rw [numeralText, fractionText, if_neg (by simp), exponentText, List.append_nil]
    · have hzero : ofDecimalDigits (ds ++ zeros (point.toNat - ds.length) ++ [0]) =
          ofDecimalDigits ds * 10 ^ (point.toNat - ds.length + 1) := by
        rw [List.append_assoc, ofDecimalDigits_append]
        have hzeros : zeros (point.toNat - ds.length) ++ [0] = zeros (point.toNat - ds.length + 1) := by
          rw [zeros, zeros, List.replicate_succ']
        rw [hzeros, ofDecimalDigits_zeros, length_zeros, add_zero]
      rw [numeralValue, hzero, exponentValue]
      push_cast
      rw [mul_assoc, ← zpow_natCast, ← zpow_add₀ (by norm_num)]
      congr 2
      push_cast
      simp only [List.length_singleton]
      omega
  · rw [if_neg hlong]
    refine ⟨ds.take point.toNat, ds.drop point.toNat, none, ⟨?_, ?_, ?_, ?_, Or.inl ?_, hnone⟩, ?_, ?_⟩
    · intro hnil
      have hlen' := congrArg List.length hnil
      rw [List.length_take, List.length_nil] at hlen'
      omega
    · exact fun d hd => hds d (List.mem_of_mem_take hd)
    · intro h
      rw [List.head?_take, if_neg (by omega)] at h
      exact absurd h hhead
    · exact fun d hd => hds d (List.mem_of_mem_drop hd)
    · intro hnil
      have hlen' := congrArg List.length hnil
      rw [List.length_drop, List.length_nil] at hlen'
      omega
    · rw [numeralText, fractionText, if_neg, exponentText, List.append_nil]
      intro hnil
      have hlen' := congrArg List.length hnil
      rw [List.length_drop, List.length_nil] at hlen'
      omega
    · rw [numeralValue, List.take_append_drop, List.length_drop, exponentValue]
      congr 2
      omega

end Layouts

/-! ### Parsing a numeral -/

section Parsing

variable {ip fp : List ℕ} {e : Exponent}

/-- The characters of digits as `float` sees them. -/
def digitCodes (ds : List ℕ) : List ℕ := ds.map (48 + ·)

def exponentCodes : Exponent → List ℕ
  | none => []
  | some (neg, es) => 101 :: (if neg then 45 else 43) :: digitCodes es

def fractionCodes (fp : List ℕ) : List ℕ :=
  if fp = [] then [] else 46 :: digitCodes fp

def numeralCodes (ip fp : List ℕ) (e : Exponent) : List ℕ :=
  digitCodes ip ++ (fractionCodes fp ++ exponentCodes e)

lemma map_numeralText (h : IsNumeral ip fp e) :
    (numeralText ip fp e).map toAsciiDigit = numeralCodes ip fp e := by
  have hfraction : (fractionText fp).map toAsciiDigit = fractionCodes fp := by
    unfold fractionText fractionCodes
    split_ifs
    · rfl
    · rw [List.map_cons, map_toAsciiDigit h.fp_lt]
      rfl
  have hexponent : (exponentText e).map toAsciiDigit = exponentCodes e := by
    cases e with
    | none => rfl
    | some p =>
      obtain ⟨neg, es⟩ := p
      rw [exponentText, exponentCodes, List.map_cons, List.map_cons,
        map_toAsciiDigit (h.exponent neg es rfl).2]
      cases neg with
      | true => rfl
      | false => rfl
  rw [numeralText, numeralCodes, List.map_append, List.map_append, map_toAsciiDigit h.ip_lt, hfraction,
    hexponent]
  rfl

lemma digitCodes_isDigit {ds : List ℕ} (hds : ∀ d ∈ ds, d < 10) :
    ∀ c ∈ digitCodes ds, isDigit c = true := by
  intro c hc
  obtain ⟨d, hd, rfl⟩ := List.mem_map.mp hc
  exact isDigit_eq_true.mpr ⟨d, hds d hd, rfl⟩

lemma span_digitCodes {ds rest : List ℕ} (hds : ∀ d ∈ ds, d < 10)
    (hrest : ∀ c ∈ rest.head?, isDigit c = false) :
    (digitCodes ds ++ rest).span isDigit = (digitCodes ds, rest) := by
  have htail : rest.takeWhile isDigit = [] ∧ rest.dropWhile isDigit = rest := by
    cases rest with
    | nil => exact ⟨rfl, rfl⟩
    | cons c rest => simp [hrest c rfl]
  rw [List.span_eq_takeWhile_dropWhile, List.takeWhile_append_of_pos (digitCodes_isDigit hds),
    List.dropWhile_append_of_pos (digitCodes_isDigit hds), htail.1, htail.2, List.append_nil]

lemma ofDigitChars_digitCodes (ds : List ℕ) : ofDigitChars (digitCodes ds) = ofDecimalDigits ds := by
  have hback : (digitCodes ds).map (· - 48) = ds := by
    rw [digitCodes, List.map_map]
    exact List.map_id'' (fun d => by simp) ds
  rw [ofDigitChars, hback, ofDecimalDigits]

lemma parseExponent_codes (h : IsNumeral ip fp e) : parseExponent (exponentCodes e) = some (exponentValue e) := by
  cases e with
  | none => rfl
  | some p =>
    obtain ⟨neg, es⟩ := p
    obtain ⟨hne, hlt⟩ := h.exponent neg es rfl
    have hsplit : splitSign ((if neg then 45 else 43) :: digitCodes es) = (neg, digitCodes es) := by
      cases neg with
      | true => rfl
      | false => rfl
    have hdigits : digitCodes es ≠ [] ∧ (digitCodes es).all isDigit = true :=
      ⟨by simpa [digitCodes] using hne, List.all_eq_true.mpr (digitCodes_isDigit hlt)⟩
    rw [exponentCodes, parseExponent]
    simp only [true_or, if_true, hsplit]
    rw [if_pos hdigits, ofDigitChars_digitCodes]
    rfl

lemma parseDecimal_point {s ip rest : List ℕ} (h : s.span isDigit = (ip, 46 :: rest)) (hip : ip ≠ []) :
    parseDecimal s = (parseExponent (rest.span isDigit).2).map (fun e : ℤ =>
      (ofDigitChars (ip ++ (rest.span isDigit).1) : ℚ) *
        10 ^ (e - ((rest.span isDigit).1.length : ℤ))) := by
  unfold parseDecimal
  rw [h]
  exact if_neg (fun hnil => hip (List.append_eq_nil_iff.mp hnil).1)

lemma parseDecimal_whole {s ip rest : List ℕ} (h : s.span isDigit = (ip, rest)) (hip : ip ≠ [])
    (hrest : rest.head? ≠ some 46) :
    parseDecimal s = (parseExponent rest).map (fun e : ℤ => (ofDigitChars ip : ℚ) * 10 ^ e) := by
  unfold parseDecimal
  rw [h]
  dsimp only
  split
  · exact absurd rfl hrest
  · dsimp only
    rw [List.append_nil, if_neg hip, List.length_nil, Nat.cast_zero]
    simp only [sub_zero]

lemma parseDecimal_codes (h : IsNumeral ip fp e) :
    parseDecimal (numeralCodes ip fp e) = some (numeralValue ip fp e) := by
  have hexp : ∀ c ∈ (exponentCodes e).head?, isDigit c = false ∧ c ≠ 46 := by
    cases e with
    | none => simp [exponentCodes]
    | some p => simp [exponentCodes, isDigit]
  have hne : digitCodes ip ≠ [] := by simpa [digitCodes] using h.ip_ne
  have happend : digitCodes ip ++ digitCodes fp = digitCodes (ip ++ fp) := List.map_append.symm
  by_cases hfp : fp = []
  · have hspan : (numeralCodes ip fp e).span isDigit = (digitCodes ip, exponentCodes e) := by
      rw [numeralCodes, fractionCodes, if_pos hfp]
      exact span_digitCodes h.ip_lt (fun c hc => (hexp c hc).1)
    rw [parseDecimal_whole hspan hne (fun hc => (hexp 46 hc).2 rfl), parseExponent_codes h,
      Option.map_some, ofDigitChars_digitCodes, numeralValue, hfp, List.append_nil, List.length_nil,
      Nat.cast_zero, sub_zero]
  · have hspan : (numeralCodes ip fp e).span isDigit =
        (digitCodes ip, 46 :: (digitCodes fp ++ exponentCodes e)) := by
      rw [numeralCodes, fractionCodes, if_neg hfp]
      exact span_digitCodes h.ip_lt (by simp [isDigit])
    rw [parseDecimal_point hspan hne, span_digitCodes h.fp_lt (fun c hc => (hexp c hc).1)]
    dsimp only
    rw [parseExponent_codes h, happend, ofDigitChars_digitCodes, Option.map_some, digitCodes,
      List.length_map]
    rfl

/-- The characters of a numeral behind its first digit. -/
lemma numeralCodes_mem (h : IsNumeral ip fp e) {c : ℕ} (hc : c ∈ numeralCodes ip fp e) :
    isDigit c = true ∨ c = 46 ∨ c = 101 ∨ c = 45 ∨ c = 43 := by
  rw [numeralCodes, List.mem_append, List.mem_append] at hc
  rcases hc with hc | hc | hc
  · exact Or.inl (digitCodes_isDigit h.ip_lt c hc)
  · unfold fractionCodes at hc
    split_ifs at hc
    · cases hc
    · rcases List.mem_cons.mp hc with rfl | hc
      · exact Or.inr (Or.inl rfl)
      · exact Or.inl (digitCodes_isDigit h.fp_lt c hc)
  · cases e with
    | none => cases hc
    | some p =>
      obtain ⟨neg, es⟩ := p
      rcases List.mem_cons.mp hc with rfl | hc
      · exact Or.inr (Or.inr (Or.inl rfl))
      · rcases List.mem_cons.mp hc with hc | hc
        · cases neg with
          | true => exact Or.inr (Or.inr (Or.inr (Or.inl hc)))
          | false => exact Or.inr (Or.inr (Or.inr (Or.inr hc)))
        · exact Or.inl (digitCodes_isDigit (h.exponent neg es rfl).2 c hc)

lemma dropUnderscores_eq {s : List ℕ} (h : ∀ c ∈ s, c ≠ 95) {prev : ℕ} (hprev : prev ≠ 95) :
    dropUnderscores s prev = some s := by
  induction s generalizing prev with
  | nil => rw [dropUnderscores, if_neg hprev]
  | cons c s ih =>
    have hc := h c List.mem_cons_self
    have hskip : ¬ (decide (prev = 95) && !isDigit c) = true := by simp [hprev]
    rw [dropUnderscores, if_neg hc, if_neg hskip,
      ih (fun d hd => h d (List.mem_cons_of_mem c hd)) hc]
    rfl

/-- A leading minus sign. -/
def signText (neg : Bool) : Str := if neg then [minus] else []

/-- `float` rounds what a numeral denotes. -/
theorem parseFloat_numeral (h : IsNumeral ip fp e) (neg : Bool) :
    parseFloat (signText neg ++ numeralText ip fp e) = .ok (.ofSigned neg (numeralValue ip fp e)) := by
  set codes := (signText neg).map toAsciiDigit ++ numeralCodes ip fp e with hcodes
  have hmap : (signText neg ++ numeralText ip fp e).map toAsciiDigit = codes := by
    rw [List.map_append, map_numeralText h]
  obtain ⟨d, ds, hip⟩ := List.exists_cons_of_ne_nil h.ip_ne
  have hd : d < 10 := h.ip_lt d (hip ▸ List.mem_cons_self)
  have hmem : ∀ c ∈ codes, isSpace c = false ∧ c ≠ 95 := by
    intro c hc
    have hcase : isDigit c = true ∨ c = 46 ∨ c = 101 ∨ c = 45 ∨ c = 43 := by
      rcases List.mem_append.mp hc with hc | hc
      · cases neg with
        | true => exact Or.inr (Or.inr (Or.inr (Or.inl (List.mem_singleton.mp hc))))
        | false => cases hc
      · exact numeralCodes_mem h hc
    simp only [isDigit, Bool.and_eq_true, decide_eq_true_eq] at hcase
    simp only [isSpace, Bool.or_eq_false_iff, Bool.and_eq_false_iff, decide_eq_false_iff_not]
    omega
  have hkeep : ∀ l : List ℕ, (∀ c ∈ l, isSpace c = false) → l.dropWhile isSpace = l := by
    intro l hl
    cases l with
    | nil => rfl
    | cons c l => rw [List.dropWhile_cons_of_neg (by simp [hl c List.mem_cons_self])]
  have hsign : splitSign codes = (neg, numeralCodes ip fp e) := by
    have hhead : ∃ d < 10, ∃ s', numeralCodes ip fp e = (48 + d) :: s' :=
      ⟨d, hd, digitCodes ds ++ (fractionCodes fp ++ exponentCodes e), by rw [hip]; rfl⟩
    cases neg with
    | true => rfl
    | false => exact splitSign_complete .none hhead
  unfold parseFloat
  rw [hmap, hkeep codes (fun c hc => (hmem c hc).1)]
  dsimp only
  rw [hkeep codes.reverse (fun c hc => (hmem c (List.mem_reverse.mp hc)).1), List.reverse_reverse,
    dropUnderscores_eq (fun c hc => (hmem c hc).2) (by norm_num)]
  dsimp only
  rw [hsign]
  dsimp only
  rw [parseDecimal_codes h]

end Parsing

/-! ### The numeral of a float -/

lemma dropWhile_zeros (ds : List ℕ) : ∃ k, ds = (ds.reverse.dropWhile (· = 0)).reverse ++ zeros k := by
  refine ⟨(ds.reverse.takeWhile (· = 0)).length, ?_⟩
  have hzeros : (ds.reverse.takeWhile (· = 0)).reverse = zeros (ds.reverse.takeWhile (· = 0)).length := by
    rw [zeros, List.eq_replicate_iff]
    refine ⟨List.length_reverse, ?_⟩
    intro d hd
    exact of_decide_eq_true (List.all_eq_true.mp List.all_takeWhile d (List.mem_reverse.mp hd))
  rw [← hzeros, ← List.reverse_append, List.takeWhile_append_dropWhile, List.reverse_reverse]

lemma roundMagnitude_self (a : Magnitude) : roundMagnitude a.val = some a := by
  have hlt : a.val < overflowThreshold := by
    have h := a.2.add_lt (b := 0) (by positivity)
    rwa [add_zero] at h
  unfold roundMagnitude
  rw [dif_pos ⟨a.2.nonneg, hlt⟩]
  exact congrArg some (Subtype.ext (roundedMagnitude_self a.2))

lemma decimalDigits_head_ne {n : ℕ} (hn : n ≠ 0) : (decimalDigits n).head? ≠ some 0 := by
  intro h
  cases hds : decimalDigits n with
  | nil => exact decimalDigits_ne_nil n hds
  | cons d ds =>
    rw [hds] at h
    obtain rfl : d = 0 := Option.some.inj h
    have hvalue := ofDecimalDigits_decimalDigits n
    rw [hds, decimalDigits_zero_head hds rfl] at hvalue
    exact hn hvalue.symm

/-- `repr` writes a numeral that denotes a number which rounds to the value. -/
theorem floatRepr_numeral (neg : Bool) (a : Magnitude) : ∃ ip fp e, IsNumeral ip fp e ∧
    floatRepr (.finite neg a) = signText neg ++ numeralText ip fp e ∧
    roundMagnitude (numeralValue ip fp e) = some a := by
  by_cases hzero : a.val = 0
  · refine ⟨[0], [0], none, ⟨by simp, by simp, fun _ => rfl, by simp, Or.inl (by simp), ?_⟩, ?_, ?_⟩
    · intro neg es h
      cases h
    · rw [floatRepr, if_pos hzero]
      cases neg with
      | true => rfl
      | false => rfl
    · have hvalue : numeralValue [0] [0] none = a.val := by
        rw [numeralValue, show ofDecimalDigits ([0] ++ [0]) = 0 from rfl, Nat.cast_zero, zero_mul, hzero]
      rw [hvalue, roundMagnitude_self]
  · have hpos : 0 < a.val := lt_of_le_of_ne a.2.nonneg (Ne.symm hzero)
    have hback := shortest_reads_back hpos
    obtain ⟨d, place, hshort⟩ : ∃ d place, shortest a = (d, place) := ⟨_, _, rfl⟩
    rw [hshort] at hback
    have hd0 : d ≠ 0 := by
      rintro rfl
      have hself := roundMagnitude_self ⟨0, ⟨0, 0, by norm_num, by norm_num, by norm_num, by simp⟩⟩
      rw [Nat.cast_zero, zero_mul, hself] at hback
      exact hzero (congrArg Subtype.val (Option.some.inj hback)).symm
    obtain ⟨k, hk⟩ := dropWhile_zeros (decimalDigits d)
    set ds := ((decimalDigits d).reverse.dropWhile (· = 0)).reverse with hds
    have hvalue : d = ofDecimalDigits ds * 10 ^ k := by
      have h := ofDecimalDigits_decimalDigits d
      rw [hk, ofDecimalDigits_append, ofDecimalDigits_zeros, length_zeros, add_zero] at h
      exact h.symm
    have hne : ds ≠ [] := by
      intro hnil
      rw [hnil] at hvalue
      exact hd0 (by rw [hvalue]; exact zero_mul _)
    have hlt : ∀ x ∈ ds, x < 10 := by
      intro x hx
      exact decimalDigits_lt (n := d) (by rw [hk]; exact List.mem_append_left _ hx)
    have hhead : ds.head? ≠ some 0 := by
      intro h0
      have hhead' : (decimalDigits d).head? = some 0 := by
        rw [hk, List.head?_append, h0]
        rfl
      exact decimalDigits_head_ne hd0 hhead'
    obtain ⟨ip, fp, e, hnumeral, htext, hnumber⟩ :=
      placeDigits_numeral hne hlt hhead ((decimalDigits d).length + place)
    refine ⟨ip, fp, e, hnumeral, ?_, ?_⟩
    · rw [floatRepr, if_neg hzero, hshort]
      dsimp only
      rw [← hds, htext]
      cases neg with
      | true => rfl
      | false => rfl
    · have hlength : (decimalDigits d).length = ds.length + k := by
        have h := congrArg List.length hk
        rwa [List.length_append, length_zeros] at h
      have hplace : (d : ℚ) * 10 ^ place =
          ofDecimalDigits ds * 10 ^ (((decimalDigits d).length + place : ℤ) - ds.length) := by
        rw [hlength, hvalue]
        push_cast
        rw [mul_assoc, ← zpow_natCast, ← zpow_add₀ (by norm_num)]
        congr 2
        ring
      rw [hnumber, ← hplace]
      exact hback

theorem parseFloat_floatRepr (neg : Bool) (a : Magnitude) :
    parseFloat (floatRepr (.finite neg a)) = .ok (.finite neg a) := by
  obtain ⟨ip, fp, e, hnumeral, htext, hround⟩ := floatRepr_numeral neg a
  rw [htext, parseFloat_numeral hnumeral, Binary64.ofSigned, hround]

/-! ### The number scanner of JSON -/

section Scanner

variable {ip fp : List ℕ} {e : Exponent}

lemma span_digitChars {ds : List ℕ} {rest : Str} (hds : ∀ d ∈ ds, d < 10)
    (hrest : ∀ c ∈ rest.head?, isDigitChar c = false) :
    (ds.map digitChar ++ rest).span isDigitChar = (ds.map digitChar, rest) := by
  have hdigits : ∀ c ∈ ds.map digitChar, isDigitChar c = true := by
    intro c hc
    obtain ⟨d, hd, rfl⟩ := List.mem_map.mp hc
    exact isDigitChar_digitChar (hds d hd)
  have htail : rest.takeWhile isDigitChar = [] ∧ rest.dropWhile isDigitChar = rest := by
    cases rest with
    | nil => exact ⟨rfl, rfl⟩
    | cons c rest => simp [hrest c rfl]
  rw [List.span_eq_takeWhile_dropWhile, List.takeWhile_append_of_pos hdigits,
    List.dropWhile_append_of_pos hdigits, htail.1, htail.2, List.append_nil]

lemma digitChar_eq_zero {d : ℕ} (hd : d < 10) (h : digitChar d = ofChar '0') : d = 0 := by
  have hval := congrArg Fin.val h
  rw [digitChar_val hd] at hval
  have h48 : (ofChar '0').val = 48 := rfl
  omega

lemma matchDigits_numeral (h : IsNumeral ip fp e) {rest : Str}
    (hrest : ∀ c ∈ rest.head?, isDigitChar c = false) :
    matchDigits (ip.map digitChar ++ rest) = some (ip.map digitChar, rest) := by
  cases hip : ip with
  | nil => exact absurd hip h.ip_ne
  | cons d ds =>
    have hlt := hip ▸ h.ip_lt
    have hd := hlt d List.mem_cons_self
    have hspan := span_digitChars hlt hrest
    rw [List.map_cons, List.cons_append] at hspan ⊢
    rw [matchDigits]
    by_cases hzero : digitChar d = ofChar '0'
    · have hnil : ds = [] := by
        have hip0 := h.ip_zero (by rw [hip, List.head?_cons, digitChar_eq_zero hd hzero])
        rw [hip] at hip0
        exact (List.cons.inj hip0).2
      rw [if_pos hzero, hnil]
      rfl
    · rw [if_neg hzero, if_pos (isDigitChar_digitChar hd), hspan]

lemma matchFraction_numeral (h : IsNumeral ip fp e) {rest : Str}
    (hrest : ∀ c ∈ rest.head?, isDigitChar c = false ∧ c ≠ ofChar '.') :
    matchFraction (fractionText fp ++ rest) = (fractionText fp, rest) := by
  unfold fractionText
  cases hfp : fp with
  | nil =>
    rw [if_pos rfl, List.nil_append]
    match rest with
    | [] => rfl
    | [c] => rfl
    | c :: d :: s =>
      rw [matchFraction, if_neg (fun hand => (hrest c rfl).2 hand.1)]
  | cons d ds =>
    have hlt := hfp ▸ h.fp_lt
    have hspan := span_digitChars hlt (fun c hc => (hrest c hc).1)
    rw [List.map_cons, List.cons_append] at hspan
    rw [if_neg (List.cons_ne_nil d ds), List.map_cons, List.cons_append, List.cons_append, matchFraction,
      if_pos ⟨rfl, isDigitChar_digitChar (hlt d List.mem_cons_self)⟩, hspan]

lemma matchExponent_numeral (h : IsNumeral ip fp e) {tail : Str} (htail : EndsValue tail) :
    matchExponent (exponentText e ++ tail) = (exponentText e, tail) := by
  cases e with
  | none => exact matchExponent_ends htail
  | some p =>
    obtain ⟨neg, es⟩ := p
    obtain ⟨hne, hlt⟩ := h.exponent neg es rfl
    have hsign : ∀ s : Str, matchSign ((if neg then minus else ofChar '+') :: s) =
        ([if neg then minus else ofChar '+'], s) := by
      intro s
      cases neg with
      | true => rfl
      | false => rfl
    have hes : es.map digitChar ≠ [] := by simpa using hne
    rw [exponentText, List.cons_append, List.cons_append, matchExponent, hsign]
    dsimp only
    rw [span_digitChars hlt htail.not_digit]
    dsimp only
    rw [if_pos ⟨Or.inl rfl, hes⟩]
    rfl

lemma matchNumber_numeral (h : IsNumeral ip fp e) (neg : Bool) {tail : Str} (htail : EndsValue tail) :
    matchNumber (signText neg ++ numeralText ip fp e ++ tail) =
      .ok (.float (.ofSigned neg (numeralValue ip fp e)), tail) := by
  obtain ⟨d, ds, hip⟩ := List.exists_cons_of_ne_nil h.ip_ne
  have hd : d < 10 := h.ip_lt d (hip ▸ List.mem_cons_self)
  have hminus : digitChar d ≠ minus := by
    intro heq
    have hval := congrArg Fin.val heq
    rw [digitChar_val hd] at hval
    have h45 : minus.val = 45 := rfl
    omega
  have hsplit : (if (signText neg ++ numeralText ip fp e ++ tail).head? = some minus then
      ([minus], (signText neg ++ numeralText ip fp e ++ tail).drop 1)
      else ([], signText neg ++ numeralText ip fp e ++ tail)) =
      (signText neg, numeralText ip fp e ++ tail) := by
    cases neg with
    | true => rfl
    | false =>
      rw [if_neg]
      · rfl
      · rw [numeralText, hip]
        exact fun heq => hminus (Option.some.inj heq)
  have hexp : ∀ c ∈ (exponentText e ++ tail).head?, isDigitChar c = false ∧ c ≠ ofChar '.' := by
    cases e with
    | none =>
      intro c hc
      rcases htail c hc with rfl | rfl | rfl
      · decide
      · decide
      · decide
    | some p =>
      intro c hc
      obtain rfl := Option.some.inj hc
      decide
  have hrest : ∀ c ∈ (fractionText fp ++ (exponentText e ++ tail)).head?, isDigitChar c = false := by
    unfold fractionText
    split_ifs
    · exact fun c hc => (hexp c hc).1
    · intro c hc
      obtain rfl := Option.some.inj hc
      decide
  have htext : numeralText ip fp e ++ tail =
      ip.map digitChar ++ (fractionText fp ++ (exponentText e ++ tail)) := by
    simp only [numeralText, List.append_assoc]
  have hnot : ¬ (fractionText fp = [] ∧ exponentText e = []) := by
    rintro ⟨hfp, he⟩
    rcases h.isFloat with hne | hne
    · rw [fractionText, if_neg hne] at hfp
      cases hfp
    · cases e with
      | none => exact hne rfl
      | some p => cases he
  unfold matchNumber
  rw [hsplit]
  dsimp only
  rw [htext, matchDigits_numeral h hrest]
  dsimp only
  rw [matchFraction_numeral h hexp]
  dsimp only
  rw [matchExponent_numeral h htail]
  dsimp only
  have hparse := parseFloat_numeral h neg
  rw [numeralText, ← List.append_assoc, ← List.append_assoc] at hparse
  rw [if_neg hnot, hparse]
  rfl

lemma mem_digitChars {ds : List ℕ} (hds : ∀ d ∈ ds, d < 10) {c : CodePoint} (hc : c ∈ ds.map digitChar) :
    48 ≤ c.val ∧ c.val ≤ 57 := by
  obtain ⟨d, hd, rfl⟩ := List.mem_map.mp hc
  have hlt := hds d hd
  rw [digitChar_val hlt]
  omega

/-- No capital letter stands in a numeral. -/
lemma numeralText_mem (h : IsNumeral ip fp e) {c : CodePoint} (hc : c ∈ numeralText ip fp e) :
    c.val < 58 ∨ c.val = 101 := by
  rw [numeralText, List.mem_append, List.mem_append] at hc
  rcases hc with hc | hc | hc
  · have hrange := mem_digitChars h.ip_lt hc
    omega
  · unfold fractionText at hc
    split_ifs at hc
    · cases hc
    · rcases List.mem_cons.mp hc with rfl | hc
      · exact Or.inl (by decide)
      · have hrange := mem_digitChars h.fp_lt hc
        omega
  · cases e with
    | none => cases hc
    | some p =>
      obtain ⟨neg, es⟩ := p
      rcases List.mem_cons.mp hc with rfl | hc
      · exact Or.inr (by decide)
      · rcases List.mem_cons.mp hc with rfl | hc
        · cases neg with
          | true => exact Or.inl (by decide)
          | false => exact Or.inl (by decide)
        · have hrange := mem_digitChars (h.exponent neg es rfl).2 hc
          omega

/-- A text that starts like a number is read by the number scanner. -/
lemma Reads.number {depth : ℕ} {c : CodePoint} {s : Str} {v : Json}
    (hc : c.val = 45 ∨ (48 ≤ c.val ∧ c.val ≤ 57)) (hs : ∀ d ∈ s, d.val ≠ 73)
    (hread : ∀ tail, EndsValue tail → matchNumber (c :: s ++ tail) = .ok (v, tail)) :
    Reads depth (c :: s) v := by
  have hother : ∀ d : CodePoint, (d.val < 45 ∨ 57 < d.val) → c ≠ d := by
    rintro d hd rfl
    omega
  have hspace : isJsonSpace c = false := by
    simp only [isJsonSpace, Bool.or_eq_false_iff, decide_eq_false_iff_not]
    omega
  refine ⟨⟨c, s, rfl, by omega, hspace, hother _ (by decide)⟩, ?_⟩
  intro fuel tail _ htail
  have hI : (s ++ tail).head? ≠ some (ofChar 'I') := by
    intro hhead
    have hval : (ofChar 'I').val = 73 := rfl
    cases s with
    | nil =>
      rcases htail _ hhead with h | h | h
      · exact absurd h (by decide)
      · exact absurd h (by decide)
      · exact absurd h (by decide)
    | cons d s =>
      obtain rfl := Option.some.inj hhead
      exact hs _ List.mem_cons_self hval
  have hnumber := hread tail htail
  rw [List.cons_append] at hnumber ⊢
  rw [scanOnce.eq_def]
  simp only [hother quote (by decide), hother (ofChar '\x7b') (by decide),
    hother (ofChar '[') (by decide), if_false, scanConstant_eq_none hc hI, hnumber]

/-- `json.loads` reads what `repr` writes for a finite float. -/
theorem Reads.float {depth : ℕ} (neg : Bool) (a : Magnitude) :
    Reads depth (floatRepr (.finite neg a)) (.float (.finite neg a)) := by
  obtain ⟨ip, fp, e, hnumeral, htext, hround⟩ := floatRepr_numeral neg a
  have hread : ∀ tail, EndsValue tail → matchNumber (floatRepr (.finite neg a) ++ tail) =
      .ok (.float (.finite neg a), tail) := by
    intro tail htail
    rw [htext, matchNumber_numeral hnumeral neg htail, Binary64.ofSigned, hround]
  obtain ⟨d, ds, hip⟩ := List.exists_cons_of_ne_nil hnumeral.ip_ne
  have hd : d < 10 := hnumeral.ip_lt d (hip ▸ List.mem_cons_self)
  obtain ⟨c, s, hcons, hc⟩ : ∃ c s, floatRepr (.finite neg a) = c :: s ∧
      (c.val = 45 ∨ (48 ≤ c.val ∧ c.val ≤ 57)) := by
    rw [htext, numeralText, hip]
    cases neg with
    | true => exact ⟨minus, _, rfl, Or.inl rfl⟩
    | false =>
      refine ⟨digitChar d, _, rfl, Or.inr ?_⟩
      rw [digitChar_val hd]
      omega
  have hmem : ∀ x ∈ c :: s, x.val ≠ 73 := by
    intro x hx
    rw [← hcons, htext, List.mem_append] at hx
    rcases hx with hx | hx
    · cases neg with
      | true =>
        obtain rfl := List.mem_singleton.mp hx
        decide
      | false => cases hx
    · have hrange := numeralText_mem hnumeral hx
      omega
  rw [hcons] at hread ⊢
  exact Reads.number hc (fun x hx => hmem x (List.mem_cons_of_mem c hx)) hread

end Scanner

end Py
