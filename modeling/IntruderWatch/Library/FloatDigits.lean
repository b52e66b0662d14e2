import IntruderWatch.Library.FloatOrder

/-!
# The digits of a float read back

Rounding returns to a magnitude from everywhere closer than a fraction `2 ^ -54` of it, so seventeen
decimal digits always suffice, and the digits that `repr` selects round to the number they stand for.
-/

namespace Py

/-! ### Rounding close to a magnitude -/

lemma roundEven_near {a : ℚ} {n : ℕ} (ha : 0 ≤ a) (h : |a - n| < 1 / 2) : roundEven a = n := by
  obtain ⟨hlow, hhigh⟩ := abs_lt.mp h
  rcases le_or_gt (n : ℚ) a with hle | hlt
  · have hfloor : ⌊a⌋₊ = n := by
      rw [Nat.floor_eq_iff ha]
      exact ⟨hle, by linarith⟩
    unfold roundEven
    rw [hfloor, if_pos (by linarith)]
  · -- below `n` the fraction is above one half
    cases n with
    | zero =>
      rw [Nat.cast_zero] at hlt
      linarith
    | succ k =>
      push_cast at hlow hhigh hlt
      have hfloor : ⌊a⌋₊ = k := by
        rw [Nat.floor_eq_iff ha]
        constructor
        · linarith
        · linarith
      unfold roundEven
      rw [hfloor, if_neg (by linarith), if_pos (by linarith)]

/-- A magnitude is a multiple of its last place. -/
lemma IsMagnitude.eq_mul_ulp {m : ℚ} (hm : IsMagnitude m) : ∃ j : ℕ, m = j * 2 ^ ulpExponent m := by
  obtain ⟨j, hmj, hjm⟩ := hm.grid le_rfl
  exact ⟨j, le_antisymm hmj hjm⟩

/-- The multiples of a power of two are multiples of the smaller ones. -/
lemma mul_zpow_of_le (k : ℕ) {i l : ℤ} (h : l ≤ i) :
    ∃ k' : ℕ, (k : ℚ) * 2 ^ i = k' * 2 ^ l := by
  refine ⟨k * 2 ^ (i - l).toNat, ?_⟩
  have hsplit : (2 : ℚ) ^ i = 2 ^ (i - l).toNat * 2 ^ l := by
    rw [← zpow_natCast 2 (i - l).toNat, Int.toNat_of_nonneg (by omega), ← zpow_add₀ (by norm_num),
      sub_add_cancel]
  rw [hsplit]
  push_cast
  ring

/-- Above a power of two the next magnitude is farther than the error allowed for. -/
lemma IsMagnitude.le_zpow_of_near {m x : ℚ} (hm : IsMagnitude m) (hmpos : 0 < m)
    (h : m - m / 2 ^ 54 < x) : m ≤ 2 ^ (ulpExponent x + 53) := by
  by_contra hnot
  rw [not_le] at hnot
  set K := ulpExponent x + 53 with hK
  have hx : x < 2 ^ K := lt_zpow_ulpExponent
  have hpow : (0 : ℚ) < 2 ^ K := by positivity
  have hulp : K - 52 ≤ ulpExponent m := by
    have hlog : K ≤ Int.log 2 m := (Int.zpow_le_iff_le_log (b := 2) (by norm_num) hmpos).mp hnot.le
    unfold ulpExponent
    omega
  -- both sides are multiples of the last place of the binade, so they differ by one at least
  obtain ⟨j, hj⟩ := hm.eq_mul_ulp
  obtain ⟨j', hj'⟩ := mul_zpow_of_le j hulp
  have hsplit : (2 : ℚ) ^ K = (2 ^ 52 : ℕ) * 2 ^ (K - 52) := by
    have hadd : K = 52 + (K - 52) := by omega
    rw [hadd, zpow_add₀ (by norm_num)]
    norm_num
  have hunit : (0 : ℚ) < 2 ^ (K - 52) := by positivity
  have hmj : m = j' * 2 ^ (K - 52) := hj.trans hj'
  have hlt : 2 ^ 52 < j' := by
    rw [hmj, hsplit] at hnot
    exact_mod_cast lt_of_mul_lt_mul_right hnot hunit.le
  have hnext : (2 : ℚ) ^ K + 2 ^ (K - 52) ≤ m := by
    have hcast : ((2 ^ 52 : ℕ) : ℚ) + 1 ≤ j' := by exact_mod_cast hlt
    rw [hmj, hsplit]
    nlinarith [mul_le_mul_of_nonneg_right hcast hunit.le]
  have hunit' : (2 : ℚ) ^ (K - 52) = 2 ^ K / 2 ^ 52 := by
    rw [hsplit, Nat.cast_pow, Nat.cast_ofNat, mul_div_cancel_left₀ _ (by norm_num)]
  rw [hunit'] at hnext
  linarith

/-- Close above a magnitude the last place is no coarser. -/
lemma IsMagnitude.ulpExponent_le_of_near {m x : ℚ} (hm : IsMagnitude m) (hx : 0 < x)
    (h : x < m + m / 2 ^ 54) : ulpExponent x ≤ ulpExponent m := by
  by_contra hnot
  rw [not_le] at hnot
  set u := ulpExponent m with hu
  have hunit : (0 : ℚ) < 2 ^ u := by positivity
  have htop : (2 : ℚ) ^ (u + 53) ≤ x := by
    have hlog : u + 53 ≤ Int.log 2 x := by
      have hfloor : -1074 ≤ u := le_max_right _ _
      unfold ulpExponent at hnot
      omega
    exact (Int.zpow_le_iff_le_log (b := 2) (by norm_num) hx).mpr hlog
  have hsplit : (2 : ℚ) ^ (u + 53) = (2 ^ 53 : ℕ) * 2 ^ u := by
    rw [zpow_add₀ (by norm_num), mul_comm]
    norm_num
  obtain ⟨j, hj⟩ := hm.eq_mul_ulp
  have hmlt : m < 2 ^ (u + 53) := lt_zpow_ulpExponent
  have hnext : (j : ℚ) + 1 ≤ (2 ^ 53 : ℕ) := by
    rw [hsplit, hj] at hmlt
    have hlt : j < 2 ^ 53 := by exact_mod_cast lt_of_mul_lt_mul_right hmlt hunit.le
    exact_mod_cast hlt
  have hle : m + 2 ^ u ≤ 2 ^ (u + 53) := by
    rw [hsplit, hj]
    nlinarith [mul_le_mul_of_nonneg_right hnext hunit.le]
  have hhalf : m / 2 ^ 54 < 2 ^ u := by
    rw [div_lt_iff₀ (by norm_num), mul_comm]
    rw [hsplit, Nat.cast_pow, Nat.cast_ofNat] at hmlt
    linarith
  linarith

theorem roundedMagnitude_near {m x : ℚ} (hm : IsMagnitude m) (h : |x - m| < m / 2 ^ 54) :
    0 ≤ x ∧ roundedMagnitude x = m := by
  have hmpos : 0 < m := by
    have hpos : 0 < m / 2 ^ 54 := (abs_nonneg _).trans_lt h
    exact (div_pos_iff_of_pos_right (by norm_num)).mp hpos
  obtain ⟨hlow, hhigh⟩ := abs_lt.mp h
  have hx : 0 < x := by linarith
  refine ⟨hx.le, ?_⟩
  set E := ulpExponent x with hE
  have hpow : (0 : ℚ) < 2 ^ E := by positivity
  have hbound : m ≤ 2 ^ (E + 53) := hm.le_zpow_of_near hmpos (by linarith)
  have herror : |x - m| < 1 / 2 * 2 ^ E := by
    have hsplit : (2 : ℚ) ^ (E + 53) = 2 ^ E * 2 ^ 53 := by
      rw [zpow_add₀ (by norm_num)]
      norm_num
    rw [hsplit] at hbound
    linarith
  obtain ⟨n, hn⟩ : ∃ n : ℕ, m = n * 2 ^ E := by
    obtain ⟨j, hj⟩ := hm.eq_mul_ulp
    obtain ⟨j', hj'⟩ := mul_zpow_of_le j (hm.ulpExponent_le_of_near hx (by linarith))
    exact ⟨j', hj.trans hj'⟩
  have hquot : |x / 2 ^ E - n| < 1 / 2 := by
    have heq : x / 2 ^ E - n = (x - m) / 2 ^ E := by
      rw [hn]
      field_simp
    rw [heq, abs_div, abs_of_pos hpow, div_lt_iff₀ hpow]
    exact herror
  rw [roundedMagnitude, ← hE, roundEven_near (div_nonneg hx.le hpow.le) hquot, hn]

/-- A number close to a magnitude rounds to it. -/
theorem roundMagnitude_near {m : Magnitude} {x : ℚ} (h : |x - m.val| < m.val / 2 ^ 54) :
    roundMagnitude x = some m := by
  obtain ⟨hx, hround⟩ := roundedMagnitude_near m.2 h
  have hlt : x < overflowThreshold := by
    have hsmall : m.val / 2 ^ 54 < 2 ^ 970 := by
      rw [div_lt_iff₀ (by norm_num), ← pow_add]
      exact m.2.lt
    have hx' : x < m.val + m.val / 2 ^ 54 := by linarith [(abs_lt.mp h).2]
    exact hx'.trans (m.2.add_lt hsmall)
  unfold roundMagnitude
  rw [dif_pos ⟨hx, hlt⟩]
  exact congrArg some (Subtype.ext hround)

/-! ### Decimal digits -/

lemma shortestWith_eq_some {a : Magnitude} {n d : ℕ} {place : ℤ}
    (h : shortestWith a n = some (d, place)) : roundMagnitude (d * 10 ^ place) = some a := by
  unfold shortestWith at h
  dsimp only at h
  obtain ⟨d', hfind, heq⟩ := Option.map_eq_some_iff.mp h
  obtain ⟨rfl, rfl⟩ := Prod.mk.inj heq
  have hreads := List.find?_some hfind
  obtain ⟨m, hm, hval⟩ := Option.map_eq_some_iff.mp (of_decide_eq_true hreads)
  rw [hm]
  exact congrArg some (Subtype.ext hval)

/-- Seventeen digits are enough. -/
lemma shortestWith_seventeen {a : Magnitude} (ha : 0 < a.val) : (shortestWith a 17).isSome := by
  unfold shortestWith
  dsimp only
  rw [Option.isSome_map, List.find?_isSome]
  set place : ℤ := Int.log 10 a.val - (17 : ℕ) + 1 with hplace
  set q := a.val / 10 ^ place with hq
  have hpow : (0 : ℚ) < 10 ^ place := by positivity
  have hsmall : (10 : ℚ) ^ place * 10 ^ 16 ≤ a.val := by
    have hlog : (10 : ℚ) ^ Int.log 10 a.val ≤ a.val := Int.zpow_log_le_self (b := 10) (by norm_num) ha
    have hadd : Int.log 10 a.val = place + 16 := by
      rw [hplace]
      push_cast
      ring
    rw [hadd, zpow_add₀ (by norm_num)] at hlog
    exact_mod_cast hlog
  have hqpos : 0 ≤ q := div_nonneg ha.le hpow.le
  have hback : ∀ d : ℕ, |(d : ℚ) - q| ≤ 1 / 2 →
      decide ((roundMagnitude (d * 10 ^ place)).map (·.val) = some a.val) = true := by
    intro d hd
    have herror : |(d : ℚ) * 10 ^ place - a.val| < a.val / 2 ^ 54 := by
      have heq : (d : ℚ) * 10 ^ place - a.val = (d - q) * 10 ^ place := by
        rw [sub_mul, hq, div_mul_cancel₀ _ hpow.ne']
      rw [heq, abs_mul, abs_of_pos hpow]
      have hle : |(d : ℚ) - q| * 10 ^ place ≤ 1 / 2 * 10 ^ place :=
        mul_le_mul_of_nonneg_right hd hpow.le
      have hdiv : a.val / (2 * 10 ^ 16) < a.val / 2 ^ 54 :=
        div_lt_div_of_pos_left ha (by norm_num) (by norm_num)
      have hhalf : 1 / 2 * (10 : ℚ) ^ place ≤ a.val / (2 * 10 ^ 16) := by
        rw [le_div_iff₀ (by norm_num)]
        linarith
      linarith
    rw [decide_eq_true_eq, roundMagnitude_near herror]
    rfl
  have hfloor : (⌊q⌋₊ : ℚ) ≤ q := Nat.floor_le hqpos
  have hceil : q < ⌊q⌋₊ + 1 := Nat.lt_floor_add_one q
  by_cases hnear : q - ⌊q⌋₊ ≤ 1 / 2
  · refine ⟨⌊q⌋₊, ?_, hback _ (abs_le.mpr ⟨by linarith, by linarith⟩)⟩
    rw [if_pos hnear]
    exact List.mem_cons_self
  · rw [not_le] at hnear
    refine ⟨⌊q⌋₊ + 1, ?_, hback _ ?_⟩
    · rw [if_neg (not_le.mpr hnear)]
      exact List.mem_cons_self
    · push_cast
      exact abs_le.mpr ⟨by linarith, by linarith⟩

lemma shortest_reads_back {a : Magnitude} (ha : 0 < a.val) :
    roundMagnitude ((shortest a).1 * 10 ^ (shortest a).2) = some a := by
  have hsome : ((List.range 17).findSome? (fun n => shortestWith a (n + 1))).isSome := by
    rw [List.findSome?_isSome_iff]
    exact ⟨16, by simp, shortestWith_seventeen ha⟩
  obtain ⟨⟨d, place⟩, hfind⟩ := Option.isSome_iff_exists.mp hsome
  obtain ⟨n, -, hn⟩ := List.exists_of_findSome?_eq_some hfind
  unfold shortest
  rw [hfind]
  exact shortestWith_eq_some hn

end Py
