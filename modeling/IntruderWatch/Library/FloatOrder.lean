import IntruderWatch.Library.PyOps

/-!
# Rounding and subtraction keep the order

Rounding to nearest is monotone across the binades, and so is the difference of two floats in its
second operand, as far as a comparison can tell.
-/

namespace Py

lemma ulpExponent_mono {a b : ℚ} (ha : 0 < a) (hab : a ≤ b) : ulpExponent a ≤ ulpExponent b := by
  have hlog := Int.log_mono_right (b := 2) ha hab
  unfold ulpExponent
  omega

lemma lt_zpow_ulpExponent {x : ℚ} : x < 2 ^ (ulpExponent x + 53) := by
  have hlog : x < 2 ^ (Int.log 2 x + 1) := Int.lt_zpow_succ_log_self (b := 2) (by norm_num) x
  apply hlog.trans_le
  exact zpow_le_zpow_right₀ (by norm_num) (by unfold ulpExponent; omega)

lemma roundEven_mono {a b : ℚ} (ha : 0 ≤ a) (hab : a ≤ b) : roundEven a ≤ roundEven b := by
  have hfloor : ⌊a⌋₊ ≤ ⌊b⌋₊ := Nat.floor_le_floor hab
  rcases hfloor.eq_or_lt with heq | hlt
  · -- the fractions are in the order of the numbers
    unfold roundEven
    dsimp only
    rw [heq]
    split_ifs with h₁ h₂ h₃ h₄ h₅ h₆
    all_goals first | omega | linarith
  · have hnext : a ≤ ((⌊a⌋₊ + 1 : ℕ) : ℚ) := by
      push_cast
      exact (Nat.lt_floor_add_one a).le
    calc roundEven a ≤ ⌊a⌋₊ + 1 := roundEven_le ha hnext
      _ ≤ ⌊b⌋₊ := hlt
      _ ≤ roundEven b := le_roundEven (Nat.floor_le (ha.trans hab))

theorem roundedMagnitude_mono {a b : ℚ} (ha : 0 ≤ a) (hab : a ≤ b) :
    roundedMagnitude a ≤ roundedMagnitude b := by
  rcases ha.eq_or_lt with rfl | hpos
  · have hzero : roundedMagnitude 0 = 0 := by simp [roundedMagnitude, roundEven]
    rw [hzero]
    unfold roundedMagnitude
    positivity
  have hulp := ulpExponent_mono hpos hab
  have hpow : ∀ x : ℚ, (0 : ℚ) < 2 ^ ulpExponent x := fun x => by positivity
  rcases hulp.eq_or_lt with heq | hlt
  · unfold roundedMagnitude
    rw [heq]
    have hquot : a / 2 ^ ulpExponent b ≤ b / 2 ^ ulpExponent b :=
      div_le_div_of_nonneg_right hab (hpow b).le
    have hround := roundEven_mono (div_nonneg ha (hpow b).le) hquot
    exact mul_le_mul_of_nonneg_right (by exact_mod_cast hround) (hpow b).le
  · -- a power of two lies between the two values
    have hlog : ulpExponent b + 52 = Int.log 2 b := by
      have hlow : -1074 ≤ ulpExponent a := le_max_right _ _
      unfold ulpExponent at hlt hlow ⊢
      omega
    have hupper : roundEven (a / 2 ^ ulpExponent a) ≤ 2 ^ 53 := by
      apply roundEven_le (div_nonneg ha (hpow a).le)
      rw [div_le_iff₀ (hpow a)]
      have hbound := @lt_zpow_ulpExponent a
      rw [zpow_add₀ (by norm_num), mul_comm] at hbound
      exact_mod_cast hbound.le
    have hlower : 2 ^ 52 ≤ roundEven (b / 2 ^ ulpExponent b) := by
      apply le_roundEven
      rw [le_div_iff₀ (hpow b)]
      have hlead : (2 : ℚ) ^ Int.log 2 b ≤ b :=
        Int.zpow_log_le_self (b := 2) (by norm_num) (hpos.trans_le hab)
      rw [← hlog, zpow_add₀ (by norm_num), mul_comm] at hlead
      exact_mod_cast hlead
    calc roundedMagnitude a ≤ ((2 ^ 53 : ℕ) : ℚ) * 2 ^ ulpExponent a :=
          mul_le_mul_of_nonneg_right (by exact_mod_cast hupper) (hpow a).le
      _ = ((2 ^ 52 : ℕ) : ℚ) * 2 ^ (ulpExponent a + 1) := by
          rw [zpow_add₀ (by norm_num)]
          push_cast
          ring
      _ ≤ ((2 ^ 52 : ℕ) : ℚ) * 2 ^ ulpExponent b := by
          have hstep : (2 : ℚ) ^ (ulpExponent a + 1) ≤ 2 ^ ulpExponent b :=
            zpow_le_zpow_right₀ (by norm_num) (by omega)
          exact mul_le_mul_of_nonneg_left hstep (by positivity)
      _ ≤ roundedMagnitude b := mul_le_mul_of_nonneg_right (by exact_mod_cast hlower) (hpow b).le

namespace Binary64

/-- The distance from an earlier number is not found to be smaller. -/
lemma gt_sub_mono {x : Binary64} {s t u : Bool} {a b c : Magnitude} (hcb : signed u c ≤ signed t b)
    (hba : signed t b ≤ signed s a) (hlt : signed s a - signed u c < overflowThreshold)
    (h : x.gt ((finite s a).sub (finite t b)) = false) :
    x.gt ((finite s a).sub (finite u c)) = false := by
  obtain ⟨neg, m, hsub, hval⟩ := sub_of_le hba (by linarith)
  obtain ⟨neg', m', hsub', hval'⟩ := sub_of_le (hcb.trans hba) hlt
  have hmono : signed neg m ≤ signed neg' m' := by
    rw [hval, hval']
    exact roundedMagnitude_mono (by linarith) (by linarith)
  rw [hsub] at h
  rw [hsub']
  cases x with
  | finite r d =>
    have hle : signed r d ≤ signed neg m := not_lt.mp (of_decide_eq_false h)
    exact decide_eq_false (not_lt.mpr (hle.trans hmono))
  | inf r => exact h
  | nan => rfl

/-- The difference to a number above is not positive. -/
lemma sub_of_ge {s t : Bool} {a b : Magnitude} (hle : signed s a ≤ signed t b)
    (h : signed t b - signed s a < overflowThreshold) :
    ∃ neg m, sub (finite s a) (finite t b) = finite neg m ∧ signed neg m ≤ 0 := by
  have habs : |signed s a - signed t b| = signed t b - signed s a := by
    rw [abs_sub_comm]
    exact abs_of_nonneg (sub_nonneg.mpr hle)
  rcases hle.eq_or_lt with heq | hlt
  · obtain ⟨neg, m, hsub, hval⟩ := sub_of_le heq.ge (by linarith)
    refine ⟨neg, m, hsub, ?_⟩
    rw [hval, heq, sub_self]
    simp [roundedMagnitude, roundEven]
  · have hround : roundMagnitude |signed s a - signed t b| =
        some ⟨_, isMagnitude_rounded (abs_nonneg _) (habs ▸ h)⟩ :=
      dif_pos ⟨abs_nonneg _, habs ▸ h⟩
    have hne : signed s a - signed t b ≠ 0 := (sub_neg.mpr hlt).ne
    have hneg : signed s a - signed t b < 0 := sub_neg.mpr hlt
    simp only [sub, ofSigned, hround, hne, if_false, decide_eq_true hneg]
    exact ⟨_, _, rfl, neg_nonpos.mpr (IsMagnitude.nonneg (Subtype.prop _))⟩

end Binary64

end Py
