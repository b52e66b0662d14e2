import Mathlib.Data.Int.Log
import Mathlib.Algebra.Order.Floor.Semiring
import IntruderWatch.Library.PyInt

/-!
# Python floats

The values of binary64 as signed rational magnitudes, infinities and NaN. Conversions and
arithmetic round the exact result to nearest, ties to even. The file has `float(n)`, `float(s)`,
`int(x)`, subtraction, multiplication, comparison with an integer, and `repr(x)`.
-/

namespace Py

/-- The finite magnitudes of binary64. -/
def IsMagnitude (a : ℚ) : Prop :=
  ∃ (m : ℕ) (e : ℤ), m < 2 ^ 53 ∧ e ≤ 971 ∧ -1074 ≤ e ∧ a = m * 2 ^ e

abbrev Magnitude := {a : ℚ // IsMagnitude a}

inductive Binary64
  | finite (neg : Bool) (a : Magnitude)
  | inf (neg : Bool)
  | nan

lemma two_pow_top : (2 : ℚ) ^ 1024 = 2 ^ 53 * 2 ^ (971 : ℤ) := by
  rw [zpow_ofNat, ← pow_add]

lemma two_pow_half : (2 : ℚ) ^ 970 = 1 / 2 * 2 ^ (971 : ℤ) := by
  rw [zpow_ofNat, pow_succ' 2 970, one_div, inv_mul_cancel_left₀ (by norm_num)]

lemma IsMagnitude.nonneg {a : ℚ} (h : IsMagnitude a) : 0 ≤ a := by
  obtain ⟨m, e, -, -, -, rfl⟩ := h
  positivity

lemma IsMagnitude.lt {a : ℚ} (h : IsMagnitude a) : a < 2 ^ 1024 := by
  obtain ⟨m, e, hm, he, -, rfl⟩ := h
  have hm' : (m : ℚ) < 2 ^ 53 := by exact_mod_cast hm
  have he' : (2 : ℚ) ^ e ≤ 2 ^ (971 : ℤ) := zpow_le_zpow_right₀ (by norm_num) he
  have hpos : (0 : ℚ) < 2 ^ e := by positivity
  calc (m : ℚ) * 2 ^ e < 2 ^ 53 * 2 ^ e := mul_lt_mul_of_pos_right hm' hpos
    _ ≤ 2 ^ 53 * 2 ^ (971 : ℤ) := mul_le_mul_of_nonneg_left he' (by norm_num)
    _ = 2 ^ 1024 := two_pow_top.symm

/-- The largest finite value. -/
lemma IsMagnitude.le_max {a : ℚ} (h : IsMagnitude a) : a ≤ 2 ^ 1024 - 2 ^ (971 : ℤ) := by
  obtain ⟨m, e, hm, he, -, rfl⟩ := h
  have hm' : (m : ℚ) ≤ 2 ^ 53 - 1 := by
    have hle : m + 1 ≤ 2 ^ 53 := hm
    have hle' : ((m + 1 : ℕ) : ℚ) ≤ ((2 ^ 53 : ℕ) : ℚ) := Nat.cast_le.mpr hle
    push_cast at hle'
    linarith
  have he' : (2 : ℚ) ^ e ≤ 2 ^ (971 : ℤ) := zpow_le_zpow_right₀ (by norm_num) he
  have hpos : (0 : ℚ) < 2 ^ e := by positivity
  calc (m : ℚ) * 2 ^ e ≤ (2 ^ 53 - 1) * 2 ^ e := mul_le_mul_of_nonneg_right hm' hpos.le
    _ ≤ (2 ^ 53 - 1) * 2 ^ (971 : ℤ) := mul_le_mul_of_nonneg_left he' (by norm_num)
    _ = 2 ^ 1024 - 2 ^ (971 : ℤ) := by rw [two_pow_top, sub_mul, one_mul]

lemma isMagnitude_natCast {n : ℕ} (h : n < 2 ^ 53) : IsMagnitude n :=
  ⟨n, 0, h, by norm_num, by norm_num, by simp⟩

/-- A small natural number as a float. -/
def Binary64.ofNat (n : ℕ) (h : n < 2 ^ 53) : Binary64 :=
  finite false ⟨n, isMagnitude_natCast h⟩

/-! ### Rounding -/

/-- The nearest natural number, ties to even. -/
def roundEven (a : ℚ) : ℕ :=
  let n := ⌊a⌋₊
  if a - n < 1 / 2 then n
  else if 1 / 2 < a - n then n + 1
  else n + n % 2

/-- The exponent of the last place of the significand of `a`. -/
def ulpExponent (a : ℚ) : ℤ :=
  max (Int.log 2 a - 52) (-1074)

/-- From here on rounding overflows. -/
def overflowThreshold : ℚ := 2 ^ 1024 - 2 ^ 970

/-- A small addend does not take a finite value out of range. -/
lemma IsMagnitude.add_lt {a b : ℚ} (h : IsMagnitude a) (hb : b < 2 ^ 970) :
    a + b < overflowThreshold := by
  have hmax := h.le_max
  have hhalf := two_pow_half
  unfold overflowThreshold
  rw [hhalf] at hb ⊢
  generalize (2 : ℚ) ^ 1024 = top at hmax ⊢
  linarith

def roundedMagnitude (a : ℚ) : ℚ :=
  roundEven (a / 2 ^ ulpExponent a) * 2 ^ ulpExponent a

lemma roundEven_le {a : ℚ} {n : ℕ} (ha : 0 ≤ a) (h : a ≤ n) : roundEven a ≤ n := by
  have hfloor : (⌊a⌋₊ : ℚ) ≤ a := Nat.floor_le ha
  have hle : ⌊a⌋₊ ≤ n := by exact_mod_cast hfloor.trans h
  unfold roundEven
  dsimp only
  split_ifs with h1 h2
  · exact hle
  all_goals
    have hlt : (⌊a⌋₊ : ℚ) < n := by linarith
    have hlt' : ⌊a⌋₊ < n := by exact_mod_cast hlt
    omega

lemma roundEven_lt {a : ℚ} {n : ℕ} (ha : 0 ≤ a) (h : a < n - 1 / 2) : roundEven a < n := by
  have hfloor : (⌊a⌋₊ : ℚ) ≤ a := Nat.floor_le ha
  have hlt : (⌊a⌋₊ : ℚ) < n := by linarith
  have hlt' : ⌊a⌋₊ < n := by exact_mod_cast hlt
  unfold roundEven
  dsimp only
  split_ifs with h1 h2
  · exact hlt'
  all_goals
    have hnext : (⌊a⌋₊ : ℚ) + 1 < n := by linarith
    have hnext' : ⌊a⌋₊ + 1 < n := by exact_mod_cast hnext
    omega

/-- Below the threshold the rounded value is a magnitude. -/
lemma isMagnitude_rounded {a : ℚ} (ha : 0 ≤ a) (h : a < overflowThreshold) :
    IsMagnitude (roundedMagnitude a) := by
  have hpow : (0 : ℚ) < 2 ^ ulpExponent a := by positivity
  have hnonneg : 0 ≤ a / 2 ^ ulpExponent a := div_nonneg ha hpow.le
  have hupper : a < 2 ^ (ulpExponent a + 53) := by
    have hlog : a < 2 ^ (Int.log 2 a + 1) := Int.lt_zpow_succ_log_self (b := 2) (by norm_num) a
    apply hlog.trans_le
    exact zpow_le_zpow_right₀ (by norm_num) (by unfold ulpExponent; omega)
  have hexp : ulpExponent a ≤ 971 := by
    have hlt : a < 2 ^ (1024 : ℤ) := by
      apply h.trans
      rw [overflowThreshold, zpow_ofNat]
      have hpos : (0 : ℚ) < 2 ^ 970 := pow_pos (by norm_num) 970
      exact sub_lt_self _ hpos
    have hlog : Int.log 2 a ≤ 1023 := by
      rcases ha.eq_or_lt with rfl | hpos
      · simp
      · have hle : (2 : ℚ) ^ Int.log 2 a ≤ a := Int.zpow_log_le_self (b := 2) (by norm_num) hpos
        have hlt' := (zpow_lt_zpow_iff_right₀ (by norm_num : (1 : ℚ) < 2)).mp (hle.trans_lt hlt)
        omega
    unfold ulpExponent
    omega
  have hlow : -1074 ≤ ulpExponent a := le_max_right _ _
  have hquot : a / 2 ^ ulpExponent a < 2 ^ 53 := by
    rw [div_lt_iff₀ hpow]
    have hsplit : (2 : ℚ) ^ 53 * 2 ^ ulpExponent a = 2 ^ (ulpExponent a + 53) := by
      rw [zpow_add₀ (by norm_num), mul_comm]
      norm_num
    rwa [hsplit]
  have hle : roundEven (a / 2 ^ ulpExponent a) ≤ 2 ^ 53 :=
    roundEven_le hnonneg (by exact_mod_cast hquot.le)
  rcases hle.eq_or_lt with heq | hlt
  · -- the significand overflows into the next binade, which the threshold leaves room for
    have hne : ulpExponent a ≠ 971 := by
      intro he
      have hsmall : a / 2 ^ ulpExponent a < ((2 ^ 53 : ℕ) : ℚ) - 1 / 2 := by
        rw [div_lt_iff₀ hpow, he]
        apply h.trans_eq
        rw [overflowThreshold, two_pow_top, two_pow_half, ← sub_mul]
        norm_num
      have hlt := roundEven_lt hnonneg hsmall
      omega
    refine ⟨2 ^ 52, ulpExponent a + 1, by norm_num, by omega, by omega, ?_⟩
    unfold roundedMagnitude
    rw [heq, zpow_add₀ (by norm_num)]
    push_cast
    ring
  · exact ⟨_, _, hlt, hexp, hlow, rfl⟩

/-- The rounded value of a nonnegative rational; `none` is overflow. -/
def roundMagnitude (a : ℚ) : Option Magnitude :=
  if h : 0 ≤ a ∧ a < overflowThreshold then some ⟨_, isMagnitude_rounded h.1 h.2⟩ else none

/-- Rounding stays below a power of two. -/
lemma roundedMagnitude_le_pow {a : ℚ} {k : ℕ} (ha : 0 ≤ a) (h : a ≤ 2 ^ k) :
    roundedMagnitude a ≤ 2 ^ k := by
  have hpow : (0 : ℚ) < 2 ^ ulpExponent a := by positivity
  have hexp : ulpExponent a ≤ k := by
    have hlog : Int.log 2 a ≤ k := by
      rcases ha.eq_or_lt with rfl | hpos
      · simp
      · have hle : (2 : ℚ) ^ Int.log 2 a ≤ a := Int.zpow_log_le_self (b := 2) (by norm_num) hpos
        have hle' : (2 : ℚ) ^ Int.log 2 a ≤ 2 ^ (k : ℤ) := by
          rw [zpow_natCast]
          exact hle.trans h
        exact (zpow_le_zpow_iff_right₀ (by norm_num : (1 : ℚ) < 2)).mp hle'
    unfold ulpExponent
    omega
  obtain ⟨d, hd⟩ : ∃ d : ℕ, (k : ℤ) - ulpExponent a = d := ⟨_, (Int.toNat_of_nonneg (by omega)).symm⟩
  have hsplit : (2 : ℚ) ^ k = ((2 ^ d : ℕ) : ℚ) * 2 ^ ulpExponent a := by
    rw [Nat.cast_pow, Nat.cast_ofNat, ← zpow_natCast 2 d, ← zpow_natCast 2 k, ← hd,
      ← zpow_add₀ (by norm_num)]
    congr 1
    omega
  have hle : roundEven (a / 2 ^ ulpExponent a) ≤ 2 ^ d := by
    apply roundEven_le (div_nonneg ha hpow.le)
    rw [div_le_iff₀ hpow, ← hsplit]
    exact h
  unfold roundedMagnitude
  rw [hsplit]
  exact mul_le_mul_of_nonneg_right (by exact_mod_cast hle) hpow.le

/-! ### Exact results -/

/-- Between a magnitude and a number above it there is a multiple of the last place of the number,
which is the magnitude itself if the two are equal. -/
lemma IsMagnitude.grid {m a : ℚ} (hm : IsMagnitude m) (hle : m ≤ a) :
    ∃ j : ℕ, m ≤ j * 2 ^ ulpExponent a ∧ j * 2 ^ ulpExponent a ≤ a := by
  rcases hm.nonneg.eq_or_lt with rfl | hpos
  · exact ⟨0, by simp, by simpa using hle⟩
  obtain ⟨n, e, hn, -, he, rfl⟩ := hm
  rcases le_or_gt (ulpExponent a) e with hulp | hulp
  · obtain ⟨d, hd⟩ : ∃ d : ℕ, e - ulpExponent a = d := ⟨_, (Int.toNat_of_nonneg (by omega)).symm⟩
    have hsplit : (2 : ℚ) ^ e = 2 ^ d * 2 ^ ulpExponent a := by
      rw [← zpow_natCast 2 d, ← hd, ← zpow_add₀ (by norm_num), sub_add_cancel]
    have heq : (n : ℚ) * 2 ^ e = ((n * 2 ^ d : ℕ) : ℚ) * 2 ^ ulpExponent a := by
      rw [hsplit]
      push_cast
      ring
    exact ⟨n * 2 ^ d, heq.le, heq ▸ hle⟩
  · -- the exponent is not the least one, so the leading place of `a` is on the grid
    have hlog : ulpExponent a + 52 = Int.log 2 a := by
      unfold ulpExponent at hulp ⊢
      omega
    have hlead : ((2 ^ 52 : ℕ) : ℚ) * 2 ^ ulpExponent a = 2 ^ Int.log 2 a := by
      rw [← hlog, zpow_add₀ (by norm_num), mul_comm]
      norm_num
    refine ⟨2 ^ 52, ?_, ?_⟩
    · have hn' : (n : ℚ) ≤ 2 ^ 53 := by exact_mod_cast hn.le
      have htop : (2 : ℚ) ^ 53 * 2 ^ e ≤ 2 ^ Int.log 2 a := by
        rw [← zpow_ofNat, ← zpow_add₀ (by norm_num)]
        exact zpow_le_zpow_right₀ (by norm_num) (by omega)
      rw [hlead]
      exact (mul_le_mul_of_nonneg_right hn' (by positivity)).trans htop
    · rw [hlead]
      exact Int.zpow_log_le_self (b := 2) (by norm_num) (hpos.trans_le hle)

lemma le_roundEven {a : ℚ} {n : ℕ} (h : (n : ℚ) ≤ a) : n ≤ roundEven a := by
  have hfloor : n ≤ ⌊a⌋₊ := Nat.le_floor h
  unfold roundEven
  dsimp only
  split_ifs <;> omega

/-- Rounding does not cross a magnitude. -/
lemma le_roundedMagnitude {m a : ℚ} (hm : IsMagnitude m) (hle : m ≤ a) : m ≤ roundedMagnitude a := by
  have hpow : (0 : ℚ) < 2 ^ ulpExponent a := by positivity
  obtain ⟨j, hmj, hja⟩ := hm.grid hle
  have hj : j ≤ roundEven (a / 2 ^ ulpExponent a) := by
    apply le_roundEven
    rwa [le_div_iff₀ hpow]
  apply hmj.trans
  exact mul_le_mul_of_nonneg_right (by exact_mod_cast hj) hpow.le

/-- A magnitude is its own rounding. -/
lemma roundedMagnitude_self {m : ℚ} (hm : IsMagnitude m) : roundedMagnitude m = m := by
  have hpow : (0 : ℚ) < 2 ^ ulpExponent m := by positivity
  obtain ⟨j, hmj, hjm⟩ := hm.grid le_rfl
  have hquot : m / 2 ^ ulpExponent m = j := by
    rw [div_eq_iff hpow.ne']
    exact le_antisymm hmj hjm
  have hround : roundEven (m / 2 ^ ulpExponent m) ≤ j := roundEven_le (by rw [hquot]; positivity) hquot.le
  apply le_antisymm
  · apply le_trans _ hjm
    exact mul_le_mul_of_nonneg_right (by exact_mod_cast hround) hpow.le
  · exact le_roundedMagnitude hm le_rfl

/-- The difference of two magnitudes within a factor of two is a magnitude. -/
lemma IsMagnitude.sub {a b : ℚ} (ha : IsMagnitude a) (hb : IsMagnitude b) (hle : b ≤ a)
    (hdouble : a ≤ 2 * b) : IsMagnitude (a - b) := by
  obtain ⟨m, e, hm, he, he', rfl⟩ := ha
  obtain ⟨n, f, hn, hf, hf', rfl⟩ := hb
  -- both numbers as multiples of the smaller last place
  obtain ⟨g, m', n', hg, hg', hmg, hng, hsmall⟩ : ∃ (g : ℤ) (m' n' : ℕ), g ≤ 971 ∧ -1074 ≤ g ∧
      (m : ℚ) * 2 ^ e = m' * 2 ^ g ∧ (n : ℚ) * 2 ^ f = n' * 2 ^ g ∧ (m' < 2 ^ 53 ∨ n' < 2 ^ 53) := by
    have hscale : ∀ (k : ℕ) (i l : ℤ), l ≤ i →
        (k : ℚ) * 2 ^ i = ((k * 2 ^ (i - l).toNat : ℕ) : ℚ) * 2 ^ l := by
      intro k i l hli
      have hsplit : (2 : ℚ) ^ i = 2 ^ (i - l).toNat * 2 ^ l := by
        rw [← zpow_natCast 2 (i - l).toNat, Int.toNat_of_nonneg (by omega), ← zpow_add₀ (by norm_num),
          sub_add_cancel]
      rw [hsplit]
      push_cast
      ring
    rcases le_total e f with hef | hfe
    · exact ⟨e, m, _, he, he', rfl, hscale n f e hef, Or.inl hm⟩
    · exact ⟨f, _, n, hf, hf', hscale m e f hfe, rfl, Or.inr hn⟩
  rw [hmg, hng] at hle hdouble ⊢
  have hpow : (0 : ℚ) < 2 ^ g := by positivity
  have hle' : n' ≤ m' := by exact_mod_cast le_of_mul_le_mul_right hle hpow
  have hdouble' : m' ≤ 2 * n' := by
    rw [← mul_assoc] at hdouble
    exact_mod_cast le_of_mul_le_mul_right hdouble hpow
  refine ⟨m' - n', g, by omega, hg, hg', ?_⟩
  rw [Nat.cast_sub hle', sub_mul]

lemma roundMagnitude_isSome {a : ℚ} (ha : 0 ≤ a) (h : a < overflowThreshold) :
    ∃ m, roundMagnitude a = some m :=
  ⟨_, dif_pos ⟨ha, h⟩⟩

lemma roundMagnitude_eq_none {a : ℚ} (h : overflowThreshold ≤ a) : roundMagnitude a = none :=
  dif_neg (fun hand => absurd hand.2 (not_lt.mpr h))

namespace Binary64

/-- Rounding to a float; a magnitude out of range becomes infinite. -/
def ofSigned (neg : Bool) (a : ℚ) : Binary64 :=
  match roundMagnitude a with
  | some m => finite neg m
  | none => inf neg

/-- The number that a finite value stands for. -/
def signed (neg : Bool) (a : Magnitude) : ℚ :=
  if neg then -a.val else a.val

lemma abs_signed (neg : Bool) (a : Magnitude) : |signed neg a| = a.val := by
  have hnonneg := a.2.nonneg
  cases neg
  · exact abs_of_nonneg hnonneg
  · simp only [signed, if_true]
    rw [abs_neg, abs_of_nonneg hnonneg]

lemma signed_zero (neg : Bool) {a : Magnitude} (h : a.val = 0) : signed neg a = 0 := by
  cases neg
  · exact h
  · simp [signed, h]

/-! ### Conversions -/

/-- `float(n)`. -/
def ofInteger (n : ℤ) : Except Exn Binary64 :=
  match roundMagnitude (n.natAbs : ℚ) with
  | some m => .ok (finite (n < 0) m)
  | none => .error .overflowError

lemma ofInteger_isOk {n : ℤ} (h : (n.natAbs : ℚ) < overflowThreshold) : ∃ x, ofInteger n = .ok x := by
  obtain ⟨m, hm⟩ := roundMagnitude_isSome (by positivity) h
  exact ⟨_, by rw [ofInteger, hm]⟩

lemma ofInteger_overflow {n : ℤ} (h : overflowThreshold ≤ (n.natAbs : ℚ)) :
    ofInteger n = .error .overflowError := by
  rw [ofInteger, roundMagnitude_eq_none h]

lemma pow_lt_strLimit : 2 ^ 1024 < strLimit := by
  unfold strLimit maxStrDigits
  have hbase : ∀ n : ℕ, 2 ^ n ≤ 10 ^ n := Nat.pow_le_pow_left (by omega)
  have hexp : ∀ m n : ℕ, m < n → 10 ^ m < 10 ^ n := fun m n h => Nat.pow_lt_pow_right (by omega) h
  exact (hbase 1024).trans_lt (hexp 1024 4300 (by omega))

lemma floor_lt_strLimit (a : Magnitude) : ⌊a.val⌋₊ < strLimit := by
  apply lt_trans _ pow_lt_strLimit
  rw [Nat.floor_lt a.2.nonneg]
  rw [Nat.cast_pow]
  exact a.2.lt

/-- `int(x)` drops the fraction. -/
def toInteger : Binary64 → Except Exn Integer
  | finite neg a =>
    let m : {n : ℕ // n < strLimit} := ⟨⌊a.val⌋₊, floor_lt_strLimit a⟩
    .ok (if neg then negate m else ofMagnitude m)
  | inf _ => .error .overflowError
  | nan => .error .valueError

/-! ### Arithmetic and comparison -/

/-- `x - y`. -/
def sub : Binary64 → Binary64 → Binary64
  | nan, _ => nan
  | _, nan => nan
  | inf s, inf t => if s = t then nan else inf s
  | inf s, finite _ _ => inf s
  | finite _ _, inf t => inf (!t)
  | finite s a, finite t b =>
    let q := signed s a - signed t b
    ofSigned (if q = 0 then s && !t else q < 0) |q|

/-- Within range a difference of finite values is finite. -/
lemma sub_finite {s t : Bool} {a b : Magnitude} (h : |signed s a - signed t b| < overflowThreshold) :
    ∃ neg m, sub (finite s a) (finite t b) = finite neg m ∧
      m.val = roundedMagnitude |signed s a - signed t b| := by
  have hround : roundMagnitude |signed s a - signed t b| =
      some ⟨_, isMagnitude_rounded (abs_nonneg _) h⟩ := dif_pos ⟨abs_nonneg _, h⟩
  have hsub : sub (finite s a) (finite t b) =
      finite (if signed s a - signed t b = 0 then s && !t else decide (signed s a - signed t b < 0))
        ⟨_, isMagnitude_rounded (abs_nonneg _) h⟩ := by
    simp only [sub, ofSigned, hround]
  exact ⟨_, _, hsub, rfl⟩

/-- A difference that is not negative, by its exact value. -/
lemma sub_of_le {s t : Bool} {a b : Magnitude} (hle : signed t b ≤ signed s a)
    (h : signed s a - signed t b < overflowThreshold) : ∃ neg m, sub (finite s a) (finite t b) =
      finite neg m ∧ signed neg m = roundedMagnitude (signed s a - signed t b) := by
  have hnonneg : 0 ≤ signed s a - signed t b := sub_nonneg.mpr hle
  have habs : |signed s a - signed t b| = signed s a - signed t b := abs_of_nonneg hnonneg
  have hround : roundMagnitude |signed s a - signed t b| =
      some ⟨_, isMagnitude_rounded hnonneg h⟩ := by
    rw [habs]
    exact dif_pos ⟨hnonneg, h⟩
  simp only [sub, ofSigned, hround]
  refine ⟨_, _, rfl, ?_⟩
  rcases hnonneg.eq_or_lt with hzero | hpos
  · have hval : roundedMagnitude (signed s a - signed t b) = 0 := by
      rw [← hzero]
      exact roundedMagnitude_self (isMagnitude_natCast (n := 0) (by norm_num))
    exact (signed_zero _ hval).trans hval.symm
  · rw [if_neg hpos.ne', decide_eq_false (not_lt.mpr hpos.le)]
    rfl

/-- Subtracting zero is exact. -/
lemma sub_of_zero {s t : Bool} {a b : Magnitude} (ha : a.val < overflowThreshold) (hb : b.val = 0) :
    ∃ neg m, sub (finite s a) (finite t b) = finite neg m ∧ signed neg m = signed s a := by
  have hdiff : signed s a - signed t b = signed s a := by
    rw [signed_zero t hb, sub_zero]
  have hround : roundMagnitude |signed s a| = some a := by
    rw [abs_signed]
    unfold roundMagnitude
    rw [dif_pos ⟨a.2.nonneg, ha⟩]
    exact congrArg some (Subtype.ext (roundedMagnitude_self a.2))
  simp only [sub, ofSigned, hdiff, hround]
  refine ⟨_, _, rfl, ?_⟩
  rcases a.2.nonneg.eq_or_lt with hzero | hpos
  · rw [signed_zero _ hzero.symm, signed_zero _ hzero.symm]
  · have hne : signed s a ≠ 0 := by
      rw [← abs_pos, abs_signed]
      exact hpos
    rw [if_neg hne]
    cases s with
    | true => simp [signed, hpos]
    | false => simp [signed, hpos.le]

/-- `x * y`. -/
def mul : Binary64 → Binary64 → Binary64
  | nan, _ => nan
  | _, nan => nan
  | inf s, inf t => inf (s != t)
  | inf s, finite t b => if b.val = 0 then nan else inf (s != t)
  | finite s a, inf t => if a.val = 0 then nan else inf (s != t)
  | finite s a, finite t b => ofSigned (s != t) (a.val * b.val)

/-- `x > n`, an exact comparison. -/
def gtInt (x : Binary64) (n : ℤ) : Bool :=
  match x with
  | finite s a => n < signed s a
  | inf s => !s
  | nan => false

end Binary64

/-! ### `float(s)` -/

/-- `_Py_string_to_number_with_underscores`: an underscore stands between two digits. -/
def dropUnderscores : List ℕ → ℕ → Option (List ℕ)
  | [], prev => if prev = 95 then none else some []
  | c :: s, prev =>
    if c = 95 then if isDigit prev then dropUnderscores s c else none
    else if prev = 95 && !isDigit c then none
    else (dropUnderscores s c).map (c :: ·)

def ofDigitChars (s : List ℕ) : ℕ :=
  Nat.ofDigits 10 (s.map (· - 48)).reverse

/-- An exponent field up to the end of the text. -/
def parseExponent (s : List ℕ) : Option ℤ :=
  match s with
  | [] => some 0
  | c :: s =>
    if c = 101 ∨ c = 69 then
      let (neg, ds) := splitSign s
      if ds ≠ [] ∧ ds.all isDigit then
        some (if neg then -(ofDigitChars ds : ℤ) else (ofDigitChars ds : ℤ))
      else none
    else none

/-- Digits with an optional point and exponent: the number they stand for. -/
def parseDecimal (s : List ℕ) : Option ℚ :=
  let (ip, s) := s.span isDigit
  let (fp, s) := match s with
    | 46 :: s' => s'.span isDigit
    | _ => ([], s)
  if ip ++ fp = [] then none
  else (parseExponent s).map (fun e : ℤ =>
    (ofDigitChars (ip ++ fp) : ℚ) * 10 ^ (e - (fp.length : ℤ)))

/-- ASCII lower case. -/
def lowerAscii (c : ℕ) : ℕ :=
  if 65 ≤ c ∧ c ≤ 90 then c + 32 else c

def asciiCodes (s : String) : List ℕ := s.toList.map Char.toNat

/-- `float(s)`. -/
def parseFloat (s : Str) : Except Exn Binary64 :=
  let s := (s.map toAsciiDigit).dropWhile isSpace
  let s := (s.reverse.dropWhile isSpace).reverse
  match dropUnderscores s 0 with
  | none => .error .valueError
  | some s =>
    let (neg, s) := splitSign s
    match parseDecimal s with
    | some q => .ok (Binary64.ofSigned neg q)
    | none =>
      let word := s.map lowerAscii
      if word = asciiCodes "inf" ∨ word = asciiCodes "infinity" then .ok (.inf neg)
      else if word = asciiCodes "nan" then .ok .nan
      else .error .valueError

/-! ### `repr(x)` -/

/-- The candidate with `n` digits that reads back as `a` and is nearest to it: its digits as a
number, and the power of ten of the last one. -/
def shortestWith (a : Magnitude) (n : ℕ) : Option (ℕ × ℤ) :=
  let place : ℤ := Int.log 10 a.val - n + 1
  let lo := ⌊a.val / 10 ^ place⌋₊
  let readsBack : ℕ → Bool := fun d => (roundMagnitude (d * 10 ^ place)).map (·.val) = some a.val
  let closer := if a.val / 10 ^ place - lo ≤ 1 / 2 then [lo, lo + 1] else [lo + 1, lo]
  (closer.find? readsBack).map (fun d => (d, place))

/-- The shortest digits that read back as `a`; seventeen are always enough. -/
def shortest (a : Magnitude) : ℕ × ℤ :=
  ((List.range 17).findSome? (fun n => shortestWith a (n + 1))).getD (0, 0)

def zeros (n : ℕ) : List ℕ := List.replicate n 0

/-- The format `'r'` of `PyOS_double_to_string`: the value is `0.ds` times `10 ^ point`. -/
def placeDigits (ds : List ℕ) (point : ℤ) : Str :=
  let text : List ℕ → Str := List.map digitChar
  if point ≤ -4 ∨ 16 < point then
    let e := point - 1
    let expDigits := decimalDigits e.natAbs
    let expDigits := zeros (2 - expDigits.length) ++ expDigits
    text (ds.take 1) ++ (if ds.length ≤ 1 then [] else ofChar '.' :: text (ds.drop 1)) ++
      ofChar 'e' :: (if e < 0 then minus else ofChar '+') :: text expDigits
  else if point ≤ 0 then text [0] ++ ofChar '.' :: text (zeros (-point).toNat ++ ds)
  else if ds.length ≤ point.toNat then
    text (ds ++ zeros (point.toNat - ds.length)) ++ ofChar '.' :: text [0]
  else text (ds.take point.toNat) ++ ofChar '.' :: text (ds.drop point.toNat)

/-- `repr(x)`. -/
def floatRepr : Binary64 → Str
  | .nan => lit "nan"
  | .inf neg => if neg then lit "-inf" else lit "inf"
  | .finite neg a =>
    let body :=
      if a.val = 0 then lit "0.0"
      else
        let (d, place) := shortest a
        let ds := decimalDigits d
        let stripped := (ds.reverse.dropWhile (· = 0)).reverse
        placeDigits stripped (ds.length + place)
    if neg then minus :: body else body

end Py
