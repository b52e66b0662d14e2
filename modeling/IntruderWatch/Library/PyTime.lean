import IntruderWatch.Library.PyInt

/-!
# Python times of day

`datetime.time` with its order, and `datetime.strptime(data, "%H:%M:%S").time()`.
-/

namespace Py

/-- A `datetime.time`. -/
structure ClockTime where
  hour : ℕ
  minute : ℕ
  second : ℕ
  microsecond : ℕ
  bounds : hour ≤ 23 ∧ minute ≤ 59 ∧ second ≤ 59 ∧ microsecond ≤ 999999
deriving DecidableEq

namespace ClockTime

/-- `t <= u`: the first field that differs decides. -/
def le (t u : ClockTime) : Bool :=
  t.hour < u.hour || t.hour = u.hour && (t.minute < u.minute || t.minute = u.minute &&
    (t.second < u.second || t.second = u.second && t.microsecond ≤ u.microsecond))

def secondOfDay (t : ClockTime) : ℕ := t.hour * 3600 + t.minute * 60 + t.second

lemma secondOfDay_lt (t : ClockTime) : t.secondOfDay < 86400 := by
  have hbounds := t.bounds
  unfold secondOfDay
  omega

/-- Seconds decide, and microseconds within a second. -/
lemma le_iff {t u : ClockTime} : t.le u = true ↔ t.secondOfDay < u.secondOfDay ∨
    t.secondOfDay = u.secondOfDay ∧ t.microsecond ≤ u.microsecond := by
  have ht := t.bounds
  have hu := u.bounds
  simp only [le, secondOfDay, Bool.or_eq_true, Bool.and_eq_true, decide_eq_true_eq]
  omega

end ClockTime

/-! ### Parsing -/

/-- The value of a character that the pattern `\d` matches. -/
def digitValue (c : CodePoint) : Option ℕ :=
  if isDigit (toAsciiDigit c) then some (toAsciiDigit c - 48) else none

/-- A group of the pattern for a two-digit field: a first digit below `tens` with any second one, the
first digit `tens` with a second one below `units`, or a single digit. -/
def timeField (tens units : ℕ) : Str → Option ℕ
  | [c] => digitValue c
  | [c, d] =>
    if 48 ≤ c.val ∧ c.val < 48 + tens then (digitValue d).map (fun v => 10 * (c.val - 48) + v)
    else if c.val = 48 + tens ∧ 48 ≤ d.val ∧ d.val < 48 + units then
      some (10 * tens + (d.val - 48))
    else none
  | _ => none

/-- `datetime.strptime(data, "%H:%M:%S").time()`. The groups match no colon; the pattern admits the
seconds 60 and 61, which the constructor refuses. -/
def strptime (data : Str) : Except Exn ClockTime :=
  match split (ofChar ':') data with
  | [hours, minutes, seconds] =>
    match timeField 2 4 hours, timeField 6 0 minutes, timeField 6 2 seconds with
    | some h, some m, some s =>
      if hbounds : h ≤ 23 ∧ m ≤ 59 ∧ s ≤ 59 then
        .ok ⟨h, m, s, 0, hbounds.1, hbounds.2.1, hbounds.2.2, Nat.zero_le _⟩
      else .error .valueError
    | _, _, _ => .error .valueError
  | _ => .error .valueError

lemma digitValue_digitChar {d : ℕ} (hd : d < 10) : digitValue (digitChar d) = some d := by
  have hdigit : isDigit (48 + d) = true := by
    simp only [isDigit, Bool.and_eq_true, decide_eq_true_eq]
    omega
  rw [digitValue, toAsciiDigit_digitChar hd, if_pos hdigit]
  congr 1
  omega

/-- Two ASCII digits are read as their number, if it is below the bound of the field. -/
lemma timeField_digits {tens units a b : ℕ} (htens : tens < 10) (hunits : units ≤ 10) (ha : a < 10)
    (hb : b < 10) (hlt : 10 * a + b < 10 * tens + units) :
    timeField tens units [digitChar a, digitChar b] = some (10 * a + b) := by
  have hca := digitChar_val ha
  have hcb := digitChar_val hb
  rw [timeField, digitValue_digitChar hb, hca, hcb]
  split_ifs with hfirst hlast
  · simp
  · obtain rfl : a = tens := by omega
    congr 1
    omega
  · omega

end Py
