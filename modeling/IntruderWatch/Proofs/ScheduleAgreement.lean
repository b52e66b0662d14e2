import IntruderWatch.Proofs.ScheduleIntervals
import IntruderWatch.CaptureFrames

/-!
# One schedule, two capturers

The Go capturer compares whole seconds and the Python capturer microseconds. Under the same
environment they differ in the last second of the schedule only.
-/

namespace IntruderWatch.Proofs
open Go
open Py (ClockTime CodePoint codePoint digitChar)

/-! ### One environment -/

/-- `os.Getenv`. -/
def goEnviron (environ : String → Option Str) : String → Str := fun key => (environ key).getD []

/-- A string of ASCII bytes as Python text. -/
def pyText (raw : Str) : Py.Str := raw.map (fun b => codePoint b.toNat)

/-- `os.environ`, for values in ASCII. -/
def pyEnviron (environ : String → Option Str) : String → Option Py.Str :=
  fun key => (environ key).map pyText

/-- `HH:MM:SS` for a time of day. -/
def ClockText (raw : Str) (t : ClockTime) : Prop :=
  t.microsecond = 0 ∧ ∃ a b c, raw = [timeSeparator].intercalate [a, b, c] ∧
    TwoDigits a t.hour ∧ TwoDigits b t.minute ∧ TwoDigits c t.second

/-! ### Reading a time -/

lemma TwoDigits.numeral {text : Str} {n : ℤ} (h : TwoDigits text n) : Numeral text n := by
  obtain ⟨-, hdigits, rfl⟩ := h
  exact .plain hdigits

lemma TwoDigits.chars {text : Str} {n : ℕ} (h : TwoDigits text n) : ∃ a b, a < 10 ∧ b < 10 ∧
    n = 10 * a + b ∧ pyText text = [digitChar a, digitChar b] := by
  obtain ⟨hlength, ⟨-, hdigits⟩, hvalue⟩ := h
  obtain ⟨x, y, rfl⟩ := List.length_eq_two.mp hlength
  have hx := hdigits x (by simp)
  have hy := hdigits y (by simp)
  simp only [isDigit, Bool.and_eq_true, decide_eq_true_eq, UInt8.le_iff_toNat_le] at hx hy
  simp only [UInt8.reduceToNat] at hx hy
  simp only [digitsValue, List.foldl_cons, List.foldl_nil] at hvalue
  refine ⟨x.toNat - 48, y.toNat - 48, by omega, by omega, by omega, ?_⟩
  simp only [pyText, List.map_cons, List.map_nil, digitChar]
  rw [Nat.add_sub_cancel' hx.1, Nat.add_sub_cancel' hy.1]

lemma ClockText.parseSeconds {raw : Str} {t : ClockTime} (h : ClockText raw t) :
    parseSeconds raw = .ok (t.secondOfDay : ℤ) := by
  obtain ⟨-, a, b, c, rfl, ha, hb, hc⟩ := h
  have hbounds := t.bounds
  have hsplit : split (trimSpace ([] ++ [timeSeparator].intercalate [a, b, c] ++ [])) timeSeparator =
      [a, b, c] :=
    split_numerals ⟨[], by simp⟩ ⟨[], by simp⟩ ha.numeral hb.numeral hc.numeral
  rw [List.nil_append, List.append_nil] at hsplit
  refine parseSeconds_eq_ok_iff.mpr ⟨a, b, c, hsplit, t.hour, t.minute, t.second,
    atoi_of_timeOfDay ha.numeral (by omega) (by omega),
    atoi_of_timeOfDay hb.numeral (by omega) (by omega),
    atoi_of_timeOfDay hc.numeral (by omega) (by omega), ?_⟩
  rw [wrap64_eq_self (by omega) (by omega), ClockTime.secondOfDay]
  push_cast
  rfl

lemma colon_notMem_digits {a b : ℕ} (ha : a < 10) (hb : b < 10) :
    Py.ofChar ':' ∉ [digitChar a, digitChar b] := by
  have hcolon : (Py.ofChar ':').val = 58 := rfl
  have hca := Py.digitChar_val ha
  have hcb := Py.digitChar_val hb
  intro hmem
  simp only [List.mem_cons, List.not_mem_nil, or_false] at hmem
  rcases hmem with heq | heq
  · rw [← heq] at hca
    omega
  · rw [← heq] at hcb
    omega

lemma ClockText.strptime {raw : Str} {t : ClockTime} (h : ClockText raw t) :
    Py.strptime (pyText raw) = .ok t := by
  obtain ⟨hmicro, a, b, c, rfl, ha, hb, hc⟩ := h
  have hbounds := t.bounds
  obtain ⟨a₁, a₂, ha₁, ha₂, hhour, hatext⟩ := ha.chars
  obtain ⟨b₁, b₂, hb₁, hb₂, hminute, hbtext⟩ := hb.chars
  obtain ⟨c₁, c₂, hc₁, hc₂, hsecond, hctext⟩ := hc.chars
  have hsep : codePoint timeSeparator.toNat = Py.ofChar ':' := rfl
  have htext : pyText ([timeSeparator].intercalate [a, b, c]) = [digitChar a₁, digitChar a₂] ++
      Py.ofChar ':' :: ([digitChar b₁, digitChar b₂] ++ Py.ofChar ':' :: [digitChar c₁, digitChar c₂]) := by
    rw [intercalate_three, ← hatext, ← hbtext, ← hctext]
    simp only [pyText, List.map_append, List.map_cons, hsep]
  rw [htext, Py.strptime, Py.split_append (colon_notMem_digits ha₁ ha₂),
    Py.split_append (colon_notMem_digits hb₁ hb₂), Py.split_of_notMem (colon_notMem_digits hc₁ hc₂)]
  dsimp only
  rw [Py.timeField_digits (by norm_num) (by norm_num) ha₁ ha₂ (by omega),
    Py.timeField_digits (by norm_num) (by norm_num) hb₁ hb₂ (by omega),
    Py.timeField_digits (by norm_num) (by norm_num) hc₁ hc₂ (by omega)]
  dsimp only
  rw [dif_pos (by omega)]
  obtain ⟨hour, minute, second, microsecond, hb⟩ := t
  dsimp only at hmicro hhour hminute hsecond
  subst hmicro hhour hminute hsecond
  rfl

/-! ### The schedule of one environment -/

section Schedule

variable {environ : String → Option Str} {startTime endTime : ClockTime}

lemma ClockText.ne_nil {raw : Str} {t : ClockTime} (h : ClockText raw t) : raw ≠ [] := by
  obtain ⟨-, a, b, c, rfl, -, -, -⟩ := h
  simp

lemma getEnv_goEnviron {key defaultVal : String} (h : (environ key).getD (lit defaultVal) ≠ []) :
    getEnv (goEnviron environ) key defaultVal = (environ key).getD (lit defaultVal) := by
  unfold getEnv goEnviron
  cases hkey : environ key with
  | none => simp
  | some raw =>
    rw [hkey] at h
    exact if_pos h

lemma pyText_lit {s : String} (h : s.toList.all (fun c => c.toNat < 128) = true) :
    pyText (lit s) = Py.lit s := by
  rw [pyText, lit, Py.lit, List.map_map]
  apply List.map_congr_left
  intro c hc
  have hlt : c.toNat < 128 := of_decide_eq_true (List.all_eq_true.mp h c hc)
  apply Fin.ext
  rw [Function.comp_apply, UInt8.toNat_ofNat', Nat.mod_eq_of_lt (by omega), Py.codePoint_val (by omega)]
  rfl

lemma getenv_pyEnviron {key defaultVal : String}
    (h : defaultVal.toList.all (fun c => c.toNat < 128) = true) :
    PyCapturer.getenv (pyEnviron environ) key defaultVal =
      pyText ((environ key).getD (lit defaultVal)) := by
  unfold PyCapturer.getenv pyEnviron
  cases environ key with
  | none => exact (pyText_lit h).symm
  | some raw => rfl

/-- The two times of the environment, with the defaults that both programs share. -/
structure ScheduleOf (environ : String → Option Str) (startTime endTime : ClockTime) : Prop where
  start : ClockText ((environ "START_TIME").getD (lit "00:00:00")) startTime
  stop : ClockText ((environ "END_TIME").getD (lit "23:59:59")) endTime

lemma ScheduleOf.loadSchedule (h : ScheduleOf environ startTime endTime) :
    loadSchedule (goEnviron environ) = .ok ⟨startTime.secondOfDay, endTime.secondOfDay⟩ := by
  rw [loadSchedule_eq_ok_iff, getEnv_goEnviron h.start.ne_nil, getEnv_goEnviron h.stop.ne_nil]
  exact ⟨h.start.parseSeconds, h.stop.parseSeconds⟩

lemma ScheduleOf.readSchedule (h : ScheduleOf environ startTime endTime) :
    PyCapturer.readSchedule (pyEnviron environ) = .ok (startTime, endTime) := by
  rw [PyCapturer.readSchedule, getenv_pyEnviron (by decide), getenv_pyEnviron (by decide),
    h.start.strptime, h.stop.strptime]
  rfl

/-! ### The same instant -/

/-- `datetime.now().time()`. -/
def clockTimeOf (loc : Location) (now : Time) : ClockTime where
  hour := (hour loc now).toNat
  minute := (minute loc now).toNat
  second := (second loc now).toNat
  microsecond := (now % 1000000000 / 1000).toNat
  bounds := by
    have hday := secondOfDay_bounds loc now
    unfold hour minute second
    omega

lemma clockTimeOf_secondOfDay (loc : Location) (now : Time) :
    ((clockTimeOf loc now).secondOfDay : ℤ) = secondOfDay loc now := by
  have hday := secondOfDay_bounds loc now
  unfold clockTimeOf ClockTime.secondOfDay hour minute second
  dsimp only
  omega

/-- Both programs read the environment, and give the same answer at the instant; for the whole day
the answer is yes. -/
def SameSchedule (environ : String → Option Str) (loc : Location) (now : Time) : Prop :=
  ∃ c startTime endTime, loadSchedule (goEnviron environ) = .ok c ∧
    PyCapturer.readSchedule (pyEnviron environ) = .ok (startTime, endTime) ∧
    c.isWithinTimeFrame loc now = PyCapturer.isWithinTimeFrame startTime endTime (clockTimeOf loc now) ∧
    ((environ "START_TIME").getD (lit "00:00:00") = lit "00:00:00" →
      (environ "END_TIME").getD (lit "23:59:59") = lit "23:59:59" →
        c.isWithinTimeFrame loc now = true ∧
          PyCapturer.isWithinTimeFrame startTime endTime (clockTimeOf loc now) = true)

/-- Between times without microseconds the Python test is the one on seconds, except within the last
second. -/
lemma python_isWithin_iff {now : ClockTime} (hstart : startTime.microsecond = 0)
    (hend : endTime.microsecond = 0) : PyCapturer.isWithinTimeFrame startTime endTime now = true ↔
      (if startTime.secondOfDay ≤ endTime.secondOfDay then
        startTime.secondOfDay ≤ now.secondOfDay ∧ now.secondOfDay ≤ endTime.secondOfDay
      else startTime.secondOfDay ≤ now.secondOfDay ∨ now.secondOfDay ≤ endTime.secondOfDay) ∧
        ¬ (now.secondOfDay = endTime.secondOfDay ∧ now.microsecond ≠ 0) := by
  have hle : startTime.le endTime = true ↔ startTime.secondOfDay ≤ endTime.secondOfDay := by
    rw [ClockTime.le_iff, hstart, hend]
    omega
  rw [PyCapturer.isWithinTimeFrame, apply_ite (· = true), Bool.and_eq_true, Bool.or_eq_true]
  simp only [hle, ClockTime.le_iff, hstart, hend]
  split_ifs with hday
  · omega
  · omega

lemma ScheduleOf.whole_seconds (h : ScheduleOf environ startTime endTime) :
    startTime.microsecond = 0 ∧ endTime.microsecond = 0 :=
  ⟨h.start.1, h.stop.1⟩

lemma go_isWithin_iff (loc : Location) (now : Time) :
    (TimeFrame.mk startTime.secondOfDay endTime.secondOfDay).isWithinTimeFrame loc now = true ↔
      if startTime.secondOfDay ≤ endTime.secondOfDay then
        startTime.secondOfDay ≤ (clockTimeOf loc now).secondOfDay ∧
          (clockTimeOf loc now).secondOfDay ≤ endTime.secondOfDay
      else startTime.secondOfDay ≤ (clockTimeOf loc now).secondOfDay ∨
        (clockTimeOf loc now).secondOfDay ≤ endTime.secondOfDay := by
  rw [TimeFrame.isWithinTimeFrame_iff, ← clockTimeOf_secondOfDay]
  simp only [Nat.cast_le]

/-- The last second belongs to the schedule, overnight or not. -/
lemma go_isWithin_last {loc : Location} {now : Time}
    (h : (clockTimeOf loc now).secondOfDay = endTime.secondOfDay) :
    (TimeFrame.mk startTime.secondOfDay endTime.secondOfDay).isWithinTimeFrame loc now = true := by
  rw [go_isWithin_iff, h]
  split_ifs with hday
  · exact ⟨hday, le_rfl⟩
  · exact Or.inr le_rfl

lemma ClockText.unique {raw : Str} {t u : ClockTime} (ht : ClockText raw t) (hu : ClockText raw u) :
    t = u :=
  Except.ok.inj (ht.strptime.symm.trans hu.strptime)

/-- The schedule of the whole day contains every second. -/
lemma whole_day (h : ScheduleOf environ startTime endTime)
    (hstart : (environ "START_TIME").getD (lit "00:00:00") = lit "00:00:00")
    (hend : (environ "END_TIME").getD (lit "23:59:59") = lit "23:59:59") (loc : Location)
    (now : Time) :
    (TimeFrame.mk startTime.secondOfDay endTime.secondOfDay).isWithinTimeFrame loc now = true := by
  have hfirst := h.start.parseSeconds
  have hlast := h.stop.parseSeconds
  rw [hstart, show parseSeconds (lit "00:00:00") = .ok 0 by decide, Except.ok.injEq] at hfirst
  rw [hend, show parseSeconds (lit "23:59:59") = .ok 86399 by decide, Except.ok.injEq] at hlast
  have hnow := (clockTimeOf loc now).secondOfDay_lt
  rw [go_isWithin_iff, if_pos (by omega)]
  omega

/-- For all valid times, every zone and every instant: the two capturers agree unless the instant
lies within the last second, after its beginning. -/
theorem schedules_agree_iff (h : ScheduleOf environ startTime endTime) (loc : Location) (now : Time) :
    SameSchedule environ loc now ↔
      ¬ ((clockTimeOf loc now).secondOfDay = endTime.secondOfDay ∧ (clockTimeOf loc now).microsecond ≠ 0) := by
  have hpython : PyCapturer.isWithinTimeFrame startTime endTime (clockTimeOf loc now) = true ↔ _ :=
    python_isWithin_iff h.whole_seconds.1 h.whole_seconds.2
  rw [← go_isWithin_iff] at hpython
  constructor
  · rintro ⟨c, first, last, hc, hread, hsame, -⟩ hlate
    obtain rfl := Except.ok.inj (h.loadSchedule.symm.trans hc)
    obtain ⟨rfl, rfl⟩ := Prod.mk.inj (Except.ok.inj (h.readSchedule.symm.trans hread))
    rw [go_isWithin_last hlate.1] at hsame
    exact (hpython.mp hsame.symm).2 hlate
  · intro hearly
    have hsame := Bool.eq_iff_iff.mpr (hpython.trans (and_iff_left hearly)).symm
    refine ⟨_, startTime, endTime, h.loadSchedule, h.readSchedule, hsame, ?_⟩
    intro hstart hend
    have hwhole := whole_day h hstart hend loc now
    exact ⟨hwhole, hsame.symm.trans hwhole⟩

end Schedule

/-! ### The shipped schedule -/

def dayStart : ClockTime := ⟨0, 0, 0, 0, by decide⟩

def dayEnd : ClockTime := ⟨23, 59, 59, 0, by decide⟩

def shippedEnviron : String → Option Str := fun _ => none

lemma twoDigits_of_all (text : Str) (hlength : text.length = 2) (h : text.all isDigit = true) :
    TwoDigits text (digitsValue text 0) :=
  ⟨hlength, ⟨List.ne_nil_of_length_pos (by omega), List.all_eq_true.mp h⟩, rfl⟩

lemma shipped_scheduleOf : ScheduleOf shippedEnviron dayStart dayEnd where
  start := ⟨rfl, lit "00", lit "00", lit "00", rfl, twoDigits_of_all (lit "00") rfl (by decide),
    twoDigits_of_all (lit "00") rfl (by decide), twoDigits_of_all (lit "00") rfl (by decide)⟩
  stop := ⟨rfl, lit "23", lit "59", lit "59", rfl, twoDigits_of_all (lit "23") rfl (by decide),
    twoDigits_of_all (lit "59") rfl (by decide), twoDigits_of_all (lit "59") rfl (by decide)⟩

theorem schedules_agree_iff_shipped : SameSchedule shippedEnviron (fun _ => 0) 0 :=
  (schedules_agree_iff shipped_scheduleOf (fun _ => 0) 0).mpr (by decide)

/-- Half a second before midnight only the Go capturer keeps the schedule of the whole day. -/
theorem last_second_lost : ¬ SameSchedule shippedEnviron (fun _ => 0) 86399500000000 := by
  rintro ⟨c, startTime, endTime, hc, hread, hsame, -⟩
  obtain rfl := Except.ok.inj (shipped_scheduleOf.loadSchedule.symm.trans hc)
  obtain ⟨rfl, rfl⟩ := Prod.mk.inj (Except.ok.inj (shipped_scheduleOf.readSchedule.symm.trans hread))
  revert hsame
  decide

end IntruderWatch.Proofs
