import IntruderWatch.Schedule
import IntruderWatch.Library.PyText

/-!
# Schedule strings and clock intervals

What `parseSeconds` accepts, what `IsWithinTimeFrame` means for the accepted values, and when
the two together are the clock interval that the strings write.
-/

namespace IntruderWatch.Proofs
open Go

/-! ### Accepted strings -/

def IsTimeOfDay (h m s : ℤ) : Prop :=
  (0 ≤ h ∧ h < 24) ∧ (0 ≤ m ∧ m < 60) ∧ 0 ≤ s ∧ s < 60

/-- The string is `HH:MM:SS` up to surrounding white space, for a time of day whose three
numbers are written as `Field` says. -/
def TimeText (Field : Str → ℤ → Prop) (raw : Str) : Prop :=
  ∃ pre post, White pre ∧ White post ∧
    ∃ a b c, raw = pre ++ [timeSeparator].intercalate [a, b, c] ++ post ∧
      ∃ h m s, (Field a h ∧ Field b m ∧ Field c s) ∧ IsTimeOfDay h m s

/-- A number written with two digits. -/
def TwoDigits (text : Str) (n : ℤ) : Prop :=
  text.length = 2 ∧ IsDigits text ∧ n = digitsValue text 0

/-- The three numbers that `parseSeconds` reads, if it can, are written as `Field` says and are a
time of day. -/
def FieldsConform (Field : Str → ℤ → Prop) (raw : Str) : Prop :=
  ∀ a b c, split (trimSpace raw) timeSeparator = [a, b, c] →
    ∀ h m s, atoi a = .ok h → atoi b = .ok m → atoi c = .ok s →
      (Field a h ∧ Field b m ∧ Field c s) ∧ IsTimeOfDay h m s

lemma atoiPart_eq_ok_iff {part : Str} {n : ℤ} : atoiPart part = .ok n ↔ atoi part = .ok n := by
  unfold atoiPart
  cases atoi part with
  | error err => simp
  | ok m => simp

/-- The accepted strings and their values. -/
lemma parseSeconds_eq_ok_iff {raw : Str} {n : ℤ} : parseSeconds raw = .ok n ↔
    ∃ a b c, split (trimSpace raw) timeSeparator = [a, b, c] ∧
      ∃ h m s, atoi a = .ok h ∧ atoi b = .ok m ∧ atoi c = .ok s ∧
        n = wrap64 (h * 3600 + m * 60 + s) := by
  unfold parseSeconds
  constructor
  · intro hparse
    split at hparse
    · next a b c hsplit =>
      simp only [Py.bind_eq_ok, atoiPart_eq_ok_iff, Except.ok.injEq] at hparse
      obtain ⟨h, hh, m, hm, s, hs, hn⟩ := hparse
      exact ⟨a, b, c, hsplit, h, m, s, hh, hm, hs, hn.symm⟩
    · cases hparse
  · rintro ⟨a, b, c, hsplit, h, m, s, hh, hm, hs, rfl⟩
    rw [hsplit]
    simp only [Py.bind_eq_ok, atoiPart_eq_ok_iff, Except.ok.injEq]
    exact ⟨h, hh, m, hm, s, hs, rfl⟩

/-! ### The text of a time -/

lemma numeral_bytes {text : Str} {n : ℤ} (h : Numeral text n) :
    ∀ b ∈ text, isDigit b = true ∨ b = 43 ∨ b = 45 := by
  intro b hb
  cases h with
  | plain hd => exact .inl (hd.2 b hb)
  | positive hd =>
    rcases List.mem_cons.mp hb with rfl | hb
    · exact .inr (.inl rfl)
    · exact .inl (hd.2 b hb)
  | negative hd =>
    rcases List.mem_cons.mp hb with rfl | hb
    · exact .inr (.inr rfl)
    · exact .inl (hd.2 b hb)

lemma numeral_ne_nil {text : Str} {n : ℤ} (h : Numeral text n) : text ≠ [] := by
  cases h with
  | plain hd => exact hd.1
  | positive _ => simp
  | negative _ => simp

lemma isGraphic_of_digit {b : UInt8} (h : isDigit b = true ∨ b = 43 ∨ b = 45) :
    isGraphic b = true ∧ b ≠ timeSeparator := by
  unfold isDigit at h
  unfold isGraphic timeSeparator
  simp only [Bool.and_eq_true, decide_eq_true_eq, UInt8.le_iff_toNat_le, ← UInt8.toNat_inj,
    ne_eq] at h ⊢
  simp only [UInt8.reduceToNat] at h ⊢
  omega

section Text

variable {a b c : Str} {h m s : ℤ}

lemma intercalate_three : [timeSeparator].intercalate [a, b, c] =
    a ++ timeSeparator :: (b ++ timeSeparator :: c) := by
  simp [List.intercalate]

/-- Around three numerals `TrimSpace` removes the white space and `Split` finds them. -/
lemma split_numerals {pre post : Str} (hpre : White pre) (hpost : White post) (ha : Numeral a h)
    (hb : Numeral b m) (hc : Numeral c s) :
    split (trimSpace (pre ++ [timeSeparator].intercalate [a, b, c] ++ post)) timeSeparator =
      [a, b, c] := by
  have htrim : trimSpace (pre ++ [timeSeparator].intercalate [a, b, c] ++ post) =
      [timeSeparator].intercalate [a, b, c] := by
    apply trimSpace_surrounded hpre hpost
    · simp
    · intro x hx
      rw [intercalate_three, List.head?_append_of_ne_nil _ (numeral_ne_nil ha)] at hx
      exact (isGraphic_of_digit (numeral_bytes ha x (List.mem_of_mem_head? hx))).1
    · intro x hx
      rw [intercalate_three, List.getLast?_append_of_ne_nil _ (by simp),
        List.getLast?_cons_of_ne_nil (by simp), List.getLast?_append_of_ne_nil _ (by simp),
        List.getLast?_cons_of_ne_nil (numeral_ne_nil hc)] at hx
      exact (isGraphic_of_digit (numeral_bytes hc x (List.mem_of_mem_getLast? hx))).1
  rw [htrim, split]
  apply List.splitOn_intercalate
  · intro text htext hmem
    simp only [List.mem_cons, List.not_mem_nil, or_false] at htext
    rcases htext with rfl | rfl | rfl
    · exact (isGraphic_of_digit (numeral_bytes ha _ hmem)).2 rfl
    · exact (isGraphic_of_digit (numeral_bytes hb _ hmem)).2 rfl
    · exact (isGraphic_of_digit (numeral_bytes hc _ hmem)).2 rfl
  · simp

/-- The numbers of a time of day are read back. -/
lemma atoi_of_timeOfDay {text : Str} {n : ℤ} (h : Numeral text n) (hlo : 0 ≤ n) (hhi : n < 60) :
    atoi text = .ok n :=
  atoi_eq_ok_iff.mpr ⟨h, by omega, by omega⟩

end Text

/-- Accepted strings are times of day, in the way `Field` writes numbers, if and only if the
numbers that are read conform. -/
lemma accepts_timeText_iff {Field : Str → ℤ → Prop} (hfield : ∀ text n, Field text n → Numeral text n)
    (raw : Str) :
    ((∃ n, parseSeconds raw = .ok n) → TimeText Field raw) ↔ FieldsConform Field raw := by
  constructor
  · rintro htext a b c hsplit h m s ha hb hc
    obtain ⟨pre, post, hpre, hpost, a', b', c', hraw, h', m', s', ⟨ha', hb', hc'⟩, htime⟩ :=
      htext ⟨_, parseSeconds_eq_ok_iff.mpr ⟨a, b, c, hsplit, h, m, s, ha, hb, hc, rfl⟩⟩
    have hread := split_numerals hpre hpost (hfield a' h' ha') (hfield b' m' hb') (hfield c' s' hc')
    rw [← hraw, hsplit] at hread
    obtain ⟨rfl, rfl, rfl⟩ : a = a' ∧ b = b' ∧ c = c' := by simpa using hread
    obtain ⟨⟨hh0, hh⟩, ⟨hm0, hm⟩, hs0, hs⟩ := htime
    rw [atoi_of_timeOfDay (hfield a h' ha') hh0 (by omega), Except.ok.injEq] at ha
    rw [atoi_of_timeOfDay (hfield b m' hb') hm0 hm, Except.ok.injEq] at hb
    rw [atoi_of_timeOfDay (hfield c s' hc') hs0 hs, Except.ok.injEq] at hc
    subst ha hb hc
    exact ⟨⟨ha', hb', hc'⟩, ⟨hh0, hh⟩, ⟨hm0, hm⟩, hs0, hs⟩
  · rintro hconform ⟨n, hn⟩
    obtain ⟨a, b, c, hsplit, h, m, s, ha, hb, hc, -⟩ := parseSeconds_eq_ok_iff.mp hn
    obtain ⟨pre, post, hpre, hpost, hraw⟩ := trimSpace_decomp raw
    have hjoin : [timeSeparator].intercalate [a, b, c] = trimSpace raw := by
      rw [← hsplit]
      exact List.intercalate_splitOn timeSeparator
    rw [← hjoin] at hraw
    exact ⟨pre, post, hpre, hpost, a, b, c, hraw, h, m, s, hconform a b c hsplit h m s ha hb hc⟩

/-! ### Clock intervals -/

/-- The second `t` of the day lies on the clock arc from `start` to `stop`. -/
def OnArc (start stop t : ℤ) : Prop := (t - start) % 86400 ≤ (stop - start) % 86400

/-- Between two times of day the schedule is the clock arc, overnight or not. -/
lemma isWithinTimeFrame_iff_onArc {c : TimeFrame} (hs : 0 ≤ c.startSeconds ∧ c.startSeconds < 86400)
    (he : 0 ≤ c.endSeconds ∧ c.endSeconds < 86400) (loc : Location) (now : Time) :
    c.isWithinTimeFrame loc now = true ↔ OnArc c.startSeconds c.endSeconds (secondOfDay loc now) := by
  have ht := secondOfDay_bounds loc now
  rw [TimeFrame.isWithinTimeFrame_iff, OnArc]
  split_ifs with hle
  · omega
  · omega

/-- The value of a time of day. -/
lemma parseSeconds_bounds {Field : Str → ℤ → Prop} {raw : Str} {n : ℤ}
    (hconform : FieldsConform Field raw) (hn : parseSeconds raw = .ok n) : 0 ≤ n ∧ n < 86400 := by
  obtain ⟨a, b, c, hsplit, h, m, s, ha, hb, hc, rfl⟩ := parseSeconds_eq_ok_iff.mp hn
  obtain ⟨-, hh, hm, hs⟩ := hconform a b c hsplit h m s ha hb hc
  rw [wrap64_eq_self (by omega) (by omega)]
  omega

/-- The strings are times of day if they are accepted, and together they denote the clock
interval from the first to the second, whatever the zone and the time. -/
structure DenotesInterval (Field : Str → ℤ → Prop) (startTime endTime : Str) : Prop where
  start : (∃ n, parseSeconds startTime = .ok n) → TimeText Field startTime
  stop : (∃ n, parseSeconds endTime = .ok n) → TimeText Field endTime
  interval : ∀ startSec endSec, parseSeconds startTime = .ok startSec →
    parseSeconds endTime = .ok endSec → ∀ loc now,
      (TimeFrame.mk startSec endSec).isWithinTimeFrame loc now = true ↔
        OnArc startSec endSec (secondOfDay loc now)

lemma denotesInterval_iff {Field : Str → ℤ → Prop} (hfield : ∀ text n, Field text n → Numeral text n)
    (startTime endTime : Str) : DenotesInterval Field startTime endTime ↔
      FieldsConform Field startTime ∧ FieldsConform Field endTime := by
  constructor
  · intro h
    exact ⟨(accepts_timeText_iff hfield startTime).mp h.start,
      (accepts_timeText_iff hfield endTime).mp h.stop⟩
  · rintro ⟨hstart, hstop⟩
    refine ⟨(accepts_timeText_iff hfield startTime).mpr hstart,
      (accepts_timeText_iff hfield endTime).mpr hstop, ?_⟩
    intro startSec endSec hS hE loc now
    exact isWithinTimeFrame_iff_onArc (parseSeconds_bounds hstart hS) (parseSeconds_bounds hstop hE)
      loc now

/-- A loaded schedule of conforming times monitors the arc of the clock between them. -/
theorem loadSchedule_onArc {environ : String → Str} {c : TimeFrame}
    (hload : loadSchedule environ = .ok c)
    (hstart : FieldsConform Numeral (getEnv environ "START_TIME" "00:00:00"))
    (hstop : FieldsConform Numeral (getEnv environ "END_TIME" "23:59:59")) (loc : Location)
    (now : Time) : c.isWithinTimeFrame loc now = true ↔
      OnArc c.startSeconds c.endSeconds (secondOfDay loc now) := by
  obtain ⟨hstartSec, hendSec⟩ := loadSchedule_eq_ok_iff.mp hload
  exact isWithinTimeFrame_iff_onArc (parseSeconds_bounds hstart hstartSec)
    (parseSeconds_bounds hstop hendSec) loc now

/-- For all strings, whether numbers are read with any spelling or with two digits only: the
strings denote a clock interval if and only if the numbers in them conform. -/
theorem schedule_denotes_interval_iff (startTime endTime : Str) :
    (DenotesInterval Numeral startTime endTime ↔
      FieldsConform Numeral startTime ∧ FieldsConform Numeral endTime) ∧
    (DenotesInterval TwoDigits startTime endTime ↔
      FieldsConform TwoDigits startTime ∧ FieldsConform TwoDigits endTime) := by
  constructor
  · exact denotesInterval_iff (fun _ _ h => h) startTime endTime
  · apply denotesInterval_iff
    rintro text n ⟨-, hdigits, rfl⟩
    exact .plain hdigits

/-- The end of an overnight schedule written as `30:00:00`: one o'clock is on the arc and not
within the schedule. -/
theorem schedule_past_midnight :
    ¬ DenotesInterval Numeral (lit "22:00:00") (lit "30:00:00") ∧
      ¬ DenotesInterval TwoDigits (lit "22:00:00") (lit "30:00:00") := by
  have hstart : parseSeconds (lit "22:00:00") = .ok 79200 := by decide
  have hstop : parseSeconds (lit "30:00:00") = .ok 108000 := by decide
  have hlost : ¬ ((TimeFrame.mk 79200 108000).isWithinTimeFrame (fun _ => 0) 3600000000000 = true ↔
      OnArc 79200 108000 (secondOfDay (fun _ => 0) 3600000000000)) := by
    unfold OnArc
    decide
  exact ⟨fun h => hlost (h.interval _ _ hstart hstop _ _),
    fun h => hlost (h.interval _ _ hstart hstop _ _)⟩

end IntruderWatch.Proofs
