import IntruderWatch.Config
import IntruderWatch.Library.GoText

/-!
# Monitoring schedule

`parseSeconds`, the part of `LoadConfig` that reads `START_TIME` and `END_TIME`, and
`IsWithinTimeFrame`. An unset environment variable reads as the empty string.
-/

namespace IntruderWatch

/-- The errors of `parseSeconds`: not three parts, or a part that `Atoi` refuses. -/
inductive TimeError
  | format (timeStr : Go.Str)
  | number (part : Go.Str) (err : Go.NumError)
deriving DecidableEq

def atoiPart (part : Go.Str) : Except TimeError ℤ :=
  match Go.atoi part with
  | .error err => .error (.number part err)
  | .ok n => .ok n

/-- The byte `:`. -/
def timeSeparator : UInt8 := 58

def parseSeconds (timeStr : Go.Str) : Except TimeError ℤ :=
  match Go.split (Go.trimSpace timeStr) timeSeparator with
  | [hours, minutes, seconds] => do
    let h ← atoiPart hours
    let m ← atoiPart minutes
    let s ← atoiPart seconds
    .ok (Go.wrap64 (h * 3600 + m * 60 + s))
  | _ => .error (.format timeStr)

/-- The fields of `Config` that bound the monitored part of a day. -/
structure TimeFrame where
  startSeconds : ℤ
  endSeconds : ℤ
deriving DecidableEq

/-- `START_TIME error` or `END_TIME error`. -/
inductive LoadError
  | startTime (err : TimeError)
  | endTime (err : TimeError)
deriving DecidableEq

def getEnv (environ : String → Go.Str) (key defaultVal : String) : Go.Str :=
  if environ key ≠ [] then environ key else Go.lit defaultVal

def loadSchedule (environ : String → Go.Str) : Except LoadError TimeFrame :=
  match parseSeconds (getEnv environ "START_TIME" "00:00:00") with
  | .error err => .error (.startTime err)
  | .ok startSec =>
    match parseSeconds (getEnv environ "END_TIME" "23:59:59") with
    | .error err => .error (.endTime err)
    | .ok endSec => .ok ⟨startSec, endSec⟩

lemma loadSchedule_eq_ok_iff {environ : String → Go.Str} {c : TimeFrame} :
    loadSchedule environ = .ok c ↔
      parseSeconds (getEnv environ "START_TIME" "00:00:00") = .ok c.startSeconds ∧
        parseSeconds (getEnv environ "END_TIME" "23:59:59") = .ok c.endSeconds := by
  unfold loadSchedule
  cases hstart : parseSeconds (getEnv environ "START_TIME" "00:00:00") with
  | error err => simp
  | ok startSec =>
    cases hend : parseSeconds (getEnv environ "END_TIME" "23:59:59") with
    | error err => simp
    | ok endSec =>
      obtain ⟨start, stop⟩ := c
      simp

/-! ### The time of day -/

/-- The local time zone: the seconds east of UTC at every instant. -/
abbrev Location := Time → ℤ

section TimeOfDay

variable (loc : Location) (now : Time)

def secondOfDay : ℤ := (now / 1000000000 + loc now) % 86400

def hour : ℤ := secondOfDay loc now / 3600

def minute : ℤ := secondOfDay loc now % 3600 / 60

def second : ℤ := secondOfDay loc now % 60

def TimeFrame.isWithinTimeFrame (c : TimeFrame) : Bool :=
  let nowSec := hour loc now * 3600 + minute loc now * 60 + second loc now
  if c.startSeconds ≤ c.endSeconds then c.startSeconds ≤ nowSec && nowSec ≤ c.endSeconds
  else c.startSeconds ≤ nowSec || nowSec ≤ c.endSeconds

lemma secondOfDay_bounds : 0 ≤ secondOfDay loc now ∧ secondOfDay loc now < 86400 := by
  unfold secondOfDay
  constructor
  · exact Int.emod_nonneg _ (by norm_num)
  · exact Int.emod_lt_of_pos _ (by norm_num)

lemma nowSec_eq : hour loc now * 3600 + minute loc now * 60 + second loc now = secondOfDay loc now := by
  unfold hour minute second
  omega

/-- The two branches of the schedule test. -/
lemma TimeFrame.isWithinTimeFrame_iff (c : TimeFrame) : c.isWithinTimeFrame loc now = true ↔
    if c.startSeconds ≤ c.endSeconds then
      c.startSeconds ≤ secondOfDay loc now ∧ secondOfDay loc now ≤ c.endSeconds
    else c.startSeconds ≤ secondOfDay loc now ∨ secondOfDay loc now ≤ c.endSeconds := by
  unfold TimeFrame.isWithinTimeFrame
  rw [nowSec_eq]
  split_ifs
  · simp
  · simp

end TimeOfDay

end IntruderWatch
