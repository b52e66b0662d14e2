import IntruderWatch.Health
import IntruderWatch.Library.Histories
import IntruderWatch.Library.Runs

/-!
# Health of the capture process

The stamp of the capturer is the time of its most recent launch or frame. `IsHealthy` measures
its age, so a process that was just launched passes for one that delivers frames.
-/

namespace IntruderWatch.Proofs
open History

/-! ### What the calls of a run did -/

def launchAt : CaptureLabel → Option Time
  | (.start _ now, .started .launched) => some now
  | _ => none

def frameAt : CaptureLabel → Option Time
  | (.readFrame call, .read none) => some call.now
  | _ => none

def stampAt (label : CaptureLabel) : Option Time :=
  (frameAt label).or (launchAt label)

/-- Whether the label leaves the process running. -/
def leavesRunning : CaptureLabel → Option Bool
  | (.start _ _, .started .launched) => some true
  | (.stop _, _) => some false
  | _ => none

def ProcessUp (past : List CaptureLabel) : Prop :=
  latestOf leavesRunning past = some true

/-- Fifteen seconds. -/
def freshness : Duration := 15 * 1000000000

/-- Healthy means that a frame arrived, and a capturer without a frame is never reported
healthy. -/
structure HealthLaw (past : List CaptureLabel) (c : CaptureProcess) (t : Clock) : Prop where
  recent : c.isHealthy t = true →
    (∃ label ∈ past, ∃ r, frameAt label = some r ∧ (t : Time) - r < freshness) ∧ ProcessUp past
  silent : (∀ label ∈ past, frameAt label = none) →
    ∀ schedule loc now, healthz schedule loc c now t ≠ .healthy

/-- The process runs and was launched recently, and no frame has arrived as recently. -/
def Unproven (past : List CaptureLabel) (t : Clock) : Prop :=
  ProcessUp past ∧
  (∃ label ∈ past, ∃ l, launchAt label = some l ∧ (t : Time) - l < freshness) ∧
  ∀ label ∈ past, ∀ r, frameAt label = some r → freshness ≤ (t : Time) - r

/-! ### The fields of the capturer and the past -/

section Step

variable {past labels : List CaptureLabel} {c c' : CaptureProcess} {label : CaptureLabel}

lemma readFrame_stamp (c : CaptureProcess) (call : ReadCall) :
    (c.readFrame call).1.lastFrameTime =
      (frameAt (.readFrame call, .read (c.readFrame call).2.2)).getD c.lastFrameTime := by
  cases hstdout : c.stdout with
  | none => simp [CaptureProcess.readFrame, StreamCapturer.readFrame, hstdout, frameAt]
  | some stdout =>
    rcases hread : Go.readFull stdout call.buf with ⟨buf, rest, err⟩
    cases err <;>
      simp [CaptureProcess.readFrame, StreamCapturer.readFrame, hstdout, hread, frameAt]

/-- A launch and a frame set the stamp, a launch and `Stop` the flag; no other call does. -/
lemma captureStep_fields (h : CaptureStep c label c') :
    c'.lastFrameTime = (stampAt label).getD c.lastFrameTime ∧
      c'.isRunning = (leavesRunning label).getD c.isRunning := by
  obtain ⟨call, outcome⟩ := label
  obtain ⟨rfl, rfl⟩ : (captureStep c call).1 = c' ∧ (captureStep c call).2 = outcome :=
    ⟨congrArg Prod.fst h, congrArg Prod.snd h⟩
  cases call with
  | start launch now =>
    simp only [captureStep]
    cases hrun : c.isRunning with
    | true => simp [CaptureProcess.start, hrun, stampAt, frameAt, launchAt, leavesRunning]
    | false =>
      cases launch <;> simp [CaptureProcess.start, hrun, stampAt, frameAt, launchAt, leavesRunning]
  | readFrame call =>
    have hnone : launchAt (.readFrame call, .read (c.readFrame call).2.2) = none := rfl
    simp only [captureStep, stampAt, hnone, Option.or_none]
    exact ⟨readFrame_stamp c call, rfl⟩
  | stop now =>
    simp only [captureStep, CaptureProcess.stop]
    cases hrun : c.isRunning
    · exact ⟨rfl, hrun⟩
    · exact ⟨rfl, rfl⟩

/-- The two fields that `IsHealthy` reads, as the past determines them. -/
structure HealthInv (past : List CaptureLabel) (c : CaptureProcess) : Prop where
  running : c.isRunning = (latestOf leavesRunning past).getD false
  stamp : c.lastFrameTime = (latestOf stampAt past).getD 0

lemma HealthInv.step (hinv : HealthInv past c) (h : CaptureStep c label c') :
    HealthInv (past ++ [label]) c' where
  running := by
    rw [(captureStep_fields h).2, hinv.running, latestOf_snoc]
    cases leavesRunning label <;> rfl
  stamp := by
    rw [(captureStep_fields h).1, hinv.stamp, latestOf_snoc]
    cases stampAt label <;> rfl

lemma captureRun_inv (hrun : Transition.Run CaptureStep newStreamCapturer labels c) :
    HealthInv labels c :=
  hrun.invariant HealthInv ⟨rfl, rfl⟩ (fun _ _ _ _ hinv hstep => hinv.step hstep)

lemma HealthInv.isRunning_iff (hinv : HealthInv past c) : c.isRunning = true ↔ ProcessUp past := by
  rw [hinv.running, ProcessUp]
  cases latestOf leavesRunning past <;> simp

lemma HealthInv.isHealthy_iff (hinv : HealthInv past c) (t : Time) :
    c.isHealthy t = true ↔ ProcessUp past ∧ t - c.lastFrameTime < freshness := by
  rw [CaptureProcess.isHealthy, Bool.and_eq_true, decide_eq_true_eq, hinv.isRunning_iff]
  rfl

lemma launchAt_of_leavesRunning (h : leavesRunning label = some true) :
    ∃ l, launchAt label = some l := by
  unfold leavesRunning at h
  split at h
  · exact ⟨_, rfl⟩
  · exact absurd h (by decide)
  · exact absurd h (by simp)

/-- The stamp of a running process is the time of a frame or of a launch. -/
lemma HealthInv.stamp_cases (hinv : HealthInv past c) (hrunning : ProcessUp past) :
    ∃ label ∈ past, frameAt label = some c.lastFrameTime ∨ launchAt label = some c.lastFrameTime := by
  obtain ⟨first, hfirst, htrue⟩ := latestOf_eq_some hrunning
  obtain ⟨l, hl⟩ := launchAt_of_leavesRunning htrue
  rw [hinv.stamp]
  cases hstamp : latestOf stampAt past with
  | none =>
    have hnone := latestOf_eq_none hstamp first hfirst
    rw [stampAt, Option.or_eq_none_iff, hl] at hnone
    exact absurd hnone.2 (by simp)
  | some s =>
    obtain ⟨label, hmem, hs⟩ := latestOf_eq_some hstamp
    rw [stampAt, Option.or_eq_some_iff] at hs
    refine ⟨label, hmem, ?_⟩
    rcases hs with hframe | ⟨-, hlaunch⟩
    · exact .inl hframe
    · exact .inr hlaunch

lemma frameAt_eq_some {r : Time} (h : frameAt label = some r) : label.1.time = r := by
  unfold frameAt at h
  split at h
  · exact Option.some.inj h
  · exact absurd h (by simp)

lemma launchAt_eq_some {l : Time} (h : launchAt label = some l) :
    label.1.time = l ∧ frameAt label = none := by
  unfold launchAt at h
  split at h
  · exact ⟨Option.some.inj h, rfl⟩
  · exact absurd h (by simp)

/-- The time of a stamp is the time of its call. -/
lemma time_of_stampAt {s : Time} (h : stampAt label = some s) : label.1.time = s := by
  rw [stampAt, Option.or_eq_some_iff] at h
  rcases h with hframe | ⟨-, hlaunch⟩
  · exact frameAt_eq_some hframe
  · exact (launchAt_eq_some hlaunch).1

/-- At nondecreasing times, the stamp is above the time of every frame and every launch. -/
lemma HealthInv.le_stamp (hinv : HealthInv past c)
    (hord : (past.map (fun label => label.1.time)).Pairwise (fun t t' => t ≤ t')) {s : Time}
    (hmem : label ∈ past) (hs : stampAt label = some s) : s ≤ c.lastFrameTime := by
  have hstamps : (past.filterMap stampAt).Pairwise (fun t t' => t ≤ t') := by
    rw [List.pairwise_filterMap]
    rw [List.pairwise_map] at hord
    apply hord.imp
    intro a b hab s hs s' hs'
    rw [← time_of_stampAt hs, ← time_of_stampAt hs']
    exact hab
  have hrefl : Std.Refl (fun t t' : Time => t ≤ t') := ⟨fun t => le_refl t⟩
  rw [hinv.stamp]
  cases hlatest : latestOf stampAt past with
  | none =>
    rw [latestOf_eq_none hlatest label hmem] at hs
    exact absurd hs (by simp)
  | some s' => exact latestOf_upper (fun t t' => t ≤ t') hstamps hlatest hmem hs

/-- The launch alone makes the process healthy. -/
lemma HealthInv.healthy_of_unproven (hinv : HealthInv past c)
    (hord : (past.map (fun label => label.1.time)).Pairwise (fun t t' => t ≤ t')) {t : Clock}
    (h : Unproven past t) : c.isHealthy t = true := by
  obtain ⟨hup, ⟨label, hmem, l, hl, hfresh⟩, -⟩ := h
  have hstamp : stampAt label = some l := by
    rw [stampAt, (launchAt_eq_some hl).2, hl, Option.none_or]
  have hle := hinv.le_stamp hord hmem hstamp
  rw [hinv.isHealthy_iff]
  exact ⟨hup, (sub_le_sub_left hle (t : Time)).trans_lt hfresh⟩

/-- Unless a launch stands in for it, a healthy process has delivered a frame recently. -/
lemma HealthInv.recent_of_healthy (hinv : HealthInv past c) {t : Clock} (hproven : ¬ Unproven past t)
    (hhealthy : c.isHealthy t = true) :
    (∃ label ∈ past, ∃ r, frameAt label = some r ∧ (t : Time) - r < freshness) ∧
      ProcessUp past := by
  obtain ⟨hup, hage⟩ := (hinv.isHealthy_iff t).mp hhealthy
  refine ⟨?_, hup⟩
  by_contra hnone
  push Not at hnone
  obtain ⟨label, hmem, hframe | hlaunch⟩ := hinv.stamp_cases hup
  · exact absurd hage (not_lt.mpr (hnone label hmem _ hframe))
  · exact hproven ⟨hup, ⟨label, hmem, _, hlaunch, hage⟩, hnone⟩

lemma isHealthy_of_healthz {schedule : TimeFrame} {loc : Location} {now t : Clock}
    (h : healthz schedule loc c now t = .healthy) : c.isHealthy t = true := by
  unfold healthz at h
  split_ifs at h with hin hhealthy
  exact hhealthy

end Step

/-- For every run of `Start`, `ReadFrame` and `Stop` at nondecreasing times and every
instant, the health law holds exactly when no launch stands in for a frame. -/
theorem health_law_iff (labels : List CaptureLabel) (c : CaptureProcess) (t : Clock)
    (hrun : Transition.Run CaptureStep newStreamCapturer labels c)
    (hord : (labels.map (fun label => label.1.time)).Pairwise (fun t t' => t ≤ t')) :
    HealthLaw labels c t ↔ ¬ Unproven labels t := by
  have hinv := captureRun_inv hrun
  constructor
  · intro hlaw hunproven
    obtain ⟨⟨label, hmem, r, hr, hrecent⟩, -⟩ :=
      hlaw.recent (hinv.healthy_of_unproven hord hunproven)
    exact absurd (hunproven.2.2 label hmem r hr) (not_le.mpr hrecent)
  · intro hproven
    refine ⟨hinv.recent_of_healthy hproven, ?_⟩
    intro hsilent schedule loc now hreply
    obtain ⟨⟨label, hmem, r, hr, -⟩, -⟩ :=
      hinv.recent_of_healthy hproven (isHealthy_of_healthz hreply)
    rw [hsilent label hmem] at hr
    exact absurd hr (by simp)

/-! ### A stream that closes and one that delivers -/

def clockAt (n : ℕ) : Clock := ⟨(n + 1) * 1000000000, by positivity⟩

/-- Launched, closed at once, and launched again. -/
def restarts : List CaptureLabel :=
  [(.start (.ok []) (clockAt 0), .started .launched),
    (.readFrame ⟨[0], clockAt 1⟩, .read (some (.read .eof))),
    (.stop (clockAt 1), .stopped),
    (.start (.ok []) (clockAt 4), .started .launched)]

/-- The process that writes the pieces of `stdout`, with its stamp. -/
def runningSince (stdout : List Bytes) (stamp : Clock) : CaptureProcess :=
  ⟨⟨some stdout, stamp⟩, true⟩

lemma restarts_run :
    Transition.Run CaptureStep newStreamCapturer restarts (runningSince [] (clockAt 4)) := by
  have hlaunch : CaptureStep newStreamCapturer
      (.start (.ok []) (clockAt 0), .started .launched) (runningSince [] (clockAt 0)) := rfl
  have hfail : CaptureStep (runningSince [] (clockAt 0))
      (.readFrame ⟨[0], clockAt 1⟩, .read (some (.read .eof))) (runningSince [] (clockAt 0)) := rfl
  have hstop : CaptureStep (runningSince [] (clockAt 0)) (.stop (clockAt 1), .stopped)
      ⟨⟨none, clockAt 0⟩, false⟩ := rfl
  have hagain : CaptureStep ⟨⟨none, clockAt 0⟩, false⟩
      (.start (.ok []) (clockAt 4), .started .launched) (runningSince [] (clockAt 4)) := rfl
  exact (((Transition.Run.single hlaunch).snoc hfail).snoc hstop).snoc hagain

/-- The restarting capturer has never delivered a frame and is reported healthy. -/
theorem restarting_reported_healthy :
    Transition.Run CaptureStep newStreamCapturer restarts (runningSince [] (clockAt 4)) ∧
    (restarts.map (fun label => label.1.time)).Pairwise (fun t t' => t ≤ t') ∧
    (∀ label ∈ restarts, label.1.time ≤ clockAt 5) ∧ (∀ label ∈ restarts, frameAt label = none) ∧
    ¬ HealthLaw restarts (runningSince [] (clockAt 4)) (clockAt 5) := by
  have hnone : ∀ label ∈ restarts, frameAt label = none := by decide
  refine ⟨restarts_run, by decide, by decide, hnone, ?_⟩
  intro hlaw
  obtain ⟨⟨label, hmem, r, hr, -⟩, -⟩ := hlaw.recent (by decide)
  rw [hnone label hmem] at hr
  exact absurd hr (by simp)

def delivers : List CaptureLabel :=
  [(.start (.ok [[7]]) (clockAt 0), .started .launched), (.readFrame ⟨[0], clockAt 1⟩, .read none)]

lemma delivers_run :
    Transition.Run CaptureStep newStreamCapturer delivers (runningSince [] (clockAt 1)) := by
  have hlaunch : CaptureStep newStreamCapturer
      (.start (.ok [[7]]) (clockAt 0), .started .launched) (runningSince [[7]] (clockAt 0)) := rfl
  have hread : CaptureStep (runningSince [[7]] (clockAt 0))
      (.readFrame ⟨[0], clockAt 1⟩, .read none) (runningSince [] (clockAt 1)) := rfl
  exact (Transition.Run.single hlaunch).snoc hread

theorem health_law_iff_delivers :
    HealthLaw delivers (runningSince [] (clockAt 1)) (clockAt 9) ↔ ¬ Unproven delivers (clockAt 9) :=
  health_law_iff delivers _ (clockAt 9) delivers_run (by decide)

end IntruderWatch.Proofs
