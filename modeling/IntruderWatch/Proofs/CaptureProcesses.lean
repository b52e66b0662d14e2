import IntruderWatch.CaptureLifecycle

/-!
# One capture process at a time

Each critical section takes a capturer that is stopped, or runs the one live process, to another
such capturer, and `Stop` to a stopped one. Since the fields are reached under the mutex only, this
holds in every interleaving of the two goroutines.
-/

namespace IntruderWatch.Proofs
open Interaction Monitor

/-! ### The sections -/

/-- Stopped without a live process, or running with one. -/
inductive Coherent : GuardedCapturer → List StartedProcess → Prop
  | stopped (time : Time) : Coherent ⟨none, none, false, time⟩ []
  | running (process pipe : ℕ) (time : Time) :
      Coherent ⟨some ⟨some process⟩, some pipe, true, time⟩ [⟨process, false⟩]

namespace Coherent

variable {g : GuardedCapturer} {ps : List StartedProcess}

lemma cmd_iff (h : Coherent g ps) : g.isRunning = true ↔ g.cmd.isSome = true := by
  cases h <;> simp

lemma stdout_iff (h : Coherent g ps) : g.isRunning = true ↔ g.stdout.isSome = true := by
  cases h <;> simp

lemma length_le (h : Coherent g ps) : ps.length ≤ 1 := by
  cases h <;> simp

lemma eq_nil (h : Coherent g ps) (hstopped : g.isRunning = false) : ps = [] := by
  cases h with
  | stopped => rfl
  | running => cases hstopped

lemma setTime (h : Coherent g ps) (time : Time) : Coherent { g with lastFrameTime := time } ps := by
  cases h with
  | stopped => exact .stopped time
  | running process pipe => exact .running process pipe time

end Coherent

section Sections

variable {g g' : GuardedCapturer} {ps : List StartedProcess} {t : ProcessTrace}

abbrev processesAfter (ps : List StartedProcess) (t : ProcessTrace) : List StartedProcess :=
  t.foldl StartedProcess.after ps

lemma start_spec {r : Option StartError} (hg : Coherent g ps)
    (h : Exec GuardedCapturer.start g t (.ok r) g') :
    Coherent g' (processesAfter ps t) ∧ (r.isSome = true → g' = g ∧ processesAfter ps t = ps) := by
  unfold GuardedCapturer.start at h
  rw [exec_get_bind] at h
  cases hg with
  | running process pipe time =>
    obtain ⟨rfl, hr, rfl⟩ := exec_pure.mp h
    obtain rfl := Except.ok.inj hr
    exact ⟨.running process pipe time, by simp⟩
  | stopped time =>
    obtain ⟨opened, t₁, rfl, h₁⟩ := exec_perform_bind.mp h
    cases opened with
    | error err =>
      obtain ⟨rfl, hr, rfl⟩ := exec_pure.mp h₁
      exact ⟨.stopped time, fun _ => ⟨rfl, rfl⟩⟩
    | ok pipe =>
      obtain ⟨spawned, t₂, rfl, h₂⟩ := exec_perform_bind.mp h₁
      cases spawned with
      | error err =>
        obtain ⟨closed, t₃, rfl, h₃⟩ := exec_perform_bind.mp h₂
        obtain ⟨rfl, hr, rfl⟩ := exec_pure.mp h₃
        exact ⟨.stopped time, fun _ => ⟨rfl, rfl⟩⟩
      | ok process =>
        rw [exec_modify_bind, exec_modify_bind, exec_modify_bind] at h₂
        obtain ⟨now, t₃, rfl, h₃⟩ := exec_perform_bind.mp h₂
        rw [exec_modify_bind] at h₃
        obtain ⟨rfl, hr, rfl⟩ := exec_pure.mp h₃
        obtain rfl := Except.ok.inj hr
        exact ⟨.running process pipe _, by simp⟩

lemma stampFrame_spec (hg : Coherent g ps) (h : Exec GuardedCapturer.stampFrame g t (.ok ()) g') :
    Coherent g' (processesAfter ps t) ∧ g'.isRunning = g.isRunning := by
  unfold GuardedCapturer.stampFrame at h
  obtain ⟨now, t₁, rfl, h₁⟩ := exec_perform_bind.mp h
  obtain ⟨rfl, -, rfl⟩ := exec_modify.mp h₁
  exact ⟨hg.setTime _, rfl⟩

lemma currentStdout_spec {r : Option ℕ}
    (h : Exec GuardedCapturer.currentStdout g t (.ok r) g') : t = [] ∧ g' = g := by
  unfold GuardedCapturer.currentStdout at h
  rw [exec_get_bind] at h
  obtain ⟨rfl, -, rfl⟩ := exec_pure.mp h
  exact ⟨rfl, rfl⟩

lemma closeStdout_spec {pipe : ℕ} {r : Except Empty Unit} (hpipe : g.stdout = some pipe)
    (h : Exec GuardedCapturer.closeStdout g t r g') :
    ∃ answer, t = [⟨.closePipe pipe, answer⟩] ∧ r = .ok () ∧ g' = { g with stdout := none } := by
  unfold GuardedCapturer.closeStdout at h
  rw [exec_get_bind, hpipe] at h
  obtain ⟨answer, t₁, rfl, h₁⟩ := exec_perform_bind.mp h
  obtain ⟨rfl, rfl, rfl⟩ := exec_modify.mp h₁
  exact ⟨answer, rfl, rfl, rfl⟩

lemma reapCmd_spec {process : ℕ} {r : Except Empty Unit} (hcmd : g.cmd = some ⟨some process⟩)
    (h : Exec GuardedCapturer.reapCmd g t r g') :
    ∃ killed waited, t = [⟨.kill process, killed⟩, ⟨.wait process, waited⟩] ∧ r = .ok () ∧
      g' = { g with cmd := none } := by
  unfold GuardedCapturer.reapCmd at h
  rw [exec_get_bind, hcmd] at h
  obtain ⟨killed, t₁, rfl, h₁⟩ := exec_perform_bind.mp h
  obtain ⟨waited, t₂, rfl, h₂⟩ := exec_perform_bind.mp h₁
  obtain ⟨rfl, rfl, rfl⟩ := exec_modify.mp h₂
  exact ⟨killed, waited, rfl, rfl, rfl⟩

lemma stop_spec (hg : Coherent g ps) (h : Exec GuardedCapturer.stop g t (.ok ()) g') :
    Coherent g' (processesAfter ps t) ∧ g'.isRunning = false := by
  unfold GuardedCapturer.stop at h
  rw [exec_get_bind] at h
  cases hg with
  | stopped time =>
    obtain ⟨rfl, -, rfl⟩ := exec_pure.mp h
    exact ⟨.stopped time, rfl⟩
  | running process pipe time =>
    rcases exec_bind.mp h with ⟨e, -, he⟩ | ⟨t₁, t₂, _, g₁, rfl, hclose, h₁⟩
    · exact e.elim
    obtain ⟨closed, rfl, -, rfl⟩ := closeStdout_spec rfl hclose
    rcases exec_bind.mp h₁ with ⟨e, -, he⟩ | ⟨t₃, t₄, _, g₂, rfl, hreap, h₂⟩
    · exact e.elim
    obtain ⟨killed, waited, rfl, -, rfl⟩ := reapCmd_spec rfl hreap
    obtain ⟨rfl, -, rfl⟩ := exec_modify.mp h₂
    refine ⟨?_, rfl⟩
    -- the process that was killed is gone once it has been waited for
    simpa [processesAfter, StartedProcess.after] using Coherent.stopped time

end Sections

/-! ### The goroutines -/

section Runs

/-- `main` is behind its last `Stop`. -/
def Goroutines.pastStop (k : Goroutines) : Prop :=
  k.main = .closing ∨ k.main = .returned

/-- No process remains once `main` is behind its last `Stop`. -/
structure Supervised (k : Goroutines) (t : ProcessTrace) (g : GuardedCapturer) : Prop where
  coherent : Coherent g (liveProcesses t)
  pastStop : Goroutines.pastStop k → g.isRunning = false

lemma liveProcesses_append (t t' : ProcessTrace) :
    liveProcesses (t ++ t') = processesAfter (liveProcesses t) t' :=
  List.foldl_append

/-- `main` comes to its last lines through its last `Stop` only. -/
lemma pastStop_own {k k' : Goroutines} {i : Goroutine} {a : GoroutineAction}
    (h : GoroutineStep k i a k') (hpast : Goroutines.pastStop k') : Goroutines.pastStop k := by
  cases h with
  | signal => exact hpast
  | main hmain =>
    obtain ⟨main, signal, cancelled⟩ := k
    cases hmain with
    | close => exact Or.inl rfl
    | outer | inner => cases cancelled <;> simp [Goroutines.pastStop] at hpast
    | check => rename_i lost; cases lost <;> simp [Goroutines.pastStop] at hpast
    | schedule => rename_i within; cases within <;> simp [Goroutines.pastStop] at hpast
    | _ => simp [Goroutines.pastStop] at hpast

/-- Each section keeps the invariant; a `Start` of `main` comes before its last `Stop`. -/
theorem supervised_preserved : Preserved captureSystem Supervised := by
  constructor
  · intro k t g i a k' hs hown
    exact ⟨hs.coherent, fun hpast => hs.pastStop (pastStop_own hown hpast)⟩
  · intro k t g i m t' r g' k' hs hexec hreturns
    cases hreturns with
    | started hmain =>
      obtain ⟨hcoherent, -⟩ := start_spec hs.coherent hexec
      exact ⟨by rwa [liveProcesses_append], fun hpast => by simp [Goroutines.pastStop] at hpast⟩
    | startFailed hmain =>
      obtain ⟨hcoherent, -⟩ := start_spec hs.coherent hexec
      exact ⟨by rwa [liveProcesses_append], fun hpast => by simp [Goroutines.pastStop] at hpast⟩
    | noStdout hmain | stdout hmain =>
      obtain ⟨rfl, rfl⟩ := currentStdout_spec hexec
      refine ⟨?_, fun hpast => by simp [Goroutines.pastStop] at hpast⟩
      rw [List.append_nil]
      exact hs.coherent
    | stamped hmain =>
      obtain ⟨hcoherent, -⟩ := stampFrame_spec hs.coherent hexec
      exact ⟨by rwa [liveProcesses_append], fun hpast => by simp [Goroutines.pastStop] at hpast⟩
    | stopped hmain | signalStopped hmain =>
      obtain ⟨hcoherent, hstopped⟩ := stop_spec hs.coherent hexec
      exact ⟨by rwa [liveProcesses_append], fun _ => hstopped⟩

theorem supervised_start : Supervised Goroutines.start [] GuardedCapturer.new :=
  ⟨.stopped 0, fun _ => rfl⟩

variable {labels : List (Label captureSystem)} {s : Monitor.State captureSystem}

/-- Whenever the mutex is free, `isRunning`, `cmd` and `stdout` agree, and of the started processes
at most one has not been killed and waited for, and none after the last `Stop` of `main`; a `Start`
that fails leaves the fields and the processes as they were. -/
theorem one_process (h : CaptureRun labels s) :
    (s.holder = none →
      ((s.guarded.isRunning = true ↔ s.guarded.cmd.isSome = true) ∧
        (s.guarded.isRunning = true ↔ s.guarded.stdout.isSome = true)) ∧
      (liveProcesses (innerCalls labels)).length ≤ 1 ∧
      (Goroutines.pastStop s.control → liveProcesses (innerCalls labels) = [])) ∧
    ∀ i err s', Monitor.Step captureSystem s (.leave i .start (some err)) s' →
      s'.guarded = s.guarded ∧ ∃ before, Follows s labels before ∧
        liveProcesses (innerCalls labels) = liveProcesses before := by
  constructor
  · intro hfree
    have hs := invariant_free supervised_preserved supervised_start h hfree
    refine ⟨⟨hs.coherent.cmd_iff, hs.coherent.stdout_iff⟩, hs.coherent.length_le, ?_⟩
    intro hpast
    exact hs.coherent.eq_nil (hs.pastStop hpast)
  · intro i err s' hstep
    obtain ⟨before, past, hfollows, hcalls, hs, hexec⟩ :=
      leave_exec supervised_preserved supervised_start h hstep
    obtain ⟨-, hfailed⟩ := start_spec hs.coherent hexec
    obtain ⟨hguarded, hlive⟩ := hfailed rfl
    refine ⟨hguarded, before, hfollows, ?_⟩
    rw [hcalls, liveProcesses_append, hlive]

/-- The calls of a `Start` whose process cannot be spawned. -/
def spawnFails : ProcessTrace :=
  [⟨.stdoutPipe, Except.ok 3⟩, ⟨.startCmd, Except.error "ffmpeg: not found"⟩,
    ⟨.closePipe 3, (none : Option String)⟩]

/-- The calls of the `Start` after it, and those of the `Stop` of the signal handler. -/
def startsProcess : ProcessTrace :=
  [⟨.stdoutPipe, Except.ok 4⟩, ⟨.startCmd, Except.ok 9⟩, ⟨.now, (⟨1, by norm_num⟩ : Clock)⟩]

def stopsProcess : ProcessTrace :=
  [⟨.closePipe 4, (none : Option String)⟩, ⟨.kill 9, (none : Option String)⟩,
    ⟨.wait 9, (none : Option String)⟩]

/-- `main` goes from the head of its inner loop into `Start`. -/
lemma enters_start {labels : List (Label captureSystem)} {signal : SignalPoint}
    {guarded : GuardedCapturer} (h : CaptureRun labels ⟨⟨.inner, signal, false⟩, guarded, none⟩) :
    ∃ labels', innerCalls labels' = innerCalls labels ∧
      CaptureRun labels' ⟨⟨.starting, signal, false⟩, guarded,
        some ⟨.main, .start, [], GuardedCapturer.start.start guarded⟩⟩ := by
  have h₁ := h.snoc (show Monitor.Step captureSystem _ (.own .main .testContext)
    ⟨⟨.checking, signal, false⟩, guarded, none⟩ from .own (by simp) (.main .inner))
  have h₂ := h₁.snoc (show Monitor.Step captureSystem _ (.own .main (.checkBroker false))
    ⟨⟨.scheduling, signal, false⟩, guarded, none⟩ from .own (by simp) (.main .check))
  have h₃ := h₂.snoc (show Monitor.Step captureSystem _ (.own .main (.checkSchedule true))
    ⟨⟨.starting, signal, false⟩, guarded, none⟩ from .own (by simp) (.main .schedule))
  refine ⟨_, ?_, h₃.snoc (.enter rfl (.start rfl))⟩
  simp only [innerCalls_snoc]
  simp [Label.call?]

/-- The first `Start`, behind its calls. -/
def spawnFailed : Monitor.State captureSystem :=
  ⟨⟨.starting, .waiting, false⟩, .new, some ⟨.main, .start, spawnFails,
    .ret (.ok (some (.spawn "ffmpeg: not found")), .new)⟩⟩

lemma spawnFails_run : ∃ labels, innerCalls labels = spawnFails ∧ CaptureRun labels spawnFailed := by
  have h₁ : CaptureRun _ ⟨⟨.connecting, .waiting, false⟩, .new, none⟩ :=
    Transition.Run.single (.own (by simp) (.main .outer))
  obtain ⟨labels, hcalls, h₂⟩ := enters_start (h₁.snoc (.own (by simp) (.main .connected)))
  have h₃ := h₂.snoc (show Monitor.Step captureSystem _ (.called ⟨.stdoutPipe, Except.ok 3⟩) _ from
    .called rfl)
  have h₄ := h₃.snoc (show Monitor.Step captureSystem _
    (.called ⟨.startCmd, Except.error "ffmpeg: not found"⟩) _ from .called rfl)
  have h₅ := h₄.snoc (show Monitor.Step captureSystem _
    (.called ⟨.closePipe 3, (none : Option String)⟩) _ from .called rfl)
  refine ⟨_, ?_, h₅⟩
  simp only [innerCalls_snoc, hcalls]
  rfl

def runningCapturer : GuardedCapturer := ⟨some ⟨some 9⟩, some 4, true, 1⟩

/-- After a failed `Start`, `main` starts process 9. -/
lemma startsProcess_run {labels : List (Label captureSystem)}
    (h : CaptureRun labels ⟨⟨.startFailed, .waiting, false⟩, .new, none⟩) :
    ∃ labels', innerCalls labels' = innerCalls labels ++ startsProcess ∧
      CaptureRun labels' ⟨⟨.openingFrame, .waiting, false⟩, runningCapturer, none⟩ := by
  obtain ⟨labels', hcalls, h₁⟩ :=
    enters_start (h.snoc (show Monitor.Step captureSystem _ (.own .main .pause)
      ⟨⟨.inner, .waiting, false⟩, .new, none⟩ from .own (by simp) (.main .startFailed)))
  have h₂ := h₁.snoc (show Monitor.Step captureSystem _ (.called ⟨.stdoutPipe, Except.ok 4⟩) _ from
    .called rfl)
  have h₃ := h₂.snoc (show Monitor.Step captureSystem _ (.called ⟨.startCmd, Except.ok 9⟩) _ from
    .called rfl)
  have h₄ := h₃.snoc (show Monitor.Step captureSystem _
    (.called ⟨.now, (⟨1, by norm_num⟩ : Clock)⟩) _ from .called rfl)
  refine ⟨_, ?_, h₄.snoc (.leave rfl (.started rfl))⟩
  simp only [innerCalls_snoc, hcalls]
  simp [Label.call?, startsProcess]

/-- The signal handler stops it, while `main` is on its way to the next frame. -/
lemma stopsProcess_run {labels : List (Label captureSystem)}
    (h : CaptureRun labels ⟨⟨.openingFrame, .waiting, false⟩, runningCapturer, none⟩) :
    ∃ labels', innerCalls labels' = innerCalls labels ++ stopsProcess ∧
      CaptureRun labels' ⟨⟨.openingFrame, .closing, true⟩, ⟨none, none, false, 1⟩, none⟩ := by
  have h₁ := h.snoc (show Monitor.Step captureSystem _ (.own .signal .cancel) _ from
    .own (by simp) (.signal .cancel))
  have h₂ := h₁.snoc (show Monitor.Step captureSystem _ (.enter .signal .stop) _ from
    .enter rfl (.signalStop rfl))
  have h₃ := h₂.snoc (show Monitor.Step captureSystem _
    (.called ⟨.closePipe 4, (none : Option String)⟩) _ from .called rfl)
  have h₄ := h₃.snoc (show Monitor.Step captureSystem _
    (.called ⟨.kill 9, (none : Option String)⟩) _ from .called rfl)
  have h₅ := h₄.snoc (show Monitor.Step captureSystem _
    (.called ⟨.wait 9, (none : Option String)⟩) _ from .called rfl)
  refine ⟨_, ?_, h₅.snoc (.leave rfl (.signalStopped rfl))⟩
  simp only [innerCalls_snoc]
  simp [Label.call?, stopsProcess]

/-- A `Start` that fails leaves a stopped capturer; the process of the next one is the only one, until
the signal handler has stopped it. -/
theorem one_process_signalStops : ∃ failed started stopped s' s₁ s₂,
    (CaptureRun failed spawnFailed ∧ Monitor.Step captureSystem spawnFailed
      (.leave .main .start (some (.spawn "ffmpeg: not found"))) s' ∧
      s'.guarded = spawnFailed.guarded) ∧
    (CaptureRun started s₁ ∧ s₁.guarded.isRunning = true ∧
      liveProcesses (innerCalls started) = [⟨9, false⟩] ∧
      (s₁.guarded.isRunning = true ↔ s₁.guarded.stdout.isSome = true) ∧
      (liveProcesses (innerCalls started)).length ≤ 1) ∧
    CaptureRun stopped s₂ ∧ s₂.control.signal = .closing ∧
      liveProcesses (innerCalls stopped) = [] ∧
      (s₂.guarded.isRunning = true ↔ s₂.guarded.stdout.isSome = true) ∧
      (liveProcesses (innerCalls stopped)).length ≤ 1 := by
  obtain ⟨failed, hfailed, hrun⟩ := spawnFails_run
  have hleave : Monitor.Step captureSystem spawnFailed
      (.leave .main .start (some (.spawn "ffmpeg: not found")))
      ⟨⟨.startFailed, .waiting, false⟩, .new, none⟩ := .leave rfl (.startFailed rfl)
  obtain ⟨started, hstarted, hrun₁⟩ := startsProcess_run (hrun.snoc hleave)
  obtain ⟨stopped, hstopped, hrun₂⟩ := stopsProcess_run hrun₁
  have hlive : liveProcesses (innerCalls started) = [⟨9, false⟩] := by
    rw [hstarted, innerCalls_snoc, hfailed]
    rfl
  have hgone : liveProcesses (innerCalls stopped) = [] := by
    rw [hstopped, hstarted, innerCalls_snoc, hfailed]
    rfl
  obtain ⟨⟨-, hstdout₁⟩, hlength₁, -⟩ := (one_process hrun₁).1 rfl
  obtain ⟨⟨-, hstdout₂⟩, hlength₂, -⟩ := (one_process hrun₂).1 rfl
  exact ⟨failed, started, stopped, _, _, _, ⟨hrun, hleave, ((one_process hrun).2 _ _ _ hleave).1⟩,
    ⟨hrun₁, rfl, hlive, hstdout₁, hlength₁⟩, hrun₂, rfl, hgone, hstdout₂, hlength₂⟩

end Runs

end IntruderWatch.Proofs
