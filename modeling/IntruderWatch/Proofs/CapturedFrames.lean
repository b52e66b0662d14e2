import IntruderWatch.CaptureFrames
import IntruderWatch.Library.JsonDumps

/-!
# Runs of the Python capturer's inner loop

What happens to one frame, with the guard of every branch, and how the loop body comes to a frame.
-/

namespace IntruderWatch.PyCapturer
open Py Interaction

variable {Image Gray : Type}

/-! ### One frame -/

section Frame

variable (env : CapturerEnv) (mqChannel : ℕ)

/-- The bytes of the message for an encoded image. -/
def IsMessageOf (byteData body : List UInt8) : Prop :=
  encode (dumps (env.payload byteData)) = .ok body

/-- Behind the motion filter, in the state where the frame is the reference. -/
inductive SendRuns (frame : Image) (nowTs : WallTime) (s : CapturerState Gray) :
    CapTrace Image Gray → Except Exn Unit → CapturerState Gray → Prop
  | raised {e : Exn} :
      SendRuns frame nowTs s [⟨.imencode frame env.jpegQuality, Except.error e⟩] (.error e) s
  | notEncoded {r : Except Exn Unit} :
      SendRuns frame nowTs s [⟨.imencode frame env.jpegQuality, Except.ok none⟩,
        ⟨.captureErrors "encoding_failed", ()⟩, ⟨.sleepFrame, r⟩] r s
  | notPublished {byteData body : List UInt8} {e : Exn} : IsMessageOf env byteData body →
      SendRuns frame nowTs s [⟨.imencode frame env.jpegQuality, Except.ok (some byteData)⟩,
        ⟨.basicPublish mqChannel env.queueName body, Except.error e⟩] (.error e) s
  | sent {byteData body : List UInt8} {r : Except Exn Unit} : IsMessageOf env byteData body →
      SendRuns frame nowTs s [⟨.imencode frame env.jpegQuality, Except.ok (some byteData)⟩,
        ⟨.basicPublish mqChannel env.queueName body, Except.ok ()⟩, ⟨.framesSent, ()⟩,
        ⟨.sleepFrame, r⟩] r { s with lastSentTime := nowTs, framesSent := s.framesSent + 1 }

/-- The comparison with the reference, for a frame that passes. -/
inductive Passes (gray : Gray) : Option Gray → CapTrace Image Gray → Prop
  | first : Passes gray none []
  | moved {last : Gray} {mse : Binary64} : env.motionThreshold.gt mse = false →
      Passes gray (some last) [⟨.meanSquaredError gray last, Except.ok mse⟩]

/-- Behind the rate limit. -/
inductive FilterRuns (rawFrame : List UInt8) (nowTs : WallTime) (s : CapturerState Gray) :
    CapTrace Image Gray → Except Exn Unit → CapturerState Gray → Prop
  | notReshaped {e : Exn} :
      FilterRuns rawFrame nowTs s [⟨.reshape rawFrame, Except.error e⟩] (.error e) s
  | notConverted {frame : Image} {e : Exn} :
      FilterRuns rawFrame nowTs s [⟨.reshape rawFrame, Except.ok frame⟩,
        ⟨.cvtColor frame, Except.error e⟩] (.error e) s
  | notCompared {frame : Image} {gray last : Gray} {e : Exn} : s.lastFrameGray = some last →
      FilterRuns rawFrame nowTs s [⟨.reshape rawFrame, Except.ok frame⟩,
        ⟨.cvtColor frame, Except.ok gray⟩, ⟨.meanSquaredError gray last, Except.error e⟩]
        (.error e) s
  | duplicate {frame : Image} {gray last : Gray} {mse : Binary64} : s.lastFrameGray = some last →
      env.motionThreshold.gt mse = true →
      FilterRuns rawFrame nowTs s [⟨.reshape rawFrame, Except.ok frame⟩,
        ⟨.cvtColor frame, Except.ok gray⟩, ⟨.meanSquaredError gray last, Except.ok mse⟩,
        ⟨.framesSkipped "duplicate", ()⟩] (.ok ()) { s with lastSentTime := nowTs }
  | passed {frame : Image} {gray : Gray} {t t' : CapTrace Image Gray} {r : Except Exn Unit}
      {s' : CapturerState Gray} : Passes env gray s.lastFrameGray t →
      SendRuns env mqChannel frame nowTs { s with lastFrameGray := some gray } t' r s' →
      FilterRuns rawFrame nowTs s ([⟨.reshape rawFrame, Except.ok frame⟩,
        ⟨.cvtColor frame, Except.ok gray⟩] ++ t ++ t') r s'

/-- The log line of every hundredth frame. -/
def heartbeatOf (s : CapturerState Gray) : CapTrace Image Gray :=
  if (s.framesCaptured + 1) % 100 = 0 then
    [⟨.logHeartbeat s.framesSent (s.framesCaptured + 1), ()⟩]
  else []

/-- The calls in front of the rate limit. -/
def arrival (s : CapturerState Gray) (nowTs : WallTime) : CapTrace Image Gray :=
  ⟨.framesCaptured, ()⟩ :: (heartbeatOf s ++ [⟨.now, nowTs⟩])

def counted (s : CapturerState Gray) : CapturerState Gray :=
  { s with framesCaptured := s.framesCaptured + 1 }

inductive FrameRuns (rawFrame : List UInt8) (s : CapturerState Gray) :
    CapTrace Image Gray → Except Exn Unit → CapturerState Gray → Prop
  | rateLimited {nowTs : WallTime} :
      env.minInterval.gt (nowTs.elapsed s.lastSentTime) = true →
      FrameRuns rawFrame s (arrival s nowTs ++ [⟨.framesSkipped "rate_limit", ()⟩]) (.ok ())
        (counted s)
  | filtered {nowTs : WallTime} {t : CapTrace Image Gray} {r : Except Exn Unit}
      {s' : CapturerState Gray} : env.minInterval.gt (nowTs.elapsed s.lastSentTime) = false →
      FilterRuns env mqChannel rawFrame nowTs (counted s) t r s' →
      FrameRuns rawFrame s (arrival s nowTs ++ t) r s'

variable {env mqChannel} {s s' : CapturerState Gray} {t : CapTrace Image Gray} {r : Except Exn Unit}
  {rawFrame : List UInt8} {nowTs : WallTime} {frame : Image} {gray : Gray}

lemma exec_sendFrame (h : Exec (env.sendFrame mqChannel frame gray nowTs) s t r s') :
    SendRuns env mqChannel frame nowTs { s with lastFrameGray := some gray } t r s' := by
  rw [CapturerEnv.sendFrame, exec_modify_bind] at h
  obtain ⟨answer, t₁, rfl, h₁⟩ := exec_perform_bind.mp h
  rcases exec_evaluate_bind.mp h₁ with ⟨e, rfl, rfl, rfl, rfl⟩ | ⟨encoded, rfl, h₂⟩
  · exact .raised
  cases encoded with
  | none =>
    obtain ⟨⟨⟩, t₂, rfl, h₃⟩ := exec_perform_bind.mp h₂
    obtain ⟨slept, t₃, rfl, h₄⟩ := exec_perform_bind.mp h₃
    obtain ⟨rfl, rfl, rfl⟩ := exec_evaluate.mp h₄
    exact .notEncoded
  | some byteData =>
    obtain ⟨body, hbody⟩ := encode_dumps (env.payload byteData)
    rcases exec_bind.mp h₂ with ⟨e, hpublish, rfl⟩ | ⟨t₂, t₃, ⟨⟩, s₁, rfl, hpublish, hsleep⟩
    · rw [CapturerEnv.publishFrame, hbody] at hpublish
      rcases exec_evaluate_bind.mp hpublish with ⟨e, he, -⟩ | ⟨body', hbody', hpublish⟩
      · cases he
      obtain rfl := Except.ok.inj hbody'
      obtain ⟨published, t₂, rfl, h₃⟩ := exec_perform_bind.mp hpublish
      rcases exec_evaluate_bind.mp h₃ with ⟨e, rfl, rfl, he, rfl⟩ | ⟨⟨⟩, -, h₄⟩
      · obtain rfl := Except.error.inj he
        exact .notPublished hbody
      · rw [exec_modify_bind] at h₄
        cases (exec_perform.mp h₄).choose_spec.2.1
    · rw [CapturerEnv.publishFrame, hbody] at hpublish
      rcases exec_evaluate_bind.mp hpublish with ⟨e, he, -⟩ | ⟨body', hbody', hpublish⟩
      · cases he
      obtain rfl := Except.ok.inj hbody'
      obtain ⟨published, t₂, rfl, h₃⟩ := exec_perform_bind.mp hpublish
      rcases exec_evaluate_bind.mp h₃ with ⟨e, -, -, he, -⟩ | ⟨⟨⟩, rfl, h₄⟩
      · cases he
      rw [exec_modify_bind] at h₄
      obtain ⟨⟨⟩, rfl, -, rfl⟩ := exec_perform.mp h₄
      obtain ⟨slept, t₃, rfl, h₅⟩ := exec_perform_bind.mp hsleep
      obtain ⟨rfl, rfl, rfl⟩ := exec_evaluate.mp h₅
      exact .sent hbody

lemma exec_filterFrame (h : Exec (env.filterFrame mqChannel rawFrame nowTs) s t r s') :
    FilterRuns env mqChannel rawFrame nowTs s t r s' := by
  unfold CapturerEnv.filterFrame at h
  obtain ⟨reshaped, t₁, rfl, h₁⟩ := exec_perform_bind.mp h
  rcases exec_evaluate_bind.mp h₁ with ⟨e, rfl, rfl, rfl, rfl⟩ | ⟨frame, rfl, h₂⟩
  · exact .notReshaped
  obtain ⟨converted, t₂, rfl, h₃⟩ := exec_perform_bind.mp h₂
  rcases exec_evaluate_bind.mp h₃ with ⟨e, rfl, rfl, rfl, rfl⟩ | ⟨gray, rfl, h₄⟩
  · exact .notConverted
  rw [exec_get_bind] at h₄
  cases hlast : s.lastFrameGray with
  | none =>
    rw [hlast] at h₄
    rcases exec_bind.mp h₄ with ⟨e, h₅, -⟩ | ⟨t₃, t₄, moved, s₁, rfl, h₅, h₆⟩
    · cases (exec_pure.mp h₅).2.1
    obtain ⟨rfl, hmoved, hs⟩ := exec_pure.mp h₅
    obtain rfl := Except.ok.inj hmoved
    rw [if_pos rfl, hs] at h₆
    have hpasses : Passes env gray s.lastFrameGray ([] : CapTrace Image Gray) := by
      rw [hlast]
      exact .first
    exact .passed hpasses (exec_sendFrame h₆)
  | some last =>
    rw [hlast] at h₄
    rcases exec_bind.mp h₄ with ⟨e, h₅, rfl⟩ | ⟨t₃, t₄, moved, s₁, rfl, h₅, h₆⟩
    · obtain ⟨compared, t₃, rfl, h₆⟩ := exec_perform_bind.mp h₅
      rcases exec_evaluate_bind.mp h₆ with ⟨e, rfl, rfl, he, rfl⟩ | ⟨mse, -, h₇⟩
      · obtain rfl := Except.error.inj he
        exact .notCompared hlast
      · cases (exec_pure.mp h₇).2.1
    obtain ⟨compared, t₅, rfl, h₇⟩ := exec_perform_bind.mp h₅
    rcases exec_evaluate_bind.mp h₇ with ⟨e, -, -, he, -⟩ | ⟨mse, rfl, h₈⟩
    · cases he
    obtain ⟨rfl, hmoved, hs⟩ := exec_pure.mp h₈
    obtain rfl := Except.ok.inj hmoved
    rw [hs] at h₆
    cases hgt : env.motionThreshold.gt mse with
    | true =>
      rw [hgt] at h₆
      obtain ⟨⟨⟩, t₆, rfl, h₉⟩ := exec_perform_bind.mp h₆
      obtain ⟨rfl, rfl, rfl⟩ := exec_modify.mp h₉
      exact .duplicate hlast hgt
    | false =>
      rw [hgt] at h₆
      have hpasses : Passes env gray s.lastFrameGray
          ([⟨.meanSquaredError gray last, Except.ok mse⟩] : CapTrace Image Gray) := by
        rw [hlast]
        exact .moved hgt
      exact .passed hpasses (exec_sendFrame h₆)

lemma exec_countFrame (h : Exec (CapturerEnv.countFrame : CapProc Image Gray Unit) s t r s') :
    r = .ok () ∧ s' = counted s ∧ t = ⟨.framesCaptured, ()⟩ :: heartbeatOf s := by
  rw [CapturerEnv.countFrame, exec_modify_bind] at h
  obtain ⟨⟨⟩, t₁, rfl, h₁⟩ := exec_perform_bind.mp h
  rw [exec_get_bind] at h₁
  unfold heartbeatOf
  split_ifs at h₁ ⊢
  · obtain ⟨⟨⟩, rfl, rfl, rfl⟩ := exec_perform.mp h₁
    exact ⟨rfl, rfl, rfl⟩
  · obtain ⟨rfl, rfl, rfl⟩ := exec_pure.mp h₁
    exact ⟨rfl, rfl, rfl⟩

lemma exec_handleFrame (h : Exec (env.handleFrame mqChannel rawFrame) s t r s') :
    FrameRuns env mqChannel rawFrame s t r s' := by
  unfold CapturerEnv.handleFrame at h
  rcases exec_bind.mp h with ⟨e, h₁, -⟩ | ⟨t₁, t₂, ⟨⟩, s₁, rfl, h₁, h₂⟩
  · cases (exec_countFrame h₁).1
  obtain ⟨-, rfl, rfl⟩ := exec_countFrame h₁
  obtain ⟨nowTs, t₃, rfl, h₃⟩ := exec_perform_bind.mp h₂
  rw [exec_get_bind] at h₃
  have happend : (⟨.framesCaptured, ()⟩ :: heartbeatOf s : CapTrace Image Gray) ++ ⟨.now, nowTs⟩ :: t₃ =
      arrival s nowTs ++ t₃ := by
    simp [arrival]
  rw [happend]
  split_ifs at h₃ with hgt
  · obtain ⟨⟨⟩, rfl, rfl, rfl⟩ := exec_perform.mp h₃
    exact .rateLimited hgt
  · exact .filtered (Bool.eq_false_iff.mpr hgt) (exec_filterFrame h₃)

end Frame

/-! ### Reading a frame -/

section Reading

variable {s s' : CapturerState Gray} {t : CapTrace Image Gray}

/-- What a call reads from the process. -/
def chunkOf : CapEvent Image Gray → List UInt8
  | ⟨.read _ _, .ok chunk⟩ => chunk.val
  | _ => []

def bytesRead (t : CapTrace Image Gray) : List UInt8 := t.flatMap chunkOf

def IsRead : CapEvent Image Gray → Prop
  | ⟨.read _ _, _⟩ => True
  | _ => False

/-- The last read met the end of the output. -/
def EndOfStream (t : CapTrace Image Gray) : Prop := ∃ c, t.getLast? = some c ∧ IsRead c ∧ chunkOf c = []

/-- The result has everything that was read, and fewer bytes than asked for only at the end of the
output. -/
structure ReadsFrame (frameSize left : ℕ) (rawFrame : List UInt8) (s : CapturerState Gray)
    (t : CapTrace Image Gray) (r : Except Exn (List UInt8)) (s' : CapturerState Gray) : Prop where
  state : s' = s
  reads : ∀ c ∈ t, IsRead c
  bytes : ∀ raw, r = .ok raw → raw = rawFrame ++ bytesRead t
  atMost : ∀ raw, r = .ok raw → rawFrame.length ≤ frameSize → raw.length ≤ frameSize
  complete : ∀ raw, r = .ok raw → frameSize ≤ rawFrame.length + left → raw.length < frameSize →
    EndOfStream t

lemma exec_readChunk {size : ℕ} {r : Except Exn (List UInt8)} (h : Exec (readChunk size) s t r s') :
    s' = s ∧ (∀ c ∈ t, IsRead c) ∧
      ∀ chunk, r = .ok chunk → chunk = bytesRead t ∧ chunk.length ≤ size ∧
        (chunk = [] → EndOfStream t) := by
  rw [readChunk, exec_get_bind] at h
  cases hpipe : s.pipe with
  | none =>
    rw [hpipe] at h
    obtain ⟨rfl, rfl, rfl⟩ := exec_throw.mp h
    exact ⟨rfl, by simp, by simp⟩
  | some pipe =>
    rw [hpipe] at h
    obtain ⟨answer, t₁, rfl, h₁⟩ := exec_perform_bind.mp h
    rcases exec_evaluate_bind.mp h₁ with ⟨e, rfl, rfl, rfl, rfl⟩ | ⟨chunk, rfl, h₂⟩
    · exact ⟨rfl, by simp [IsRead], by simp⟩
    · obtain ⟨rfl, rfl, rfl⟩ := exec_pure.mp h₂
      refine ⟨rfl, by simp [IsRead], ?_⟩
      intro raw hraw
      obtain rfl := Except.ok.inj hraw
      refine ⟨by simp [bytesRead, chunkOf], chunk.2, ?_⟩
      intro hnil
      exact ⟨⟨.read pipe size, Except.ok chunk⟩, rfl, trivial, hnil⟩

lemma exec_readLoop {frameSize left : ℕ} {rawFrame : List UInt8} {r : Except Exn (List UInt8)}
    (h : Exec (readLoop frameSize left rawFrame) s t r s') :
    ReadsFrame frameSize left rawFrame s t r s' := by
  induction left generalizing rawFrame t with
  | zero =>
    obtain ⟨rfl, rfl, rfl⟩ := exec_pure.mp h
    refine ⟨rfl, by simp, by simp [bytesRead], ?_, ?_⟩
    · intro raw hraw hle
      rwa [← Except.ok.inj hraw]
    · intro raw hraw hle hlt
      rw [← Except.ok.inj hraw] at hlt
      omega
  | succ left ih =>
    unfold readLoop at h
    split_ifs at h with hshort
    · rcases exec_bind.mp h with ⟨e, h₁, rfl⟩ | ⟨t₁, t₂, chunk, s₁, rfl, h₁, h₂⟩
      · obtain ⟨rfl, hreads, -⟩ := exec_readChunk h₁
        exact ⟨rfl, hreads, by simp, by simp, by simp⟩
      obtain ⟨rfl, hreads, hchunk⟩ := exec_readChunk h₁
      obtain ⟨hbytes, hsize, hend⟩ := hchunk chunk rfl
      split_ifs at h₂ with hnil
      · obtain ⟨rfl, rfl, rfl⟩ := exec_pure.mp h₂
        rw [List.append_nil]
        refine ⟨rfl, hreads, ?_, ?_, fun _ _ _ _ => hend hnil⟩
        · intro raw hraw
          rw [← Except.ok.inj hraw, ← hbytes, hnil, List.append_nil]
        · intro raw hraw hle
          rwa [← Except.ok.inj hraw]
      · have hrest := ih h₂
        have hpos : 0 < chunk.length := List.length_pos_iff.mpr hnil
        refine ⟨hrest.state, ?_, ?_, ?_, ?_⟩
        · intro c hc
          exact (List.mem_append.mp hc).elim (hreads c) (hrest.reads c)
        · intro raw hraw
          rw [hrest.bytes raw hraw, hbytes, bytesRead, bytesRead, bytesRead, List.flatMap_append,
            List.append_assoc]
        · intro raw hraw hle
          apply hrest.atMost raw hraw
          rw [List.length_append]
          omega
        · intro raw hraw hle hlt
          obtain ⟨c, hlast, hread, hc⟩ := hrest.complete raw hraw
            (by rw [List.length_append]; omega) hlt
          refine ⟨c, ?_, hread, hc⟩
          rw [List.getLast?_append, hlast]
          rfl
    · obtain ⟨rfl, rfl, rfl⟩ := exec_pure.mp h
      refine ⟨rfl, by simp, by simp [bytesRead], ?_, ?_⟩
      · intro raw hraw hle
        rwa [← Except.ok.inj hraw]
      · intro raw hraw hle hlt
        rw [← Except.ok.inj hraw] at hlt
        omega

end Reading

/-! ### The loop body -/

section Iteration

variable (env : CapturerEnv) (mqChannel : ℕ)

def IsKill : CapEvent Image Gray → Prop
  | ⟨.kill _, _⟩ | ⟨.wait _, _⟩ => True
  | _ => False

/-- The state without a process. -/
def stopped (s : CapturerState Gray) : CapturerState Gray := { s with pipe := none, ffmpegRunning := false }

/-- The process that is read: the one of the session, or a new one. -/
inductive Started (s : CapturerState Gray) : CapTrace Image Gray → CapturerState Gray → Prop
  | running : s.ffmpegRunning = true → Started s [] s
  | spawned {pipe : ℕ} : s.ffmpegRunning = false →
      Started s [⟨.popen, Except.ok pipe⟩] { s with pipe := some pipe, ffmpegRunning := true }

/-- One run of the loop body. -/
inductive IterationRuns (s : CapturerState Gray) :
    CapTrace Image Gray → Except Exn Bool → CapturerState Gray → Prop
  | outside {now : ClockTime} {t : CapTrace Image Gray} {s' : CapturerState Gray} :
      (∀ c ∈ t, IsKill c) → (s' = stopped s ∨ s' = s ∧ s.ffmpegRunning = false) →
      IterationRuns s (⟨.clockTime, now⟩ :: t ++ [⟨.sleep 60, ()⟩]) (.ok true) s'
  | notStarted {now : ClockTime} {e : Exn} :
      IterationRuns s [⟨.clockTime, now⟩, ⟨.popen, Except.error e⟩] (.error e) s
  | notRead {now : ClockTime} {t₁ t₂ : CapTrace Image Gray} {e : Exn} {s₁ : CapturerState Gray} :
      Started s t₁ s₁ → (∀ c ∈ t₂, IsRead c) →
      IterationRuns s (⟨.clockTime, now⟩ :: t₁ ++ t₂) (.error e) s₁
  | lost {now : ClockTime} {t₁ t₂ t₃ : CapTrace Image Gray} {s₁ : CapturerState Gray}
      {rawFrame : List UInt8} : Started s t₁ s₁ →
      ReadsFrame env.frameSize.toNat env.frameSize.toNat [] s₁ t₂ (.ok rawFrame) s₁ →
      (rawFrame.length : ℤ) ≠ env.frameSize → (∀ c ∈ t₃, IsKill c) →
      IterationRuns s (⟨.clockTime, now⟩ :: t₁ ++ t₂ ++
        ⟨.captureErrors "network_sync_lost", ()⟩ :: t₃) (.ok false) (stopped s₁)
  | handled {now : ClockTime} {t₁ t₂ t₃ : CapTrace Image Gray} {s₁ s' : CapturerState Gray}
      {rawFrame : List UInt8} {r : Except Exn Unit} : Started s t₁ s₁ →
      ReadsFrame env.frameSize.toNat env.frameSize.toNat [] s₁ t₂ (.ok rawFrame) s₁ →
      (rawFrame.length : ℤ) = env.frameSize → FrameRuns env mqChannel rawFrame s₁ t₃ r s' →
      IterationRuns s (⟨.clockTime, now⟩ :: t₁ ++ t₂ ++ t₃) (r.map (fun _ => true)) s'

variable {env mqChannel} {s s' : CapturerState Gray} {t : CapTrace Image Gray}

lemma exec_startFfmpeg {r : Except Exn Unit} (h : Exec (startFfmpeg : CapProc Image Gray Unit) s t r s') :
    (r = .ok () ∧ Started s t s') ∨ ∃ e, r = .error e ∧ t = [⟨.popen, Except.error e⟩] ∧ s' = s := by
  rw [startFfmpeg, exec_get_bind] at h
  cases hrunning : s.ffmpegRunning with
  | true =>
    rw [hrunning] at h
    obtain ⟨rfl, rfl, rfl⟩ := exec_pure.mp h
    exact Or.inl ⟨rfl, .running hrunning⟩
  | false =>
    rw [hrunning] at h
    obtain ⟨answer, t₁, rfl, h₁⟩ := exec_perform_bind.mp h
    rcases exec_evaluate_bind.mp h₁ with ⟨e, rfl, rfl, rfl, rfl⟩ | ⟨pipe, rfl, h₂⟩
    · exact Or.inr ⟨e, rfl, rfl, rfl⟩
    · obtain ⟨rfl, rfl, rfl⟩ := exec_modify.mp h₂
      exact Or.inl ⟨rfl, .spawned hrunning⟩

/-- The calls that stop the process; a failed `kill` leaves out the `wait`. -/
inductive Signals (s : CapturerState Gray) : CapTrace Image Gray → Prop
  | unstarted : s.pipe = none → Signals s []
  | refused {pipe : ℕ} {e : Exn} : s.pipe = some pipe → Signals s [⟨.kill pipe, Except.error e⟩]
  | killed {pipe : ℕ} {answer : Except Exn Unit} : s.pipe = some pipe →
      Signals s [⟨.kill pipe, Except.ok ()⟩, ⟨.wait pipe, answer⟩]

lemma Signals.isKill (h : Signals s t) : ∀ c ∈ t, IsKill c := by
  cases h with
  | unstarted => simp
  | refused => simp [IsKill]
  | killed => simp [IsKill]

lemma exec_signalFfmpeg {r : Except Exn Unit}
    (h : Exec (signalFfmpeg : CapProc Image Gray Unit) s t r s') : s' = s ∧ Signals s t := by
  rw [signalFfmpeg, exec_get_bind] at h
  cases hpipe : s.pipe with
  | none =>
    rw [hpipe] at h
    obtain ⟨rfl, -, rfl⟩ := exec_throw.mp h
    exact ⟨rfl, .unstarted hpipe⟩
  | some pipe =>
    rw [hpipe] at h
    obtain ⟨answer, t₁, rfl, h₁⟩ := exec_perform_bind.mp h
    rcases exec_evaluate_bind.mp h₁ with ⟨e, rfl, rfl, -, rfl⟩ | ⟨⟨⟩, rfl, h₂⟩
    · exact ⟨rfl, .refused hpipe⟩
    · obtain ⟨waited, t₂, rfl, h₃⟩ := exec_perform_bind.mp h₂
      obtain ⟨rfl, -, rfl⟩ := exec_evaluate.mp h₃
      exact ⟨rfl, .killed hpipe⟩

/-- Stopping the process does not raise. -/
lemma exec_killFfmpeg {r : Except Exn Unit} (h : Exec (killFfmpeg : CapProc Image Gray Unit) s t r s') :
    r = .ok () ∧ s' = stopped s ∧ Signals s t := by
  rcases exec_bind.mp h with ⟨e, h₁, -⟩ | ⟨t₁, t₂, a, s₁, rfl, h₁, h₂⟩
  · rcases exec_tryCatch.mp h₁ with ⟨a, -, he⟩ | ⟨t₁, t₂, e', s₁, rfl, -, h₃⟩
    · cases he
    · cases (exec_pure.mp h₃).2.1
  · obtain ⟨rfl, rfl, rfl⟩ := exec_modify.mp h₂
    rw [List.append_nil]
    rcases exec_tryCatch.mp h₁ with ⟨a, h₃, -⟩ | ⟨t₁, t₂, e, s₂, rfl, h₃, h₄⟩
    · obtain ⟨rfl, hsignals⟩ := exec_signalFfmpeg h₃
      exact ⟨rfl, rfl, hsignals⟩
    · obtain ⟨rfl, -, rfl⟩ := exec_pure.mp h₄
      obtain ⟨rfl, hsignals⟩ := exec_signalFfmpeg h₃
      rw [List.append_nil]
      exact ⟨rfl, rfl, hsignals⟩

lemma exec_iteration {r : Except Exn Bool} (h : Exec (env.iteration mqChannel) s t r s') :
    IterationRuns env mqChannel s t r s' := by
  unfold CapturerEnv.iteration at h
  obtain ⟨now, t₀, rfl, h₀⟩ := exec_perform_bind.mp h
  split_ifs at h₀ with hwithin
  · rcases exec_bind.mp h₀ with ⟨e, hstart, rfl⟩ | ⟨t₁, t₂, ⟨⟩, s₁, rfl, hstart, h₁⟩
    · rcases exec_startFfmpeg hstart with ⟨hr, -⟩ | ⟨e', hr, rfl, rfl⟩
      · cases hr
      · obtain rfl := Except.error.inj hr
        exact .notStarted
    rcases exec_startFfmpeg hstart with ⟨-, hstarted⟩ | ⟨e', hr, -, -⟩
    swap
    · cases hr
    rcases exec_bind.mp h₁ with ⟨e, hread, rfl⟩ | ⟨t₃, t₄, rawFrame, s₂, rfl, hread, h₂⟩
    · have hreads := exec_readLoop hread
      obtain rfl := hreads.state
      exact .notRead hstarted hreads.reads
    have hreads := exec_readLoop hread
    obtain rfl := hreads.state
    split_ifs at h₂ with hsize
    · obtain ⟨⟨⟩, t₅, rfl, h₃⟩ := exec_perform_bind.mp h₂
      rcases exec_bind.mp h₃ with ⟨e, hkill, -⟩ | ⟨t₆, t₇, ⟨⟩, s₃, rfl, hkill, h₄⟩
      · cases (exec_killFfmpeg hkill).1
      obtain ⟨-, rfl, hsignals⟩ := exec_killFfmpeg hkill
      obtain ⟨rfl, rfl, rfl⟩ := exec_pure.mp h₄
      rw [List.append_nil, ← List.append_assoc, ← List.cons_append, ← List.cons_append]
      exact .lost hstarted hreads hsize hsignals.isKill
    · have hsize' : (rawFrame.length : ℤ) = env.frameSize := not_not.mp hsize
      rw [← List.append_assoc, ← List.cons_append, ← List.cons_append]
      rcases exec_bind.mp h₂ with ⟨e, hframe, rfl⟩ | ⟨t₅, t₆, ⟨⟩, s₃, rfl, hframe, h₃⟩
      · exact .handled hstarted hreads hsize' (exec_handleFrame hframe)
      · obtain ⟨rfl, rfl, rfl⟩ := exec_pure.mp h₃
        rw [List.append_nil]
        exact .handled hstarted hreads hsize' (exec_handleFrame hframe)
  · rw [exec_get_bind] at h₀
    have hsleep : ∀ {s t r s'}, Exec (do
        sleepSeconds 60
        pure true : CapProc Image Gray Bool) s t r s' →
        r = .ok true ∧ t = [⟨.sleep 60, ()⟩] ∧ s' = s := by
      intro s t r s' hexec
      obtain ⟨⟨⟩, t₁, rfl, h₁⟩ := exec_perform_bind.mp hexec
      obtain ⟨rfl, rfl, rfl⟩ := exec_pure.mp h₁
      exact ⟨rfl, rfl, rfl⟩
    split_ifs at h₀ with hrunning
    · rcases exec_bind.mp h₀ with ⟨e, hkill, -⟩ | ⟨t₁, t₂, ⟨⟩, s₁, rfl, hkill, h₁⟩
      · cases (exec_killFfmpeg hkill).1
      obtain ⟨-, rfl, hsignals⟩ := exec_killFfmpeg hkill
      obtain ⟨rfl, rfl, rfl⟩ := hsleep h₁
      exact .outside hsignals.isKill (Or.inl rfl)
    · obtain ⟨rfl, rfl, rfl⟩ := hsleep h₀
      rw [Bool.not_eq_true] at hrunning
      have hnone : ∀ c ∈ ([] : CapTrace Image Gray), IsKill c := by simp
      exact @IterationRuns.outside _ _ _ _ _ now [] _ hnone (Or.inr ⟨rfl, hrunning⟩)

end Iteration

end IntruderWatch.PyCapturer
