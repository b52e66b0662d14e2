import IntruderWatch.Proofs.CapturedFrames
import IntruderWatch.Proofs.ScheduleAgreement

/-!
# Processes and connections of the Python capturer

Whatever the calls of `capture_frames` answer, every `ffmpeg` process but the current one has been
sent exactly one signal, and every broker connection but the current one has been closed once. Only
a `terminate` that raises ends the capturer, and it is the one case in which a connection stays open.
-/

namespace IntruderWatch.PyCapturer
open Py Interaction

variable {Image Gray α β : Type}

/-! ### Counting handles -/

def spawned? : CapEvent Image Gray → Option ℕ
  | ⟨.popen, .ok pipe⟩ => some pipe
  | _ => none

def signalled? : CapEvent Image Gray → Option ℕ
  | ⟨.kill pipe, _⟩ | ⟨.terminate pipe, _⟩ => some pipe
  | _ => none

def connected? : CapEvent Image Gray → Option ℕ
  | ⟨.connectRabbitmq _, .ok p⟩ => some p.1
  | _ => none

def disconnected? : CapEvent Image Gray → Option ℕ
  | ⟨.closeConnection connection, _⟩ => some connection
  | _ => none

/-- How often the reading of a call is the handle. -/
def handleCount (f : CapEvent Image Gray → Option ℕ) (t : CapTrace Image Gray) (n : ℕ) : ℕ :=
  (t.filterMap f).count n

section Counting

variable {f : CapEvent Image Gray → Option ℕ} {t t₁ t₂ : CapTrace Image Gray}

@[simp] lemma handleCount_nil (n : ℕ) : handleCount f [] n = 0 := rfl

lemma handleCount_append (t₁ t₂ : CapTrace Image Gray) (n : ℕ) :
    handleCount f (t₁ ++ t₂) n = handleCount f t₁ n + handleCount f t₂ n := by
  rw [handleCount, List.filterMap_append, List.count_append]
  rfl

lemma handleCount_none (h : ∀ c ∈ t, f c = none) (n : ℕ) : handleCount f t n = 0 := by
  rw [handleCount, List.filterMap_eq_nil_iff.mpr h]
  rfl

lemma handleCount_singleton {c : CapEvent Image Gray} {m : ℕ} (h : f c = some m) (n : ℕ) :
    handleCount f [c] n = if m = n then 1 else 0 := by
  rw [handleCount, List.filterMap_cons_some h, List.filterMap_nil, List.count_singleton]
  simp

end Counting

/-! ### Statements that keep track -/

/-- The two variables for the process agree. -/
def Consistent (s : CapturerState Gray) : Prop := s.ffmpegRunning = s.pipe.isSome

/-- Whether the state holds the process. -/
def held (s : CapturerState Gray) (n : ℕ) : ℕ := if s.pipe = some n then 1 else 0

/-- A call that has nothing to do with processes and connections. -/
structure Unrelated (c : CapEvent Image Gray) : Prop where
  spawned : spawned? c = none
  signalled : signalled? c = none
  connected : connected? c = none
  disconnected : disconnected? c = none

/-- What is spawned and not signalled is held, and connections are left alone. -/
structure Tracked (s : CapturerState Gray) (t : CapTrace Image Gray) (s' : CapturerState Gray) :
    Prop where
  consistent : Consistent s'
  processes : ∀ n, handleCount spawned? t n + held s n = handleCount signalled? t n + held s' n
  connected : ∀ c ∈ t, connected? c = none
  disconnected : ∀ c ∈ t, disconnected? c = none
  terminates : ∀ c ∈ t, ∀ pipe, c.1 ≠ .terminate pipe

structure Tracks (x : CapProc Image Gray α) : Prop where
  tracks : ∀ s t r s', Exec x s t r s' → Consistent s → Tracked s t s'

lemma Tracked.refl {s : CapturerState Gray} (hs : Consistent s) :
    Tracked s ([] : CapTrace Image Gray) s :=
  ⟨hs, fun _ => rfl, by simp, by simp, by simp⟩

lemma Tracked.trans {s s₁ s₂ : CapturerState Gray} {t₁ t₂ : CapTrace Image Gray} (h₁ : Tracked s t₁ s₁)
    (h₂ : Tracked s₁ t₂ s₂) : Tracked s (t₁ ++ t₂) s₂ := by
  refine ⟨h₂.consistent, ?_, ?_, ?_, ?_⟩
  · intro n
    have hfirst := h₁.processes n
    have hsecond := h₂.processes n
    rw [handleCount_append, handleCount_append]
    omega
  · intro c hc
    exact (List.mem_append.mp hc).elim (h₁.connected c) (h₂.connected c)
  · intro c hc
    exact (List.mem_append.mp hc).elim (h₁.disconnected c) (h₂.disconnected c)
  · intro c hc
    exact (List.mem_append.mp hc).elim (h₁.terminates c) (h₂.terminates c)

/-- Calls that have nothing to do with the handles. -/
lemma Tracked.unrelated {s s' : CapturerState Gray} {t : CapTrace Image Gray} (hs : Consistent s)
    (hpipe : s'.pipe = s.pipe) (hrunning : s'.ffmpegRunning = s.ffmpegRunning)
    (ht : ∀ c ∈ t, Unrelated c) : Tracked s t s' := by
  refine ⟨?_, ?_, fun c hc => (ht c hc).connected, fun c hc => (ht c hc).disconnected, ?_⟩
  · rw [Consistent, hpipe, hrunning]
    exact hs
  · intro n
    rw [handleCount_none (fun c hc => (ht c hc).spawned),
      handleCount_none (fun c hc => (ht c hc).signalled), held, held, hpipe]
  · rintro ⟨op, answer⟩ hc pipe rfl
    cases (ht _ hc).signalled

namespace Tracks

theorem evaluate (v : Except Exn α) : Tracks (evaluate v : CapProc Image Gray α) := by
  constructor
  intro s t r s' h hs
  obtain ⟨rfl, -, rfl⟩ := exec_evaluate.mp h
  exact .refl hs

theorem pure (a : α) : Tracks (pure a : CapProc Image Gray α) := Tracks.evaluate (.ok a)

theorem get : Tracks (get : CapProc Image Gray (CapturerState Gray)) := by
  constructor
  intro s t r s' h hs
  obtain ⟨rfl, -, rfl⟩ := exec_get.mp h
  exact .refl hs

theorem modify {f : CapturerState Gray → CapturerState Gray} (hpipe : ∀ s, (f s).pipe = s.pipe)
    (hrunning : ∀ s, (f s).ffmpegRunning = s.ffmpegRunning) :
    Tracks (modify f : CapProc Image Gray PUnit) := by
  constructor
  intro s t r s' h hs
  obtain ⟨rfl, -, rfl⟩ := exec_modify.mp h
  exact .unrelated hs (hpipe s) (hrunning s) (by simp)

theorem perform {op : CapCall Image Gray} (hop : ∀ answer, Unrelated ⟨op, answer⟩) :
    Tracks (perform op : CapProc Image Gray (CapAns op)) := by
  constructor
  intro s t r s' h hs
  obtain ⟨answer, rfl, -, rfl⟩ := exec_perform.mp h
  refine .unrelated hs rfl rfl ?_
  intro c hc
  rw [List.mem_singleton.mp hc]
  exact hop answer

theorem bind {x : CapProc Image Gray α} {g : α → CapProc Image Gray β} (hx : Tracks x)
    (hg : ∀ a, Tracks (g a)) : Tracks (x >>= g) := by
  constructor
  intro s t r s' h hs
  rcases exec_bind.mp h with ⟨e, h₁, -⟩ | ⟨t₁, t₂, a, s₁, rfl, h₁, h₂⟩
  · exact hx.tracks _ _ _ _ h₁ hs
  · have hfirst := hx.tracks _ _ _ _ h₁ hs
    exact hfirst.trans ((hg a).tracks _ _ _ _ h₂ hfirst.consistent)

theorem perform_bind {op : CapCall Image Gray} {g : CapAns op → CapProc Image Gray β}
    (hop : ∀ answer, Unrelated ⟨op, answer⟩) (hg : ∀ a, Tracks (g a)) :
    Tracks (Interaction.perform op >>= g) :=
  (Tracks.perform hop).bind hg

theorem evaluate_bind {v : Except Exn α} {g : α → CapProc Image Gray β} (hg : ∀ a, Tracks (g a)) :
    Tracks (Interaction.evaluate v >>= g) :=
  (Tracks.evaluate v).bind hg

/-- A call whose answer may be an exception. -/
theorem attempt {op : CapCall Image Gray} {g : α → CapProc Image Gray β}
    {read : CapAns op → Except Exn α} (hop : ∀ answer, Unrelated ⟨op, answer⟩)
    (hg : ∀ a, Tracks (g a)) :
    Tracks (Interaction.perform op >>= fun answer => Interaction.evaluate (read answer) >>= g) :=
  Tracks.perform_bind hop (fun _ => Tracks.evaluate_bind hg)

end Tracks

/-! ### The parts of the inner loop -/

section Parts

variable (env : CapturerEnv)

/-- A process is started only when none is held. -/
lemma tracks_startFfmpeg : Tracks (startFfmpeg : CapProc Image Gray Unit) := by
  constructor
  intro s t r s' h hs
  rw [startFfmpeg, exec_get_bind] at h
  cases hrunning : s.ffmpegRunning with
  | true =>
    rw [hrunning] at h
    obtain ⟨rfl, -, rfl⟩ := exec_pure.mp h
    exact .refl hs
  | false =>
    rw [hrunning] at h
    have hnone : s.pipe = none := by
      rw [Consistent, hrunning] at hs
      exact Option.not_isSome_iff_eq_none.mp (by rw [← hs]; simp)
    obtain ⟨answer, t₁, rfl, h₁⟩ := exec_perform_bind.mp h
    rcases exec_evaluate_bind.mp h₁ with ⟨e, rfl, rfl, -, rfl⟩ | ⟨pipe, rfl, h₂⟩
    · refine .unrelated hs rfl rfl ?_
      intro c hc
      rw [List.mem_singleton.mp hc]
      exact ⟨rfl, rfl, rfl, rfl⟩
    · obtain ⟨rfl, -, rfl⟩ := exec_modify.mp h₂
      refine ⟨rfl, ?_, by simp [connected?], by simp [disconnected?], by simp⟩
      intro n
      rw [handleCount_singleton (m := pipe) rfl, handleCount_none (by simp [signalled?])]
      simp [held, hnone]

lemma Signals.counts {s : CapturerState Gray} {t : CapTrace Image Gray} (h : Signals s t) :
    (∀ n, handleCount signalled? t n = held s n) ∧
      ∀ c ∈ t, spawned? c = none ∧ connected? c = none ∧ disconnected? c = none ∧
        ∀ pipe, c.1 ≠ .terminate pipe := by
  cases h with
  | unstarted hpipe => exact ⟨fun n => by simp [held, hpipe], by simp⟩
  | @refused pipe e hpipe =>
    refine ⟨?_, by simp [spawned?, connected?, disconnected?]⟩
    intro n
    rw [handleCount_singleton (m := pipe) rfl, held, hpipe]
    simp
  | @killed pipe answer hpipe =>
    refine ⟨?_, by simp [spawned?, connected?, disconnected?]⟩
    intro n
    rw [← List.singleton_append, handleCount_append, handleCount_singleton (m := pipe) rfl,
      handleCount_none (by simp [signalled?]), held, hpipe]
    simp

/-- The process is sent one signal, whatever the calls raise. -/
lemma tracks_killFfmpeg : Tracks (killFfmpeg : CapProc Image Gray Unit) := by
  constructor
  intro s t r s' h hs
  obtain ⟨-, rfl, hkill⟩ := exec_killFfmpeg h
  obtain ⟨hsignals, hothers⟩ := hkill.counts
  refine ⟨rfl, ?_, fun c hc => (hothers c hc).2.1, fun c hc => (hothers c hc).2.2.1,
    fun c hc => (hothers c hc).2.2.2⟩
  intro n
  rw [handleCount_none (fun c hc => (hothers c hc).1), hsignals n]
  simp [held, stopped]

lemma tracks_readChunk (size : ℕ) : Tracks (readChunk size : CapProc Image Gray (List UInt8)) := by
  unfold readChunk
  apply Tracks.get.bind
  intro s
  cases s.pipe with
  | none => exact Tracks.evaluate _
  | some pipe => exact Tracks.attempt (fun _ => ⟨rfl, rfl, rfl, rfl⟩) (fun _ => Tracks.pure _)

lemma tracks_readLoop (frameSize left : ℕ) (rawFrame : List UInt8) :
    Tracks (readLoop frameSize left rawFrame : CapProc Image Gray (List UInt8)) := by
  induction left generalizing rawFrame with
  | zero => exact Tracks.pure _
  | succ left ih =>
    unfold readLoop
    split_ifs
    · apply (tracks_readChunk _).bind
      intro chunk
      split_ifs
      · exact Tracks.pure _
      · exact ih _
    · exact Tracks.pure _

lemma tracks_hasMoved (frameGray : Gray) (last : Option Gray) :
    Tracks (hasMoved env frameGray last : CapProc Image Gray Bool) := by
  cases last with
  | none => exact Tracks.pure true
  | some last => exact Tracks.attempt (fun _ => ⟨rfl, rfl, rfl, rfl⟩) (fun _ => Tracks.pure _)

lemma tracks_countError (errorType : String) :
    Tracks (countError errorType : CapProc Image Gray Unit) :=
  Tracks.perform (fun _ => ⟨rfl, rfl, rfl, rfl⟩)

lemma tracks_countSkipped (reason : String) :
    Tracks (countSkipped reason : CapProc Image Gray Unit) :=
  Tracks.perform (fun _ => ⟨rfl, rfl, rfl, rfl⟩)

lemma tracks_publishFrame (mqChannel : ℕ) (byteData : List UInt8) (nowTs : WallTime) :
    Tracks (env.publishFrame mqChannel byteData nowTs : CapProc Image Gray Unit) := by
  apply Tracks.evaluate_bind
  intro body
  apply Tracks.attempt (fun _ => ⟨rfl, rfl, rfl, rfl⟩)
  intro _
  refine Tracks.bind (Tracks.modify (fun _ => rfl) (fun _ => rfl)) ?_
  intro _
  exact Tracks.perform (fun _ => ⟨rfl, rfl, rfl, rfl⟩)

lemma tracks_sendFrame (mqChannel : ℕ) (frame : Image) (frameGray : Gray) (nowTs : WallTime) :
    Tracks (env.sendFrame mqChannel frame frameGray nowTs : CapProc Image Gray Unit) := by
  have hsleep : Tracks (do evaluate (← sleepFrame) : CapProc Image Gray Unit) :=
    Tracks.perform_bind (fun _ => ⟨rfl, rfl, rfl, rfl⟩) (fun _ => Tracks.evaluate _)
  refine Tracks.bind (Tracks.modify (fun _ => rfl) (fun _ => rfl)) ?_
  intro _
  apply Tracks.attempt (fun _ => ⟨rfl, rfl, rfl, rfl⟩)
  intro encoded
  cases encoded with
  | none => exact (tracks_countError _).bind (fun _ => hsleep)
  | some byteData => exact (tracks_publishFrame env mqChannel byteData nowTs).bind (fun _ => hsleep)

lemma tracks_filterFrame (mqChannel : ℕ) (rawFrame : List UInt8) (nowTs : WallTime) :
    Tracks (env.filterFrame mqChannel rawFrame nowTs : CapProc Image Gray Unit) := by
  apply Tracks.attempt (fun _ => ⟨rfl, rfl, rfl, rfl⟩)
  intro frame
  apply Tracks.attempt (fun _ => ⟨rfl, rfl, rfl, rfl⟩)
  intro frameGray
  apply Tracks.get.bind
  intro s
  apply (tracks_hasMoved env frameGray _).bind
  intro moved
  split_ifs
  · exact tracks_sendFrame env mqChannel frame frameGray nowTs
  · exact (tracks_countSkipped _).bind (fun _ => Tracks.modify (fun _ => rfl) (fun _ => rfl))

lemma tracks_countFrame : Tracks (CapturerEnv.countFrame : CapProc Image Gray Unit) := by
  refine Tracks.bind (Tracks.modify (fun _ => rfl) (fun _ => rfl)) ?_
  intro _
  apply Tracks.perform_bind (fun _ => ⟨rfl, rfl, rfl, rfl⟩)
  intro _
  apply Tracks.get.bind
  intro s
  split_ifs
  · exact Tracks.perform (fun _ => ⟨rfl, rfl, rfl, rfl⟩)
  · exact Tracks.pure _

lemma tracks_handleFrame (mqChannel : ℕ) (rawFrame : List UInt8) :
    Tracks (env.handleFrame mqChannel rawFrame : CapProc Image Gray Unit) := by
  apply tracks_countFrame.bind
  intro _
  apply Tracks.perform_bind (fun _ => ⟨rfl, rfl, rfl, rfl⟩)
  intro nowTs
  apply Tracks.get.bind
  intro s
  split_ifs
  · exact tracks_countSkipped _
  · exact tracks_filterFrame env mqChannel rawFrame nowTs

/-- The body of the inner loop spawns and signals in step with what it holds. -/
lemma tracks_iteration (mqChannel : ℕ) :
    Tracks (env.iteration mqChannel : CapProc Image Gray Bool) := by
  apply Tracks.perform_bind (fun _ => ⟨rfl, rfl, rfl, rfl⟩)
  intro now
  split_ifs
  · apply tracks_startFfmpeg.bind
    intro _
    apply (tracks_readLoop _ _ _).bind
    intro rawFrame
    split_ifs
    · apply (tracks_countError _).bind
      intro _
      exact tracks_killFfmpeg.bind (fun _ => Tracks.pure _)
    · exact (tracks_handleFrame env mqChannel rawFrame).bind (fun _ => Tracks.pure _)
  · have hsleep : Tracks (do
        sleepSeconds 60
        pure true : CapProc Image Gray Bool) :=
      Tracks.perform_bind (fun _ => ⟨rfl, rfl, rfl, rfl⟩) (fun _ => Tracks.pure _)
    apply Tracks.get.bind
    intro s
    split_ifs
    · exact tracks_killFfmpeg.bind (fun _ => hsleep)
    · exact hsleep

end Parts

/-! ### The ends of a session -/

section Ends

variable {env : CapturerEnv} {s s' : CapturerState Gray} {t : CapTrace Image Gray}

/-- The attempt to connect with its outcome. -/
def connectEvent (queueName : Str) (r : Except Exn (ℕ × ℕ)) : CapEvent Image Gray :=
  ⟨.connectRabbitmq queueName, r⟩

lemma handleCount_connect (queueName : Str) (r : Except Exn (ℕ × ℕ)) (n : ℕ) :
    handleCount spawned? [(connectEvent queueName r : CapEvent Image Gray)] n = 0 ∧
      handleCount signalled? [(connectEvent queueName r : CapEvent Image Gray)] n = 0 ∧
      handleCount disconnected? [(connectEvent queueName r : CapEvent Image Gray)] n = 0 :=
  ⟨rfl, rfl, rfl⟩

lemma connectEvent_ne (queueName : Str) (r : Except Exn (ℕ × ℕ)) (pipe : ℕ) (e : Exn) :
    (connectEvent queueName r : CapEvent Image Gray) ≠ ⟨.terminate pipe, Except.error e⟩ := by
  intro h
  cases congrArg Sigma.fst h

lemma exec_openSession {r : Except Exn (ℕ × ℕ)} (h : Exec env.openSession s t r s') :
    s' = { s with pipe := none, ffmpegRunning := false } ∧ t = [connectEvent env.queueName r] := by
  rw [CapturerEnv.openSession, exec_modify_bind] at h
  obtain ⟨answer, t₁, rfl, h₁⟩ := exec_perform_bind.mp h
  obtain ⟨rfl, rfl, rfl⟩ := exec_evaluate.mp h₁
  exact ⟨rfl, rfl⟩

/-- How often the handle is the connection, if there is one. -/
def connectionCount (connection : Option ℕ) (n : ℕ) : ℕ := if connection = some n then 1 else 0

/-- What the `finally` branch does: it sends the one signal, and closes the connection unless that
raises. -/
structure Closes (s : CapturerState Gray) (connection : Option ℕ) (t : CapTrace Image Gray)
    (r : Except Exn Unit) : Prop where
  spawned : ∀ c ∈ t, spawned? c = none
  signalled : ∀ n, handleCount signalled? t n = held s n
  connected : ∀ c ∈ t, connected? c = none
  result : (r = .ok () ∧ (∀ n, handleCount disconnected? t n = connectionCount connection n) ∧
      ∀ c ∈ t, ∀ pipe e, c ≠ ⟨.terminate pipe, Except.error e⟩) ∨
    ∃ pipe e, s.pipe = some pipe ∧ r = .error e ∧ (∀ n, handleCount disconnected? t n = 0) ∧
      t.getLast? = some ⟨.terminate pipe, Except.error e⟩

/-- Closing the connection swallows its exception. -/
lemma exec_disconnect {connection : Option ℕ} {r : Except Exn Unit}
    (h : Exec (CapturerEnv.disconnect connection) s t r s') :
    r = .ok () ∧ (∀ n, handleCount disconnected? t n = connectionCount connection n) ∧
      ∀ c ∈ t, spawned? c = none ∧ signalled? c = none ∧ connected? c = none := by
  cases connection with
  | none =>
    obtain ⟨rfl, rfl, -⟩ := exec_pure.mp h
    exact ⟨rfl, fun _ => rfl, by simp⟩
  | some connection =>
    have hclose : ∀ {t : CapTrace Image Gray} {r s'}, Exec (do
        evaluate (← closeConnection connection) : CapProc Image Gray Unit) s t r s' →
        ∃ answer, t = [⟨.closeConnection connection, answer⟩] := by
      intro t r s' hexec
      obtain ⟨answer, t₁, rfl, h₁⟩ := exec_perform_bind.mp hexec
      obtain ⟨rfl, -, -⟩ := exec_evaluate.mp h₁
      exact ⟨_, rfl⟩
    have hcalls : r = .ok () ∧ ∃ answer, t = [⟨.closeConnection connection, answer⟩] := by
      rcases exec_tryCatch.mp h with ⟨a, h₁, rfl⟩ | ⟨t₁, t₂, e, s₁, rfl, h₁, h₂⟩
      · exact ⟨rfl, hclose h₁⟩
      · obtain ⟨rfl, rfl, -⟩ := exec_pure.mp h₂
        rw [List.append_nil]
        exact ⟨rfl, hclose h₁⟩
    obtain ⟨hr, answer, rfl⟩ := hcalls
    refine ⟨hr, ?_, by simp [spawned?, signalled?, connected?]⟩
    intro n
    rw [handleCount_singleton (m := connection) rfl, connectionCount]
    simp

/-- The process that is held is sent its signal. -/
lemma exec_terminateFfmpeg {r : Except Exn Unit}
    (h : Exec (CapturerEnv.terminateFfmpeg : CapProc Image Gray Unit) s t r s') :
    (s.pipe = none ∧ t = [] ∧ r = .ok ()) ∨
      ∃ pipe, s.pipe = some pipe ∧ t = [⟨.terminate pipe, r⟩] := by
  rw [CapturerEnv.terminateFfmpeg, exec_get_bind] at h
  cases hpipe : s.pipe with
  | none =>
    rw [hpipe] at h
    obtain ⟨rfl, rfl, -⟩ := exec_pure.mp h
    exact Or.inl ⟨rfl, rfl, rfl⟩
  | some pipe =>
    rw [hpipe] at h
    obtain ⟨answer, t₁, rfl, h₁⟩ := exec_perform_bind.mp h
    obtain ⟨rfl, rfl, -⟩ := exec_evaluate.mp h₁
    exact Or.inr ⟨pipe, rfl, rfl⟩

lemma exec_cleanUp {connection : Option ℕ} {r : Except Exn Unit}
    (h : Exec (CapturerEnv.cleanUp connection) s t r s') : Closes s connection t r := by
  rcases exec_bind.mp h with ⟨e, h₁, rfl⟩ | ⟨t₁, t₂, ⟨⟩, s₁, rfl, h₁, h₂⟩
  · rcases exec_terminateFfmpeg h₁ with ⟨-, -, he⟩ | ⟨pipe, hpipe, rfl⟩
    · cases he
    · refine ⟨by simp [spawned?], ?_, by simp [connected?], Or.inr ⟨pipe, e, hpipe, rfl, ?_, rfl⟩⟩
      · intro n
        rw [handleCount_singleton (m := pipe) rfl, held, hpipe]
        simp
      · exact handleCount_none (by simp [disconnected?])
  obtain ⟨hr, hclosed, hothers⟩ := exec_disconnect h₂
  have hfirst : (∀ c ∈ t₁, spawned? c = none ∧ connected? c = none ∧ disconnected? c = none ∧
      ∀ pipe e, c ≠ ⟨.terminate pipe, Except.error e⟩) ∧
      ∀ n, handleCount signalled? t₁ n = held s n := by
    rcases exec_terminateFfmpeg h₁ with ⟨hpipe, rfl, -⟩ | ⟨pipe, hpipe, rfl⟩
    · exact ⟨by simp, fun n => by simp [held, hpipe]⟩
    · refine ⟨?_, ?_⟩
      · intro c hc
        obtain rfl := List.mem_singleton.mp hc
        refine ⟨rfl, rfl, rfl, ?_⟩
        intro pipe' e heq
        cases heq
      · intro n
        rw [handleCount_singleton (m := pipe) rfl, held, hpipe]
        simp
  obtain ⟨hfirst, hsignals⟩ := hfirst
  refine ⟨?_, ?_, ?_, Or.inl ⟨hr, ?_, ?_⟩⟩
  · intro c hc
    exact (List.mem_append.mp hc).elim (fun hc => (hfirst c hc).1) (fun hc => (hothers c hc).1)
  · intro n
    rw [handleCount_append, hsignals, handleCount_none (fun c hc => (hothers c hc).2.1), add_zero]
  · intro c hc
    exact (List.mem_append.mp hc).elim (fun hc => (hfirst c hc).2.1) (fun hc => (hothers c hc).2.2)
  · intro n
    rw [handleCount_append, hclosed, handleCount_none (fun c hc => (hfirst c hc).2.2.1), zero_add]
  · intro c hc pipe e heq
    rcases List.mem_append.mp hc with hc | hc
    · exact (hfirst c hc).2.2.2 pipe e heq
    · have hnone := (hothers c hc).2.1
      rw [heq] at hnone
      cases hnone

/-- A call in front that has nothing to do with the handles. -/
lemma Closes.cons {connection : Option ℕ} {r : Except Exn Unit} {c : CapEvent Image Gray}
    (hc : Unrelated c) (h : Closes s connection t r) : Closes s connection (c :: t) r := by
  have hcount : ∀ {f : CapEvent Image Gray → Option ℕ}, f c = none →
      ∀ n, handleCount f (c :: t) n = handleCount f t n := by
    intro f hf n
    rw [handleCount, List.filterMap_cons_none hf]
    rfl
  refine ⟨?_, ?_, ?_, ?_⟩
  · intro d hd
    rcases List.mem_cons.mp hd with rfl | hd
    · exact hc.spawned
    · exact h.spawned d hd
  · intro n
    rw [hcount hc.signalled, h.signalled]
  · intro d hd
    rcases List.mem_cons.mp hd with rfl | hd
    · exact hc.connected
    · exact h.connected d hd
  · rcases h.result with ⟨hr, hclosed, hnever⟩ | ⟨pipe, e, hpipe, hr, hnone, hlast⟩
    · refine Or.inl ⟨hr, fun n => by rw [hcount hc.disconnected, hclosed], ?_⟩
      intro d hd pipe e heq
      rcases List.mem_cons.mp hd with rfl | hd
      · have hnone := hc.signalled
        rw [heq] at hnone
        cases hnone
      · exact hnever d hd pipe e heq
    · refine Or.inr ⟨pipe, e, hpipe, hr, fun n => by rw [hcount hc.disconnected, hnone], ?_⟩
      rw [List.getLast?_cons, hlast]
      rfl

lemma exec_closeSession {failed : Bool} {connection : Option ℕ} {r : Except Exn Unit}
    (h : Exec (CapturerEnv.closeSession failed connection) s t r s') : Closes s connection t r := by
  unfold CapturerEnv.closeSession at h
  split_ifs at h
  · obtain ⟨answer, t₁, rfl, h₁⟩ := exec_perform_bind.mp h
    exact (exec_cleanUp h₁).cons ⟨rfl, rfl, rfl, rfl⟩
  · exact exec_cleanUp h

end Ends

/-! ### Runs -/

section Runs

variable {env : CapturerEnv} {c c' : Capturer Gray} {calls : CapTrace Image Gray}

/-- The process of the session. -/
def heldProcess (c : Capturer Gray) (n : ℕ) : ℕ :=
  match c.phase with
  | .connected _ _ => held c.state n
  | _ => 0

/-- The connection of the session. -/
def heldConnection (c : Capturer Gray) (n : ℕ) : ℕ :=
  match c.phase with
  | .connected connection _ => connectionCount (some connection) n
  | _ => 0

/-- The calls so far leave no process without its signal and no connection open but those of the
session. A `terminate` that raises is the last call, and leaves its connection open. -/
structure Released (calls : CapTrace Image Gray) (c : Capturer Gray) : Prop where
  processes : ∀ n, handleCount spawned? calls n = handleCount signalled? calls n + heldProcess c n
  connections : c.phase ≠ .ended → ∀ n,
    handleCount connected? calls n = handleCount disconnected? calls n + heldConnection c n
  ended : c.phase = .ended → ∃ pipe e connection,
    calls.getLast? = some ⟨.terminate pipe, Except.error e⟩ ∧ ∀ n, handleCount connected? calls n =
      handleCount disconnected? calls n + connectionCount (some connection) n
  goesOn : c.phase ≠ .ended → ∀ call ∈ calls, ∀ pipe e, call ≠ ⟨.terminate pipe, Except.error e⟩

/-- In a session the two variables for the process agree. -/
structure SessionInv (calls : CapTrace Image Gray) (c : Capturer Gray) : Prop where
  released : Released calls c
  consistent : ∀ connection channel, c.phase = .connected connection channel → Consistent c.state

lemma Tracked.noTerminate {s s' : CapturerState Gray} {t : CapTrace Image Gray} (h : Tracked s t s') :
    ∀ call ∈ t, ∀ pipe e, call ≠ ⟨.terminate pipe, Except.error e⟩ := by
  rintro call hcall pipe e rfl
  exact h.terminates _ hcall pipe rfl

/-- The end of a session after a statement that keeps track. -/
lemma SessionInv.close {before t closing : CapTrace Image Gray} {s s₁ s₂ : CapturerState Gray}
    {connection channel : ℕ} {r : Except Exn Unit}
    (h : SessionInv before ⟨s, .connected connection channel⟩) (ht : Tracked s t s₁)
    (hclose : Closes s₁ (some connection) closing r) :
    SessionInv (before ++ (t ++ closing)) ⟨s₂, phaseAfter r⟩ := by
  have hprocesses := h.released.processes
  have hconnections := h.released.connections (by simp)
  simp only [heldProcess, heldConnection] at hprocesses hconnections
  have hcounts : ∀ n, handleCount spawned? (before ++ (t ++ closing)) n =
      handleCount signalled? (before ++ (t ++ closing)) n := by
    intro n
    have htracked := ht.processes n
    have hbefore := hprocesses n
    simp only [handleCount_append, handleCount_none hclose.spawned, hclose.signalled]
    omega
  have hopened : ∀ n, handleCount connected? (before ++ (t ++ closing)) n =
      handleCount disconnected? before n + connectionCount (some connection) n := by
    intro n
    simp only [handleCount_append, handleCount_none ht.connected, handleCount_none hclose.connected,
      add_zero, hconnections]
  have hclosed : ∀ n, handleCount disconnected? (before ++ (t ++ closing)) n =
      handleCount disconnected? before n + handleCount disconnected? closing n := by
    intro n
    simp only [handleCount_append, handleCount_none ht.disconnected, zero_add]
  rcases hclose.result with ⟨rfl, hdisconnected, hnever⟩ | ⟨pipe, e, -, rfl, hnone, hlast⟩
  · have hidle : phaseAfter (.ok ()) = .idle := rfl
    rw [hidle]
    refine ⟨⟨hcounts, ?_, by simp, ?_⟩, by simp⟩
    · intro _ n
      rw [hopened, hclosed, hdisconnected]
      rfl
    · intro _ call hcall pipe e
      rcases List.mem_append.mp hcall with hcall | hcall
      · exact h.released.goesOn (by simp) call hcall pipe e
      rcases List.mem_append.mp hcall with hcall | hcall
      · exact ht.noTerminate call hcall pipe e
      · exact hnever call hcall pipe e
  · have hended : phaseAfter (.error e) = .ended := rfl
    rw [hended]
    refine ⟨⟨hcounts, by simp, ?_, by simp⟩, by simp⟩
    intro _
    refine ⟨pipe, e, connection, ?_, ?_⟩
    · rw [List.getLast?_append, List.getLast?_append, hlast]
      rfl
    · intro n
      rw [hopened, hclosed, hnone, add_zero]

lemma sessionInv_step {before : CapTrace Image Gray} (h : SessionInv before c)
    (hstep : CapturerStep env c calls c') : SessionInv (before ++ calls) c' := by
  obtain ⟨s, phase⟩ := c
  cases hstep with
  | @opened _ connection channel s' hphase hexec =>
    obtain rfl : phase = .idle := hphase
    obtain ⟨rfl, rfl⟩ := exec_openSession hexec
    refine ⟨⟨?_, ?_, by simp, ?_⟩, fun _ _ _ => rfl⟩
    · intro n
      obtain ⟨hspawned, hsignalled, -⟩ := @handleCount_connect Image Gray env.queueName
        (.ok (connection, channel)) n
      rw [handleCount_append, handleCount_append, hspawned, hsignalled, h.released.processes n]
      simp [heldProcess, held]
    · intro _ n
      obtain ⟨-, -, hdisconnected⟩ := @handleCount_connect Image Gray env.queueName
        (.ok (connection, channel)) n
      rw [handleCount_append, handleCount_append, hdisconnected, h.released.connections (by simp) n,
        handleCount_singleton (m := connection) rfl]
      simp [heldConnection, connectionCount]
    · intro _ call hcall pipe e
      rcases List.mem_append.mp hcall with hcall | hcall
      · exact h.released.goesOn (by simp) call hcall pipe e
      · rw [List.mem_singleton.mp hcall]
        exact connectEvent_ne _ _ pipe e
  | @refused t closing e s₁ s₂ result hphase hexec hclosing =>
    obtain rfl : phase = .idle := hphase
    obtain ⟨rfl, rfl⟩ := exec_openSession hexec
    have hclose := exec_closeSession hclosing
    rcases hclose.result with ⟨rfl, hdisconnected, hnever⟩ | ⟨pipe, e, hpipe, -⟩
    · have hidle : phaseAfter (.ok ()) = .idle := rfl
      rw [hidle]
      refine ⟨⟨?_, ?_, by simp, ?_⟩, by simp⟩
      · intro n
        obtain ⟨hspawned, hsignalled, -⟩ := @handleCount_connect Image Gray env.queueName (.error e) n
        simp only [handleCount_append, handleCount_none hclose.spawned, hclose.signalled, hspawned,
          hsignalled, h.released.processes n]
        simp [heldProcess, held]
      · intro _ n
        obtain ⟨-, -, hclosed⟩ := @handleCount_connect Image Gray env.queueName (.error e) n
        have hopened : handleCount connected?
            [(connectEvent env.queueName (.error e) : CapEvent Image Gray)] n = 0 := rfl
        simp only [handleCount_append, handleCount_none hclose.connected, hdisconnected, hclosed,
          hopened, h.released.connections (by simp) n]
        simp [heldConnection, connectionCount]
      · intro _ call hcall pipe e'
        rcases List.mem_append.mp hcall with hcall | hcall
        · exact h.released.goesOn (by simp) call hcall pipe e'
        rcases List.mem_cons.mp hcall with hcall | hcall
        · rw [hcall]
          exact connectEvent_ne _ _ pipe e'
        · exact hnever call hcall pipe e'
    · -- no process is held before the first spawn of a session
      cases hpipe
  | @looped _ connection channel s' hphase hexec =>
    obtain rfl : phase = .connected connection channel := hphase
    have ht : Tracked s calls s' :=
      (tracks_iteration env channel).tracks _ _ _ _ hexec (h.consistent _ _ rfl)
    refine ⟨⟨?_, ?_, by simp, ?_⟩, fun _ _ _ => ht.consistent⟩
    · intro n
      have hbefore := h.released.processes n
      have htracked := ht.processes n
      simp only [heldProcess] at hbefore ⊢
      rw [handleCount_append, handleCount_append]
      omega
    · intro _ n
      have hbefore := h.released.connections (by simp) n
      rw [handleCount_append, handleCount_append, hbefore, handleCount_none ht.connected,
        handleCount_none ht.disconnected]
      rfl
    · intro _ call hcall
      rcases List.mem_append.mp hcall with hcall | hcall
      · exact h.released.goesOn (by simp) call hcall
      · exact ht.noTerminate call hcall
  | @left t closing connection channel s₁ s₂ result hphase hexec hclosing =>
    obtain rfl : phase = .connected connection channel := hphase
    have ht := (tracks_iteration env channel).tracks _ _ _ _ hexec (h.consistent _ _ rfl)
    exact h.close ht (exec_closeSession hclosing)
  | @failed t closing connection channel e s₁ s₂ result hphase hexec hclosing =>
    obtain rfl : phase = .connected connection channel := hphase
    have ht := (tracks_iteration env channel).tracks _ _ _ _ hexec (h.consistent _ _ rfl)
    exact h.close ht (exec_closeSession hclosing)

end Runs

/-! ### A stream that breaks -/

section Sample

lemma zero_lt_two_pow : 0 < 2 ^ 53 := by
  norm_num

lemma five_lt_two_pow : 5 < 2 ^ 53 := by
  norm_num

def noon : ClockTime := ⟨12, 0, 0, 0, by decide⟩

/-- All day, frames of one pixel, no waiting time. -/
def pixelEnv : CapturerEnv where
  startTime := Proofs.dayStart
  endTime := Proofs.dayEnd
  frameHeight := 1
  frameWidth := 1
  channel := boolInteger true
  queueName := lit "frame_queue"
  minInterval := .ofNat 0 zero_lt_two_pow
  motionThreshold := .ofNat 5 five_lt_two_pow
  jpegQuality := 85
  sha256 := fun _ => List.replicate 32 171

/-- The process starts, its first read raises, and the session is cleaned up. -/
def brokenSession : List (CapTrace Unit Unit) :=
  [[⟨.connectRabbitmq (lit "frame_queue"), Except.ok (7, 8)⟩],
    [⟨.clockTime, noon⟩, ⟨.popen, Except.ok 3⟩,
      ⟨.read 3 3, Except.error .osError⟩] ++
    [⟨.sleep 10, ()⟩, ⟨.terminate 3, Except.ok ()⟩, ⟨.closeConnection 7, Except.ok ()⟩]]

/-- The state in the session, with the process `pipe`. -/
def sessionState (pipe : Option ℕ) : CapturerState Unit :=
  { CapturerState.start Unit with pipe := pipe, ffmpegRunning := pipe.isSome }

lemma brokenSession_run : ∃ c, CapturerRun pixelEnv brokenSession c := by
  have hopen : Exec (pixelEnv.openSession : CapProc Unit Unit (ℕ × ℕ)) (CapturerState.start Unit)
      [⟨.connectRabbitmq (lit "frame_queue"), Except.ok (7, 8)⟩] (.ok (7, 8)) (sessionState none) :=
    .call (.ret _)
  have hbreak : Exec (pixelEnv.iteration 8 : CapProc Unit Unit Bool) (sessionState none)
      [⟨.clockTime, noon⟩, ⟨.popen, Except.ok 3⟩,
        ⟨.read 3 3, Except.error .osError⟩] (.error .osError) (sessionState (some 3)) :=
    .call (.call (.call (.ret _)))
  have hclose : Exec (CapturerEnv.closeSession true (some 7) : CapProc Unit Unit Unit)
      (sessionState (some 3))
      [⟨.sleep 10, ()⟩, ⟨.terminate 3, Except.ok ()⟩, ⟨.closeConnection 7, Except.ok ()⟩] (.ok ())
      (sessionState (some 3)) :=
    .call (.call (.call (.ret _)))
  have hopened := Transition.Run.single (show CapturerStep pixelEnv (Capturer.start Unit) _ _ from
    .opened rfl hopen)
  exact ⟨_, hopened.snoc (.failed rfl hbreak hclose)⟩

end Sample

end IntruderWatch.PyCapturer
