import IntruderWatch.Library.Histories
import IntruderWatch.Proofs.CapturedFrames
import IntruderWatch.Proofs.CaptureSessions

/-!
# Frames of the Python capturer are never shifted

Reads return any number of bytes, sessions end at any call, and processes come and go. Nevertheless
every frame that is looked at is the next full block of what the current process has written, every
message holds the picture of such a block, and a lost synchronisation is only reported at the end of
the output.
-/

namespace IntruderWatch.PyCapturer
open Py Interaction History

variable {Image Gray : Type}

/-! ### The bytes of the current process -/

/-- A new process starts a new stream. -/
def streamStep (bytes : List UInt8) : CapEvent Image Gray → List UInt8
  | ⟨.popen, .ok _⟩ => []
  | c => bytes ++ chunkOf c

/-- What has been read from the latest process. -/
def streamBytes (calls : CapTrace Image Gray) : List UInt8 := calls.foldl streamStep []

/-- A call that neither starts a process nor reads. -/
def Calm (c : CapEvent Image Gray) : Prop := ∀ bytes, streamStep bytes c = bytes

section Stream

variable {past t : CapTrace Image Gray} {c : CapEvent Image Gray}

lemma streamBytes_append (past t : CapTrace Image Gray) :
    streamBytes (past ++ t) = t.foldl streamStep (streamBytes past) :=
  List.foldl_append

lemma streamBytes_calm (h : ∀ c ∈ t, Calm c) : streamBytes (past ++ t) = streamBytes past := by
  rw [streamBytes_append]
  exact foldl_of_still h _

lemma streamStep_read (h : IsRead c) (bytes : List UInt8) : streamStep bytes c = bytes ++ chunkOf c := by
  obtain ⟨op, answer⟩ := c
  cases op with
  | read => rfl
  | _ => exact h.elim

lemma streamBytes_reads (h : ∀ c ∈ t, IsRead c) :
    streamBytes (past ++ t) = streamBytes past ++ bytesRead t := by
  rw [streamBytes_append]
  generalize streamBytes past = bytes
  induction t generalizing bytes with
  | nil => simp [bytesRead]
  | cons c t ih =>
    rw [List.foldl_cons, streamStep_read (h c List.mem_cons_self),
      ih (fun d hd => h d (List.mem_cons_of_mem _ hd)), bytesRead, bytesRead, List.flatMap_cons,
      List.append_assoc]

lemma streamBytes_popen (past : CapTrace Image Gray) (pipe : ℕ) :
    streamBytes (past ++ [⟨.popen, Except.ok pipe⟩]) = [] := by
  rw [streamBytes_append]
  rfl

lemma calm_of_unread (hchunk : chunkOf c = []) (hpopen : spawned? c = none) : Calm c := by
  intro bytes
  obtain ⟨op, answer⟩ := c
  cases op with
  | popen =>
    cases answer with
    | ok pipe => cases hpopen
    | error e => exact List.append_nil bytes
  | _ => exact (congrArg (bytes ++ ·) hchunk).trans (List.append_nil bytes)

lemma IsKill.calm (h : IsKill c) : Calm c := by
  obtain ⟨op, answer⟩ := c
  cases op with
  | kill => exact calm_of_unread rfl rfl
  | wait => exact calm_of_unread rfl rfl
  | _ => exact h.elim

end Stream

/-! ### The law -/

/-- The block is the last one of the stream, which is a sequence of whole blocks. -/
def Framed (frameSize : ℤ) (past : CapTrace Image Gray) (rawFrame : List UInt8) : Prop :=
  ∃ earlier, streamBytes past = earlier ++ rawFrame ∧ (rawFrame.length : ℤ) = frameSize ∧
    ∃ k : ℕ, (earlier.length : ℤ) = k * frameSize

/-- The message is that of the picture in the block. -/
structure PublishesBlock (env : CapturerEnv) (past : CapTrace Image Gray) (routingKey : Str)
    (body : List UInt8) : Prop where
  queue : routingKey = env.queueName
  block : ∃ rawFrame frame byteData, Framed env.frameSize past rawFrame ∧
    ⟨.reshape rawFrame, Except.ok frame⟩ ∈ past ∧
    ⟨.imencode frame env.jpegQuality, Except.ok (some byteData)⟩ ∈ past ∧
    IsMessageOf env byteData body

def AlignedLaw (env : CapturerEnv) (past : CapTrace Image Gray) : CapEvent Image Gray → Prop
  | ⟨.reshape rawFrame, _⟩ => Framed env.frameSize past rawFrame
  | ⟨.basicPublish _ routingKey body, _⟩ => PublishesBlock env past routingKey body
  | ⟨.captureErrors errorType, _⟩ =>
    errorType = "network_sync_lost" → 0 ≤ env.frameSize → EndOfStream past
  | _ => True

section Frame

variable {env : CapturerEnv} {mqChannel : ℕ} {past : CapTrace Image Gray} {rawFrame : List UInt8}
  {s s' : CapturerState Gray} {t : CapTrace Image Gray} {r : Except Exn Unit} {nowTs : WallTime}

lemma Framed.append {frameSize : ℤ} (h : Framed frameSize past rawFrame) (ht : ∀ c ∈ t, Calm c) :
    Framed frameSize (past ++ t) rawFrame := by
  rw [Framed, streamBytes_calm ht]
  exact h

lemma calm_heartbeat : ∀ c ∈ (heartbeatOf s : CapTrace Image Gray), Calm c ∧ ∀ past, AlignedLaw env past c := by
  unfold heartbeatOf
  split_ifs
  · intro c hc
    rw [List.mem_singleton.mp hc]
    exact ⟨calm_of_unread rfl rfl, fun _ => trivial⟩
  · simp

lemma calm_arrival : ∀ c ∈ (arrival s nowTs : CapTrace Image Gray), Calm c ∧ ∀ past, AlignedLaw env past c := by
  intro c hc
  rcases List.mem_cons.mp hc with rfl | hc
  · exact ⟨calm_of_unread rfl rfl, fun _ => trivial⟩
  rcases List.mem_append.mp hc with hc | hc
  · exact calm_heartbeat c hc
  · rw [List.mem_singleton.mp hc]
    exact ⟨calm_of_unread rfl rfl, fun _ => trivial⟩

lemma calm_passes {gray : Gray} {last : Option Gray} (h : Passes env gray last t) :
    ∀ c ∈ t, Calm c ∧ ∀ past, AlignedLaw env past c := by
  cases h with
  | first => simp
  | moved =>
    intro c hc
    rw [List.mem_singleton.mp hc]
    exact ⟨calm_of_unread rfl rfl, fun _ => trivial⟩

lemma calm_send {frame : Image} (h : SendRuns env mqChannel frame nowTs s t r s') : ∀ c ∈ t, Calm c := by
  have hcalm : ∀ {c : CapEvent Image Gray}, chunkOf c = [] ∧ spawned? c = none → Calm c :=
    fun hc => calm_of_unread hc.1 hc.2
  intro c hc
  apply hcalm
  cases h <;> simp only [List.mem_cons, List.not_mem_nil, or_false] at hc
  · rw [hc]
    exact ⟨rfl, rfl⟩
  · rcases hc with rfl | rfl | rfl <;> exact ⟨rfl, rfl⟩
  · rcases hc with rfl | rfl <;> exact ⟨rfl, rfl⟩
  · rcases hc with rfl | rfl | rfl | rfl <;> exact ⟨rfl, rfl⟩

lemma along_send {frame : Image} (hframed : Framed env.frameSize past rawFrame)
    (hreshaped : ⟨.reshape rawFrame, Except.ok frame⟩ ∈ past)
    (h : SendRuns env mqChannel frame nowTs s t r s') :
    Along (fun before => AlignedLaw env (past ++ before)) t := by
  have hencoded : ∀ (byteData : List UInt8), ∀ c ∈ ([⟨.imencode frame env.jpegQuality,
      Except.ok (some byteData)⟩] : CapTrace Image Gray), Calm c := by
    intro byteData c hc
    rw [List.mem_singleton.mp hc]
    exact calm_of_unread rfl rfl
  have hpublishes : ∀ {byteData body : List UInt8}, IsMessageOf env byteData body →
      PublishesBlock env (past ++ [⟨.imencode frame env.jpegQuality, Except.ok (some byteData)⟩])
        env.queueName body := by
    intro byteData body hbody
    exact ⟨rfl, rawFrame, frame, byteData, hframed.append (hencoded byteData),
      List.mem_append_left _ hreshaped, List.mem_append_right _ List.mem_cons_self, hbody⟩
  cases h with
  | raised => exact along_singleton_iff.mpr trivial
  | notEncoded =>
    refine along_cons_iff.mpr ⟨trivial, along_cons_iff.mpr ⟨?_, along_singleton_iff.mpr trivial⟩⟩
    intro herror
    exact absurd herror (by decide)
  | notPublished hbody =>
    exact along_cons_iff.mpr ⟨trivial, along_singleton_iff.mpr (hpublishes hbody)⟩
  | sent hbody =>
    refine along_cons_iff.mpr ⟨trivial, along_cons_iff.mpr ⟨hpublishes hbody, ?_⟩⟩
    exact along_cons_iff.mpr ⟨trivial, along_singleton_iff.mpr trivial⟩

lemma along_filter (hframed : Framed env.frameSize past rawFrame)
    (h : FilterRuns env mqChannel rawFrame nowTs s t r s') :
    Along (fun before => AlignedLaw env (past ++ before)) t ∧ ∀ c ∈ t, Calm c := by
  have hfirst : AlignedLaw env (past ++ []) (⟨.reshape rawFrame, Except.error .other⟩ :
      CapEvent Image Gray) := by
    rw [List.append_nil]
    exact hframed
  have hcalm : ∀ {c : CapEvent Image Gray}, chunkOf c = [] ∧ spawned? c = none → Calm c :=
    fun hc => calm_of_unread hc.1 hc.2
  cases h with
  | notReshaped =>
    refine ⟨along_singleton_iff.mpr hfirst, ?_⟩
    intro c hc
    rw [List.mem_singleton.mp hc]
    exact hcalm ⟨rfl, rfl⟩
  | notConverted =>
    refine ⟨along_cons_iff.mpr ⟨hfirst, along_singleton_iff.mpr trivial⟩, ?_⟩
    intro c hc
    simp only [List.mem_cons, List.not_mem_nil, or_false] at hc
    rcases hc with rfl | rfl <;> exact hcalm ⟨rfl, rfl⟩
  | notCompared =>
    refine ⟨along_cons_iff.mpr ⟨hfirst, along_cons_iff.mpr ⟨trivial,
      along_singleton_iff.mpr trivial⟩⟩, ?_⟩
    intro c hc
    simp only [List.mem_cons, List.not_mem_nil, or_false] at hc
    rcases hc with rfl | rfl | rfl <;> exact hcalm ⟨rfl, rfl⟩
  | duplicate =>
    refine ⟨along_cons_iff.mpr ⟨hfirst, along_cons_iff.mpr ⟨trivial, along_cons_iff.mpr ⟨trivial,
      along_singleton_iff.mpr trivial⟩⟩⟩, ?_⟩
    intro c hc
    simp only [List.mem_cons, List.not_mem_nil, or_false] at hc
    rcases hc with rfl | rfl | rfl | rfl <;> exact hcalm ⟨rfl, rfl⟩
  | @passed frame gray t₁ t₂ r s' hpasses hsend =>
    have hopening : ∀ c ∈ ([⟨.reshape rawFrame, Except.ok frame⟩, ⟨.cvtColor frame, Except.ok gray⟩] :
        CapTrace Image Gray), Calm c := by
      intro c hc
      simp only [List.mem_cons, List.not_mem_nil, or_false] at hc
      rcases hc with rfl | rfl <;> exact hcalm ⟨rfl, rfl⟩
    have hbefore : ∀ c ∈ ([⟨.reshape rawFrame, Except.ok frame⟩, ⟨.cvtColor frame, Except.ok gray⟩] ++ t₁ :
        CapTrace Image Gray), Calm c := by
      intro c hc
      exact (List.mem_append.mp hc).elim (hopening c) (fun hc => (calm_passes hpasses c hc).1)
    constructor
    · refine along_append_iff.mpr ⟨along_append_iff.mpr ⟨?_, ?_⟩, ?_⟩
      · exact along_cons_iff.mpr ⟨hfirst, along_singleton_iff.mpr trivial⟩
      · exact along_of_forall (fun c hc _ => (calm_passes hpasses c hc).2 _)
      · have hlaw := along_send (hframed.append hbefore)
          (List.mem_append_right past (by simp)) hsend
        refine hlaw.mono ?_
        intro before c hc
        rwa [List.append_assoc] at hc
    · intro c hc
      exact (List.mem_append.mp hc).elim (hbefore c) (calm_send hsend c)

lemma along_frame (hframed : Framed env.frameSize past rawFrame)
    (h : FrameRuns env mqChannel rawFrame s t r s') :
    Along (fun before => AlignedLaw env (past ++ before)) t ∧ ∀ c ∈ t, Calm c := by
  cases h with
  | @rateLimited nowTs =>
    constructor
    · refine along_append_iff.mpr ⟨?_, along_singleton_iff.mpr trivial⟩
      exact along_of_forall (fun c hc _ => (calm_arrival c hc).2 _)
    · intro c hc
      rcases List.mem_append.mp hc with hc | hc
      · exact (@calm_arrival Image Gray env s nowTs c hc).1
      · rw [List.mem_singleton.mp hc]
        exact calm_of_unread rfl rfl
  | @filtered nowTs t r s' _ hfilter =>
    have harrival : ∀ c ∈ (arrival s nowTs : CapTrace Image Gray), Calm c :=
      fun c hc => (@calm_arrival Image Gray env s nowTs c hc).1
    obtain ⟨hlaw, hcalm⟩ := along_filter (hframed.append harrival) hfilter
    constructor
    · refine along_append_iff.mpr ⟨?_, hlaw.mono ?_⟩
      · exact along_of_forall (fun c hc _ => (calm_arrival c hc).2 _)
      · intro before c hc
        rwa [List.append_assoc] at hc
    · intro c hc
      exact (List.mem_append.mp hc).elim (harrival c) (hcalm c)

end Frame

/-! ### The loop body -/

section Iteration

variable {env : CapturerEnv} {mqChannel : ℕ} {past : CapTrace Image Gray}
  {s s' : CapturerState Gray} {t : CapTrace Image Gray}

/-- The stream consists of whole blocks. -/
def WholeBlocks (frameSize : ℤ) (calls : CapTrace Image Gray) : Prop :=
  ∃ k : ℕ, ((streamBytes calls).length : ℤ) = k * frameSize

lemma WholeBlocks.append {frameSize : ℤ} (h : WholeBlocks frameSize past) (ht : ∀ c ∈ t, Calm c) :
    WholeBlocks frameSize (past ++ t) := by
  rw [WholeBlocks, streamBytes_calm ht]
  exact h

lemma Framed.whole {frameSize : ℤ} {rawFrame : List UInt8} (h : Framed frameSize past rawFrame) :
    WholeBlocks frameSize past := by
  obtain ⟨earlier, hstream, hsize, k, hk⟩ := h
  refine ⟨k + 1, ?_⟩
  rw [hstream, List.length_append]
  push_cast
  rw [hk, hsize]
  ring

/-- A process that is already running has been read in whole blocks; a new one has written nothing. -/
lemma Started.whole (h : Started s t s') (hwhole : s.ffmpegRunning = true →
    WholeBlocks env.frameSize past) : WholeBlocks env.frameSize (past ++ t) := by
  cases h with
  | running hrunning =>
    rw [List.append_nil]
    exact hwhole hrunning
  | spawned =>
    refine ⟨0, ?_⟩
    rw [streamBytes_popen]
    simp

lemma Started.quiet (h : Started s t s') : ∀ c ∈ t, ∀ past, AlignedLaw env past c := by
  cases h with
  | running => simp
  | spawned =>
    intro c hc past
    rw [List.mem_singleton.mp hc]
    trivial

lemma IsRead.quiet {c : CapEvent Image Gray} (h : IsRead c) : AlignedLaw env past c := by
  obtain ⟨op, answer⟩ := c
  cases op with
  | read => trivial
  | _ => exact h.elim

lemma IsKill.quiet {c : CapEvent Image Gray} (h : IsKill c) : AlignedLaw env past c := by
  obtain ⟨op, answer⟩ := c
  cases op with
  | kill => trivial
  | wait => trivial
  | _ => exact h.elim

/-- The calls up to the end of the reads. -/
lemma along_reading {now : ClockTime} {t₁ t₂ : CapTrace Image Gray} (hstart : Started s t₁ s')
    (hreads : ∀ c ∈ t₂, IsRead c) :
    Along (fun before => AlignedLaw env (past ++ before)) (⟨.clockTime, now⟩ :: t₁ ++ t₂) := by
  apply along_of_forall
  intro c hc before
  rcases List.mem_append.mp hc with hc | hc
  · rcases List.mem_cons.mp hc with rfl | hc
    · trivial
    · exact hstart.quiet c hc _
  · exact (hreads c hc).quiet

/-- A full read continues the stream by one block. -/
lemma framed_reading {now : ClockTime} {t₁ t₂ : CapTrace Image Gray} {rawFrame : List UInt8}
    {n : ℕ} {s₁ s₂ : CapturerState Gray}
    (hwhole : s.ffmpegRunning = true → WholeBlocks env.frameSize past) (hstart : Started s t₁ s')
    (hreads : ReadsFrame n n [] s₁ t₂ (.ok rawFrame) s₂) (hsize : (rawFrame.length : ℤ) = env.frameSize) :
    Framed env.frameSize (past ++ (⟨.clockTime, now⟩ :: t₁ ++ t₂)) rawFrame := by
  have hclock : ∀ c ∈ ([⟨.clockTime, now⟩] : CapTrace Image Gray), Calm c := by
    intro c hc
    rw [List.mem_singleton.mp hc]
    exact calm_of_unread rfl rfl
  obtain ⟨k, hk⟩ := hstart.whole (fun hrunning => (hwhole hrunning).append hclock)
  have hbytes : rawFrame = bytesRead t₂ := hreads.bytes rawFrame rfl
  have hassoc : past ++ (⟨.clockTime, now⟩ :: t₁ ++ t₂) =
      past ++ [⟨.clockTime, now⟩] ++ t₁ ++ t₂ := by simp
  rw [hassoc]
  refine ⟨_, ?_, hsize, k, hk⟩
  rw [streamBytes_reads hreads.reads, hbytes]

lemma along_iteration {r : Except Exn Bool}
    (hwhole : s.ffmpegRunning = true → WholeBlocks env.frameSize past)
    (h : IterationRuns env mqChannel s t r s') :
    Along (fun before => AlignedLaw env (past ++ before)) t ∧
      (r = .ok true → s'.ffmpegRunning = true → WholeBlocks env.frameSize (past ++ t)) := by
  cases h with
  | @outside now t s' hkills hstate =>
    have hcalm : ∀ c ∈ (⟨.clockTime, now⟩ :: t ++ [⟨.sleep 60, ()⟩] : CapTrace Image Gray),
        Calm c ∧ ∀ past, AlignedLaw env past c := by
      intro c hc
      rcases List.mem_append.mp hc with hc | hc
      · rcases List.mem_cons.mp hc with rfl | hc
        · exact ⟨calm_of_unread rfl rfl, fun _ => trivial⟩
        · exact ⟨(hkills c hc).calm, fun _ => (hkills c hc).quiet⟩
      · rw [List.mem_singleton.mp hc]
        exact ⟨calm_of_unread rfl rfl, fun _ => trivial⟩
    refine ⟨along_of_forall (fun c hc _ => (hcalm c hc).2 _), ?_⟩
    intro _ hrunning
    rcases hstate with rfl | ⟨rfl, hstopped⟩
    · cases hrunning
    · rw [hstopped] at hrunning
      cases hrunning
  | notStarted =>
    exact ⟨along_cons_iff.mpr ⟨trivial, along_singleton_iff.mpr trivial⟩, fun h => by cases h⟩
  | notRead hstart hreads => exact ⟨along_reading hstart hreads, fun h => by cases h⟩
  | @lost now t₁ t₂ t₃ s₁ rawFrame hstart hreads hsize hkills =>
    refine ⟨?_, fun h => by cases h⟩
    refine along_append_iff.mpr ⟨along_reading hstart hreads.reads, along_cons_iff.mpr ⟨?_, ?_⟩⟩
    · intro _ hnonneg
      have hle := hreads.atMost rawFrame rfl (Nat.zero_le _)
      obtain ⟨c, hlast, hread, hnil⟩ := hreads.complete rawFrame rfl (by simp) (by omega)
      refine ⟨c, ?_, hread, hnil⟩
      rw [List.append_nil, List.getLast?_append, List.getLast?_append, hlast]
      rfl
    · exact along_of_forall (fun c hc _ => (hkills c hc).quiet)
  | @handled now t₁ t₂ t₃ s₁ s' rawFrame r hstart hreads hsize hframe =>
    have hframed := @framed_reading _ _ env past s s₁ now _ _ _ _ _ _ hwhole hstart hreads hsize
    obtain ⟨hlaw, hcalm⟩ := along_frame hframed hframe
    constructor
    · refine along_append_iff.mpr ⟨along_reading hstart hreads.reads, hlaw.mono ?_⟩
      intro before c hc
      rwa [List.append_assoc] at hc
    · intro _ _
      have hafter := hframed.whole.append hcalm
      rwa [List.append_assoc] at hafter

end Iteration

/-! ### Runs -/

section Runs

variable {env : CapturerEnv} {c c' : Capturer Gray} {calls : CapTrace Image Gray}

/-- The calls at the end of a session. -/
def IsClosing : CapCall Image Gray → Prop
  | .sleep _ | .terminate _ | .closeConnection _ => True
  | _ => False

lemma uses_cleanUp (connection : Option ℕ) :
    Uses IsClosing (CapturerEnv.cleanUp connection : CapProc Image Gray Unit) := by
  have hterminate : Uses IsClosing (CapturerEnv.terminateFfmpeg : CapProc Image Gray Unit) := by
    apply Uses.get.bind
    intro s
    cases s.pipe with
    | none => exact Uses.pure ()
    | some pipe => exact Uses.perform_bind trivial (fun answer => Uses.evaluate answer)
  apply hterminate.bind
  intro _
  cases connection with
  | none => exact Uses.pure ()
  | some connection =>
    exact Uses.tryCatch (Uses.perform_bind trivial (fun answer => Uses.evaluate answer))
      (fun _ => Uses.pure ())

lemma uses_closeSession (failed : Bool) (connection : Option ℕ) :
    Uses IsClosing (CapturerEnv.closeSession failed connection : CapProc Image Gray Unit) := by
  unfold CapturerEnv.closeSession
  split_ifs
  · exact Uses.perform_bind trivial (fun _ => uses_cleanUp connection)
  · exact uses_cleanUp connection

lemma along_closing {closing : CapTrace Image Gray} {failed : Bool} {connection : Option ℕ}
    {s s' : CapturerState Gray} {r : Except Exn Unit} (past : CapTrace Image Gray)
    (h : Exec (CapturerEnv.closeSession failed connection) s closing r s') :
    Along (fun before => AlignedLaw env (past ++ before)) closing := by
  apply along_of_forall
  rintro ⟨op, answer⟩ hc before
  have hclosing := (uses_closeSession failed connection).calls _ _ _ _ h _ hc
  cases op with
  | sleep => trivial
  | terminate => trivial
  | closeConnection => trivial
  | _ => exact hclosing.elim

/-- Between two runs of the loop body the process has been read in whole blocks. -/
structure AlignmentInv (env : CapturerEnv) (calls : CapTrace Image Gray) (c : Capturer Gray) : Prop where
  law : Along (AlignedLaw env) calls
  whole : ∀ connection channel, c.phase = .connected connection channel →
    c.state.ffmpegRunning = true → WholeBlocks env.frameSize calls

lemma phaseAfter_ne {r : Except Exn Unit} (connection channel : ℕ) :
    phaseAfter r ≠ .connected connection channel := by
  cases r with
  | ok u => simp [phaseAfter, Except.isOk, Except.toBool]
  | error e => simp [phaseAfter, Except.isOk, Except.toBool]

lemma alignmentInv_step {past : CapTrace Image Gray} (h : AlignmentInv env past c)
    (hstep : CapturerStep env c calls c') : AlignmentInv env (past ++ calls) c' := by
  cases hstep with
  | opened hphase hexec =>
    obtain ⟨rfl, rfl⟩ := exec_openSession hexec
    exact ⟨along_append_iff.mpr ⟨h.law, along_singleton_iff.mpr trivial⟩, fun _ _ _ hrunning => by cases hrunning⟩
  | refused hphase hexec hclosing =>
    obtain ⟨rfl, rfl⟩ := exec_openSession hexec
    refine ⟨?_, fun _ _ hconnected => absurd hconnected (phaseAfter_ne _ _)⟩
    exact along_append_iff.mpr ⟨h.law, along_append_iff.mpr ⟨along_singleton_iff.mpr trivial,
      (along_closing (past ++ _) hclosing).mono (fun before c hc => by rwa [List.append_assoc] at hc)⟩⟩
  | @looped _ connection channel s' hphase hexec =>
    obtain ⟨hlaw, hwhole⟩ := along_iteration (h.whole _ _ hphase) (exec_iteration hexec)
    exact ⟨along_append_iff.mpr ⟨h.law, hlaw⟩, fun _ _ _ => hwhole rfl⟩
  | left hphase hexec hclosing =>
    obtain ⟨hlaw, -⟩ := along_iteration (h.whole _ _ hphase) (exec_iteration hexec)
    refine ⟨?_, fun _ _ hconnected => absurd hconnected (phaseAfter_ne _ _)⟩
    exact along_append_iff.mpr ⟨h.law, along_append_iff.mpr ⟨hlaw,
      (along_closing (past ++ _) hclosing).mono (fun before c hc => by rwa [List.append_assoc] at hc)⟩⟩
  | failed hphase hexec hclosing =>
    obtain ⟨hlaw, -⟩ := along_iteration (h.whole _ _ hphase) (exec_iteration hexec)
    refine ⟨?_, fun _ _ hconnected => absurd hconnected (phaseAfter_ne _ _)⟩
    exact along_append_iff.mpr ⟨h.law, along_append_iff.mpr ⟨hlaw,
      (along_closing (past ++ _) hclosing).mono (fun before c hc => by rwa [List.append_assoc] at hc)⟩⟩

/-- In every run, whatever the reads return and wherever sessions break off. -/
theorem frames_aligned {labels : List (CapTrace Image Gray)} (h : CapturerRun env labels c) :
    Along (AlignedLaw env) labels.flatten := by
  have hinv : AlignmentInv env labels.flatten c := by
    apply h.invariant (fun labels c => AlignmentInv env labels.flatten c)
    · exact ⟨along_nil _, by simp [Capturer.start]⟩
    · intro labels c label c' hinv hstep
      rw [List.flatten_append, List.flatten_singleton]
      exact alignmentInv_step hinv hstep
  exact hinv.law

end Runs

/-! ### One frame in three reads -/

section Sample

def sentCalls (body : List UInt8) : CapTrace Unit Unit :=
  [⟨.imencode () 85, Except.ok (some [255, 216])⟩,
    ⟨.basicPublish 8 (lit "frame_queue") body, Except.ok ()⟩, ⟨.framesSent, ()⟩,
    ⟨.sleepFrame, Except.ok ()⟩]

def readCalls : CapTrace Unit Unit :=
  [⟨.clockTime, noon⟩, ⟨.popen, Except.ok 3⟩,
    ⟨.read 3 3, Except.ok ⟨[10, 20], by decide⟩⟩, ⟨.read 3 1, Except.ok ⟨[30], by decide⟩⟩]

/-- The frame of one pixel arrives in two pieces, passes the filter and is published. -/
def pixelSession (body : List UInt8) : List (CapTrace Unit Unit) :=
  [[⟨.connectRabbitmq (lit "frame_queue"), Except.ok (7, 8)⟩],
    readCalls ++ ([⟨.framesCaptured, ()⟩, ⟨.now, .zero⟩, ⟨.reshape [10, 20, 30], Except.ok ()⟩,
      ⟨.cvtColor (), Except.ok ()⟩] ++ sentCalls body)]

lemma notTooEarly : pixelEnv.minInterval.gt (WallTime.zero.elapsed .zero) = false := by
  have hlt : WallTime.zero.seconds.val < overflowThreshold := by
    change ((0 : ℕ) : ℚ) < 2 ^ 1024 - 2 ^ 970
    rw [Nat.cast_zero, sub_pos]
    exact pow_lt_pow_right₀ (by norm_num) (by norm_num)
  have hzero : WallTime.zero.seconds.val = 0 := Nat.cast_zero
  obtain ⟨neg, m, hsub, hval⟩ := @Binary64.sub_of_zero false false _ _ hlt hzero
  have helapsed : WallTime.zero.elapsed .zero = .finite neg m := hsub
  have hnone : Binary64.signed neg m = 0 := hval.trans (Binary64.signed_zero _ hzero)
  rw [helapsed]
  change decide (Binary64.signed neg m < Binary64.signed false ⟨((0 : ℕ) : ℚ), _⟩) = false
  rw [hnone, Binary64.signed_zero _ Nat.cast_zero]
  rfl

lemma pixelSession_run : ∃ (body : List UInt8) (c : Capturer Unit),
    CapturerRun pixelEnv (pixelSession body) c := by
  obtain ⟨body, hbody⟩ := encode_dumps (pixelEnv.payload [255, 216])
  have hopen : Exec (pixelEnv.openSession : CapProc Unit Unit (ℕ × ℕ)) (CapturerState.start Unit)
      [⟨.connectRabbitmq (lit "frame_queue"), Except.ok (7, 8)⟩] (.ok (7, 8)) (sessionState none) :=
    .call (.ret _)
  have hpublish : ∀ s : CapturerState Unit, Exec (pixelEnv.publishFrame 8 [255, 216] .zero) s
      ([⟨.basicPublish 8 (lit "frame_queue") body, Except.ok ()⟩, ⟨.framesSent, ()⟩] : CapTrace Unit Unit)
      (.ok ()) { s with lastSentTime := .zero, framesSent := s.framesSent + 1 } := by
    intro s
    rw [CapturerEnv.publishFrame, hbody]
    exact .call (.call (.ret _))
  let s' : CapturerState Unit :=
    { counted (sessionState (some 3)) with
      lastFrameGray := some (), lastSentTime := .zero, framesSent := 1 }
  have hsend : Exec (pixelEnv.sendFrame 8 () () .zero : CapProc Unit Unit Unit)
      (counted (sessionState (some 3))) (sentCalls body) (.ok ()) s' := by
    refine exec_modify_bind.mpr (exec_perform_bind.mpr ⟨_, _, rfl, ?_⟩)
    refine exec_evaluate_bind.mpr (Or.inr ⟨_, rfl, ?_⟩)
    exact exec_bind.mpr (Or.inr ⟨_, _, _, _, rfl, hpublish _, .call (.ret _)⟩)
  have hhandle : Exec (pixelEnv.handleFrame 8 [10, 20, 30] : CapProc Unit Unit Unit)
      (sessionState (some 3)) ([⟨.framesCaptured, ()⟩, ⟨.now, .zero⟩,
        ⟨.reshape [10, 20, 30], Except.ok ()⟩, ⟨.cvtColor (), Except.ok ()⟩] ++ sentCalls body)
      (.ok ()) s' := by
    refine exec_bind.mpr (Or.inr ⟨[⟨.framesCaptured, ()⟩], _, _, counted (sessionState (some 3)), rfl,
      .call (.ret _), ?_⟩)
    refine exec_perform_bind.mpr ⟨.zero, _, rfl, exec_get_bind.mpr ?_⟩
    have hrate : ¬pixelEnv.minInterval.gt
        (WallTime.zero.elapsed (counted (sessionState (some 3))).lastSentTime) = true := by
      rw [Bool.not_eq_true]
      exact notTooEarly
    rw [if_neg hrate]
    exact .call (.call hsend)
  have hiterate : Exec (pixelEnv.iteration 8 : CapProc Unit Unit Bool) (sessionState none)
      (readCalls ++ _) (.ok true) s' :=
    .call (.call (.call (.call (exec_bind.mpr
      (Or.inr ⟨_, [], _, _, (List.append_nil _).symm, hhandle, .ret _⟩)))))
  have hopened := Transition.Run.single (show CapturerStep pixelEnv (Capturer.start Unit) _ _ from
    .opened rfl hopen)
  exact ⟨body, _, hopened.snoc (.looped rfl hiterate)⟩

theorem frames_aligned_pixel : ∃ (body : List UInt8) (c : Capturer Unit),
    CapturerRun pixelEnv (pixelSession body) c ∧
      Along (AlignedLaw pixelEnv) (pixelSession body).flatten := by
  obtain ⟨body, c, hrun⟩ := pixelSession_run
  exact ⟨body, c, hrun, frames_aligned hrun⟩

end Sample

end IntruderWatch.PyCapturer
