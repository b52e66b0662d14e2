import IntruderWatch.Library.FloatOrder
import IntruderWatch.Proofs.CaptureAlignment
import IntruderWatch.Proofs.PhotoSelection

/-!
# The rate limit and the motion filter of the Python capturer

Both filters look back over everything the capturer has done, across lost streams and broken
sessions: the rate limit at the latest frame that was sent or was a duplicate, the motion filter at the
latest frame that was to be encoded. Hence every frame is accounted for, and messages keep their distance.
-/

namespace IntruderWatch.PyCapturer
open Py Interaction History

variable {Image Gray : Type}

/-! ### What the calls tell of the frames -/

structure Seen (Gray : Type) where
  clock : Option WallTime
  gray : Option Gray
  accepted : WallTime
  reference : Option Gray
  sentAt : List WallTime
  captured : ℕ

def Seen.nothing : Seen Gray := ⟨none, none, .zero, none, [], 0⟩

/-- A duplicate moves the time of the rate limit, but not the reference picture; a frame that is to be
encoded moves the reference, but the time only once it is sent. -/
def see (m : Seen Gray) : CapEvent Image Gray → Seen Gray
  | ⟨.framesCaptured, _⟩ => { m with captured := m.captured + 1 }
  | ⟨.now, nowTs⟩ => { m with clock := some nowTs }
  | ⟨.cvtColor _, .ok gray⟩ => { m with gray := some gray }
  | ⟨.imencode _ _, _⟩ => { m with reference := m.gray }
  | ⟨.framesSent, _⟩ =>
    { m with accepted := m.clock.getD m.accepted, sentAt := m.sentAt ++ m.clock.toList }
  | ⟨.framesSkipped reason, _⟩ =>
    if reason = "duplicate" then { m with accepted := m.clock.getD m.accepted } else m
  | _ => m

def seen (calls : CapTrace Image Gray) : Seen Gray := calls.foldl see .nothing

lemma seen_append (past t : CapTrace Image Gray) : seen (past ++ t) = t.foldl see (seen past) :=
  List.foldl_append

/-- The frame at hand comes sooner than allowed after the latest accepted one, or not. -/
def Early (env : CapturerEnv) (early : Bool) (m : Seen Gray) : Prop :=
  ∃ nowTs, m.clock = some nowTs ∧ env.minInterval.gt (nowTs.elapsed m.accepted) = early

/-- The last call compared the frame at hand with the reference, and found it the same or not. -/
def Compared (env : CapturerEnv) (same : Bool) (past : CapTrace Image Gray) : Prop :=
  ∃ gray last mse, past.getLast? = some ⟨.meanSquaredError gray last, Except.ok mse⟩ ∧
    env.motionThreshold.gt mse = same

/-- What is counted, and what is done with a frame, by the calls before it. -/
def FilterLaw (env : CapturerEnv) (past : CapTrace Image Gray) : CapEvent Image Gray → Prop
  | ⟨.framesSkipped reason, _⟩ => reason = "rate_limit" ∧ Early env true (seen past) ∨
      reason = "duplicate" ∧ Early env false (seen past) ∧ Compared env true past
  | ⟨.reshape _, _⟩ => Early env false (seen past)
  | ⟨.meanSquaredError gray last, _⟩ => (seen past).gray = some gray ∧ (seen past).reference = some last
  | ⟨.imencode _ _, _⟩ => (seen past).reference = none ∨ Compared env false past
  | ⟨.framesSent, _⟩ => Early env false (seen past) ∧
      ∃ mqChannel routingKey body, past.getLast? = some ⟨.basicPublish mqChannel routingKey body, Except.ok ()⟩
  | ⟨.logHeartbeat framesSent framesCaptured, _⟩ => framesSent = (seen past).sentAt.length ∧
      framesCaptured = (seen past).captured ∧ framesCaptured % 100 = 0
  | _ => True

/-- The variables of the loop hold what the calls tell. -/
structure Agrees (m : Seen Gray) (s : CapturerState Gray) : Prop where
  accepted : s.lastSentTime = m.accepted
  reference : s.lastFrameGray = m.reference
  sent : s.framesSent = m.sentAt.length
  captured : s.framesCaptured = m.captured

/-! ### Calls that do not concern the filters -/

def IsAside : CapCall Image Gray → Prop
  | .connectRabbitmq _ | .clockTime | .popen | .read _ _ | .kill _ | .wait _ | .terminate _
  | .captureErrors _ | .sleepFrame | .sleep _ | .closeConnection _ => True
  | _ => False

section Aside

variable {past t : CapTrace Image Gray} {c : CapEvent Image Gray}

lemma aside (h : IsAside c.1) : (∀ m, see m c = m) ∧ ∀ env past, FilterLaw env past c := by
  obtain ⟨op, answer⟩ := c
  cases op with
  | framesCaptured => exact h.elim
  | framesSent => exact h.elim
  | framesSkipped => exact h.elim
  | logHeartbeat => exact h.elim
  | now => exact h.elim
  | reshape => exact h.elim
  | cvtColor => exact h.elim
  | meanSquaredError => exact h.elim
  | imencode => exact h.elim
  | basicPublish => exact h.elim
  | _ => exact ⟨fun _ => rfl, fun _ _ => trivial⟩

lemma seen_aside (h : ∀ c ∈ t, IsAside c.1) : seen (past ++ t) = seen past := by
  rw [seen_append]
  exact foldl_of_still (fun c hc m => (aside (h c hc)).1 m) _

end Aside

/-! ### One frame -/

section Frame

variable {env : CapturerEnv} {mqChannel : ℕ} {past t : CapTrace Image Gray} {rawFrame : List UInt8}
  {s s' : CapturerState Gray} {r : Except Exn Unit} {nowTs : WallTime}

/-- The calls obey the law, and afterwards the variables hold what the calls tell. -/
def Filters (env : CapturerEnv) (past t : CapTrace Image Gray) (s' : CapturerState Gray) : Prop :=
  Along (fun before => FilterLaw env (past ++ before)) t ∧ Agrees (seen (past ++ t)) s'

lemma Filters.append {t' : CapTrace Image Gray} (h : Filters env past t s)
    (h' : Filters env (past ++ t) t' s') : Filters env past (t ++ t') s' := by
  refine ⟨along_append_iff.mpr ⟨h.1, h'.1.mono ?_⟩, ?_⟩
  · intro before c hc
    rwa [List.append_assoc] at hc
  · have hagrees := h'.2
    rwa [List.append_assoc] at hagrees

lemma Filters.law (h : Filters env [] t s) : Along (FilterLaw env) t :=
  h.1.mono (fun _ _ hlaw => by rwa [List.nil_append] at hlaw)

lemma filters_send {frame : Image} {gray : Gray} (hagrees : Agrees (seen past) s)
    (hgray : (seen past).gray = some gray) (hclock : (seen past).clock = some nowTs)
    (hearly : env.minInterval.gt (nowTs.elapsed s.lastSentTime) = false)
    (hmoved : (seen past).reference = none ∨ Compared env false past)
    (h : SendRuns env mqChannel frame nowTs { s with lastFrameGray := some gray } t r s') :
    Filters env past t s' := by
  have hmoved' : FilterLaw env (past ++ [])
      (⟨.imencode frame env.jpegQuality, Except.error .other⟩ : CapEvent Image Gray) := by
    rw [List.append_nil]
    exact hmoved
  cases h with
  | raised =>
    refine ⟨along_singleton_iff.mpr hmoved', ?_⟩
    rw [seen_append]
    exact ⟨hagrees.accepted, hgray.symm, hagrees.sent, hagrees.captured⟩
  | notEncoded =>
    refine ⟨along_cons_iff.mpr ⟨hmoved', along_cons_iff.mpr ⟨trivial, along_singleton_iff.mpr trivial⟩⟩, ?_⟩
    · rw [seen_append]
      exact ⟨hagrees.accepted, hgray.symm, hagrees.sent, hagrees.captured⟩
  | notPublished =>
    refine ⟨along_cons_iff.mpr ⟨hmoved', along_singleton_iff.mpr trivial⟩, ?_⟩
    rw [seen_append]
    exact ⟨hagrees.accepted, hgray.symm, hagrees.sent, hagrees.captured⟩
  | @sent byteData body r =>
    refine ⟨along_cons_iff.mpr ⟨hmoved', along_cons_iff.mpr ⟨trivial, along_cons_iff.mpr
      ⟨⟨⟨nowTs, ?_, ?_⟩, mqChannel, env.queueName, body, ?_⟩, along_singleton_iff.mpr trivial⟩⟩⟩, ?_⟩
    · rw [seen_append]
      exact hclock
    · rw [seen_append, ← hearly, hagrees.accepted]
      rfl
    · rw [List.getLast?_append]
      rfl
    · rw [seen_append]
      refine ⟨?_, hgray.symm, ?_, hagrees.captured⟩
      · change nowTs = (seen past).clock.getD _
        rw [hclock]
        rfl
      · change s.framesSent + 1 = ((seen past).sentAt ++ (seen past).clock.toList).length
        rw [hclock, List.length_append, hagrees.sent]
        rfl

/-- Behind the conversion to gray, with the comparison if there is a reference. -/
lemma filters_passed {frame : Image} {gray : Gray} {t₁ t₂ : CapTrace Image Gray}
    (hagrees : Agrees (seen past) s) (hgray : (seen past).gray = some gray)
    (hclock : (seen past).clock = some nowTs)
    (hearly : env.minInterval.gt (nowTs.elapsed s.lastSentTime) = false)
    (hpasses : Passes env gray s.lastFrameGray t₁)
    (hsend : SendRuns env mqChannel frame nowTs { s with lastFrameGray := some gray } t₂ r s') :
    Filters env past (t₁ ++ t₂) s' := by
  generalize hlast : s.lastFrameGray = last at hpasses
  have hreference : (seen past).reference = last := by rw [← hagrees.reference, hlast]
  cases hpasses with
  | first => exact filters_send hagrees hgray hclock hearly (Or.inl hreference) hsend
  | @moved last mse hmoved =>
    have hcompared : Filters env past [⟨.meanSquaredError gray last, Except.ok mse⟩] s := by
      constructor
      · rw [along_singleton_iff, List.append_nil]
        exact ⟨hgray, hreference⟩
      · rw [seen_append]
        exact ⟨hagrees.accepted, hagrees.reference, hagrees.sent, hagrees.captured⟩
    apply hcompared.append
    refine filters_send hcompared.2 ?_ ?_ hearly (Or.inr ⟨gray, last, mse, ?_, hmoved⟩) hsend
    · rw [seen_append]
      exact hgray
    · rw [seen_append]
      exact hclock
    · rw [List.getLast?_append]
      rfl

lemma filters_filter (hagrees : Agrees (seen past) s) (hclock : (seen past).clock = some nowTs)
    (hearly : env.minInterval.gt (nowTs.elapsed s.lastSentTime) = false)
    (h : FilterRuns env mqChannel rawFrame nowTs s t r s') : Filters env past t s' := by
  have hearly' : Early env false (seen past) := ⟨nowTs, hclock, by rwa [← hagrees.accepted]⟩
  have hfirst : FilterLaw env (past ++ []) (⟨.reshape rawFrame, Except.error .other⟩ :
      CapEvent Image Gray) := by
    rw [List.append_nil]
    exact hearly'
  cases h with
  | notReshaped =>
    refine ⟨along_singleton_iff.mpr hfirst, ?_⟩
    rw [seen_append]
    exact ⟨hagrees.accepted, hagrees.reference, hagrees.sent, hagrees.captured⟩
  | notConverted =>
    refine ⟨along_cons_iff.mpr ⟨hfirst, along_singleton_iff.mpr trivial⟩, ?_⟩
    rw [seen_append]
    exact ⟨hagrees.accepted, hagrees.reference, hagrees.sent, hagrees.captured⟩
  | @notCompared frame gray last e hlast =>
    have hreference : (seen past).reference = some last := by rw [← hagrees.reference, hlast]
    refine ⟨along_cons_iff.mpr ⟨hfirst, along_cons_iff.mpr ⟨trivial, along_singleton_iff.mpr ⟨?_, ?_⟩⟩⟩, ?_⟩
    · rw [seen_append]
      rfl
    · rw [seen_append]
      exact hreference
    · rw [seen_append]
      exact ⟨hagrees.accepted, hagrees.reference, hagrees.sent, hagrees.captured⟩
  | @duplicate frame gray last mse hlast hsame =>
    have hreference : (seen past).reference = some last := by rw [← hagrees.reference, hlast]
    refine ⟨along_cons_iff.mpr ⟨hfirst, along_cons_iff.mpr ⟨trivial, along_cons_iff.mpr ⟨⟨?_, ?_⟩,
      along_singleton_iff.mpr (Or.inr ⟨rfl, ⟨nowTs, ?_, ?_⟩, gray, last, mse, ?_, hsame⟩)⟩⟩⟩, ?_⟩
    · rw [seen_append]
      rfl
    · rw [seen_append]
      exact hreference
    · rw [seen_append]
      exact hclock
    · rw [seen_append, ← hearly, hagrees.accepted]
      rfl
    · rw [List.getLast?_append]
      rfl
    · rw [seen_append]
      refine ⟨?_, hagrees.reference, hagrees.sent, hagrees.captured⟩
      change nowTs = (seen past).clock.getD _
      rw [hclock]
      rfl
  | @passed frame gray t₁ t₂ r s' hpasses hsend =>
    have hopening : Filters env past [⟨.reshape rawFrame, Except.ok frame⟩,
        ⟨.cvtColor frame, Except.ok gray⟩] s := by
      refine ⟨along_cons_iff.mpr ⟨hfirst, along_singleton_iff.mpr trivial⟩, ?_⟩
      rw [seen_append]
      exact ⟨hagrees.accepted, hagrees.reference, hagrees.sent, hagrees.captured⟩
    rw [List.append_assoc]
    apply hopening.append
    refine filters_passed hopening.2 ?_ ?_ hearly hpasses hsend
    · rw [seen_append]
      rfl
    · rw [seen_append]
      exact hclock

lemma filters_frame (hagrees : Agrees (seen past) s) (h : FrameRuns env mqChannel rawFrame s t r s') :
    Filters env past t s' := by
  have harrival : ∀ nowTs, Filters env past (arrival s nowTs) (counted s) ∧
      (seen (past ++ arrival s nowTs)).clock = some nowTs := by
    intro nowTs
    have hcounted : Filters env past [⟨.framesCaptured, ()⟩] (counted s) := by
      refine ⟨along_singleton_iff.mpr trivial, ?_⟩
      rw [seen_append]
      exact ⟨hagrees.accepted, hagrees.reference, hagrees.sent, congrArg (· + 1) hagrees.captured⟩
    have hheartbeat : Filters env (past ++ [⟨.framesCaptured, ()⟩]) (heartbeatOf s) (counted s) := by
      unfold heartbeatOf
      split_ifs with hhundred
      · refine ⟨along_singleton_iff.mpr ⟨?_, ?_, hhundred⟩, ?_⟩
        · rw [List.append_nil]
          exact hcounted.2.sent
        · rw [List.append_nil]
          exact hcounted.2.captured
        · rw [seen_append]
          exact ⟨hcounted.2.accepted, hcounted.2.reference, hcounted.2.sent, hcounted.2.captured⟩
      · refine ⟨along_nil _, ?_⟩
        rw [List.append_nil]
        exact hcounted.2
    have hboth := hcounted.append hheartbeat
    have hclock : Filters env (past ++ ([⟨.framesCaptured, ()⟩] ++ heartbeatOf s)) [⟨.now, nowTs⟩]
        (counted s) := by
      refine ⟨along_singleton_iff.mpr trivial, ?_⟩
      rw [seen_append]
      exact ⟨hboth.2.accepted, hboth.2.reference, hboth.2.sent, hboth.2.captured⟩
    refine ⟨hboth.append hclock, ?_⟩
    rw [arrival, ← List.cons_append, ← List.append_assoc, seen_append]
    rfl
  cases h with
  | @rateLimited nowTs hgt =>
    obtain ⟨hfilters, hclock⟩ := harrival nowTs
    apply hfilters.append
    refine ⟨along_singleton_iff.mpr (Or.inl ⟨rfl, nowTs, ?_, ?_⟩), ?_⟩
    · rwa [List.append_nil]
    · rw [List.append_nil, ← hfilters.2.accepted]
      exact hgt
    · rw [seen_append]
      exact ⟨hfilters.2.accepted, hfilters.2.reference, hfilters.2.sent, hfilters.2.captured⟩
  | @filtered nowTs t r s' hgt hfilter =>
    obtain ⟨hfilters, hclock⟩ := harrival nowTs
    exact hfilters.append (filters_filter hfilters.2 hclock hgt hfilter)

end Frame

/-! ### The loop body -/

section Iteration

variable {env : CapturerEnv} {mqChannel : ℕ} {past t : CapTrace Image Gray} {s s' : CapturerState Gray}

lemma filters_aside (h : ∀ c ∈ t, IsAside c.1) (hagrees : Agrees (seen past) s') : Filters env past t s' := by
  refine ⟨along_of_forall (fun c hc _ => (aside (h c hc)).2 _ _), ?_⟩
  rwa [seen_aside h]

lemma IsRead.aside {c : CapEvent Image Gray} (h : IsRead c) : IsAside c.1 := by
  obtain ⟨op, answer⟩ := c
  cases op with
  | read => trivial
  | _ => exact h.elim

lemma IsKill.aside {c : CapEvent Image Gray} (h : IsKill c) : IsAside c.1 := by
  obtain ⟨op, answer⟩ := c
  cases op with
  | kill => trivial
  | wait => trivial
  | _ => exact h.elim

/-- Starting the process changes neither what the filters know nor what the calls tell of it. -/
lemma Started.aside (h : Started s t s') :
    (∀ c ∈ t, IsAside c.1) ∧ ∀ m : Seen Gray, Agrees m s → Agrees m s' := by
  cases h with
  | running => exact ⟨by simp, fun _ hm => hm⟩
  | spawned =>
    refine ⟨?_, fun _ hm => ⟨hm.accepted, hm.reference, hm.sent, hm.captured⟩⟩
    intro c hc
    rw [List.mem_singleton.mp hc]
    trivial

lemma filters_iteration {r : Except Exn Bool} (hagrees : Agrees (seen past) s)
    (h : IterationRuns env mqChannel s t r s') : Filters env past t s' := by
  have hreading : ∀ {now : ClockTime} {t₁ t₂ : CapTrace Image Gray} {s₁ : CapturerState Gray},
      Started s t₁ s₁ → (∀ c ∈ t₂, IsRead c) → Filters env past (⟨.clockTime, now⟩ :: t₁ ++ t₂) s₁ := by
    intro now t₁ t₂ s₁ hstart hreads
    obtain ⟨hcalls, hstate⟩ := hstart.aside
    apply filters_aside _ (hstate _ hagrees)
    intro c hc
    rcases List.mem_append.mp hc with hc | hc
    · rcases List.mem_cons.mp hc with rfl | hc
      · trivial
      · exact hcalls c hc
    · exact (hreads c hc).aside
  cases h with
  | @outside now t s' hkills hstate =>
    have hafter : Agrees (seen past) s' := by
      rcases hstate with rfl | ⟨rfl, -⟩
      · exact ⟨hagrees.accepted, hagrees.reference, hagrees.sent, hagrees.captured⟩
      · exact hagrees
    apply filters_aside _ hafter
    intro c hc
    rcases List.mem_append.mp hc with hc | hc
    · rcases List.mem_cons.mp hc with rfl | hc
      · trivial
      · exact (hkills c hc).aside
    · rw [List.mem_singleton.mp hc]
      trivial
  | notStarted =>
    apply filters_aside _ hagrees
    intro c hc
    simp only [List.mem_cons, List.not_mem_nil, or_false] at hc
    rcases hc with rfl | rfl <;> trivial
  | notRead hstart hreads => exact hreading hstart hreads
  | @lost now t₁ t₂ t₃ s₁ rawFrame hstart hreads hsize hkills =>
    have hread := @hreading now _ _ _ hstart hreads.reads
    apply hread.append
    refine filters_aside ?_ ⟨hread.2.accepted, hread.2.reference, hread.2.sent, hread.2.captured⟩
    intro c hc
    rcases List.mem_cons.mp hc with rfl | hc
    · trivial
    · exact (hkills c hc).aside
  | @handled now t₁ t₂ t₃ s₁ s' rawFrame r hstart hreads hsize hframe =>
    have hread := @hreading now _ _ _ hstart hreads.reads
    exact hread.append (filters_frame hread.2 hframe)

end Iteration

/-! ### Runs -/

section Runs

variable {env : CapturerEnv} {c c' : Capturer Gray} {calls : CapTrace Image Gray}

lemma exec_terminateFfmpeg_state {s s' : CapturerState Gray} {t : CapTrace Image Gray}
    {r : Except Exn Unit}
    (h : Exec (CapturerEnv.terminateFfmpeg : CapProc Image Gray Unit) s t r s') : s' = s := by
  rw [CapturerEnv.terminateFfmpeg, exec_get_bind] at h
  cases hpipe : s.pipe with
  | none =>
    rw [hpipe] at h
    exact (exec_pure.mp h).2.2
  | some pipe =>
    rw [hpipe] at h
    obtain ⟨answer, t₁, rfl, h₁⟩ := exec_perform_bind.mp h
    exact (exec_evaluate.mp h₁).2.2

lemma exec_disconnect_state {s s' : CapturerState Gray} {t : CapTrace Image Gray}
    {r : Except Exn Unit} {connection : Option ℕ}
    (h : Exec (CapturerEnv.disconnect connection : CapProc Image Gray Unit) s t r s') : s' = s := by
  cases connection with
  | none => exact (exec_pure.mp h).2.2
  | some connection =>
    have hclose : ∀ {t r s'}, Exec (do evaluate (← closeConnection connection) : CapProc Image Gray Unit)
        s t r s' → s' = s := by
      intro t r s' hexec
      obtain ⟨answer, t₁, rfl, h₁⟩ := exec_perform_bind.mp hexec
      exact (exec_evaluate.mp h₁).2.2
    rcases exec_tryCatch.mp h with ⟨a, h₁, -⟩ | ⟨t₁, t₂, e, s₁, rfl, h₁, h₂⟩
    · exact hclose h₁
    · obtain ⟨-, -, rfl⟩ := exec_pure.mp h₂
      exact hclose h₁

lemma filters_closing {past closing : CapTrace Image Gray} {failed : Bool} {connection : Option ℕ}
    {s s' : CapturerState Gray} {r : Except Exn Unit} (hagrees : Agrees (seen past) s)
    (h : Exec (CapturerEnv.closeSession failed connection) s closing r s') :
    Filters env past closing s' := by
  have hcleanUp : ∀ {t r s'}, Exec (CapturerEnv.cleanUp connection : CapProc Image Gray Unit) s t r s' →
      s' = s := by
    intro t r s' hexec
    rcases exec_bind.mp hexec with ⟨e, h₁, rfl⟩ | ⟨t₁, t₂, a, s₁, rfl, h₁, h₂⟩
    · exact exec_terminateFfmpeg_state h₁
    · obtain rfl := exec_terminateFfmpeg_state h₁
      exact exec_disconnect_state h₂
  have hstate : s' = s := by
    unfold CapturerEnv.closeSession at h
    split_ifs at h
    · obtain ⟨answer, t₁, rfl, h₁⟩ := exec_perform_bind.mp h
      exact hcleanUp h₁
    · exact hcleanUp h
  rw [hstate]
  refine filters_aside ?_ hagrees
  rintro ⟨op, answer⟩ hc
  have hclosing := (uses_closeSession failed connection).calls _ _ _ _ h _ hc
  cases op with
  | sleep => trivial
  | terminate => trivial
  | closeConnection => trivial
  | _ => exact hclosing.elim

lemma filters_step {past : CapTrace Image Gray} (h : Agrees (seen past) c.state)
    (hstep : CapturerStep env c calls c') : Filters env past calls c'.state := by
  have hopened : ∀ {answer : Except Exn (ℕ × ℕ)}, Filters env past
      [⟨.connectRabbitmq env.queueName, answer⟩]
      { c.state with pipe := none, ffmpegRunning := false } := by
    intro answer
    refine filters_aside ?_ ⟨h.accepted, h.reference, h.sent, h.captured⟩
    intro d hd
    rw [List.mem_singleton.mp hd]
    trivial
  cases hstep with
  | opened hphase hexec =>
    obtain ⟨rfl, rfl⟩ := exec_openSession hexec
    exact hopened
  | refused hphase hexec hclosing =>
    obtain ⟨rfl, rfl⟩ := exec_openSession hexec
    exact hopened.append (filters_closing hopened.2 hclosing)
  | looped hphase hexec => exact filters_iteration h (exec_iteration hexec)
  | left hphase hexec hclosing =>
    have hiteration := filters_iteration h (exec_iteration hexec)
    exact hiteration.append (filters_closing hiteration.2 hclosing)
  | failed hphase hexec hclosing =>
    have hiteration := filters_iteration h (exec_iteration hexec)
    exact hiteration.append (filters_closing hiteration.2 hclosing)

lemma filters_run {labels : List (CapTrace Image Gray)} (h : CapturerRun env labels c) :
    Filters env [] labels.flatten c.state := by
  apply h.invariant (fun labels c => Filters env [] labels.flatten c.state)
  · exact ⟨along_nil _, rfl, rfl, rfl, rfl⟩
  · intro labels c label c' hinv hstep
    rw [List.flatten_append, List.flatten_singleton]
    exact hinv.append (filters_step hinv.2 hstep)

/-- In every run, across every lost stream and broken session. -/
theorem frames_filtered {labels : List (CapTrace Image Gray)} (h : CapturerRun env labels c) :
    Along (FilterLaw env) labels.flatten :=
  (filters_run h).law

/-! ### Four frames of one pixel -/

section Sample

/-- One frame a second: `(1.0 / 1) * 0.9`. -/
def pacedEnv : CapturerEnv := { pixelEnv with minInterval := .ofSigned false (9 / 10) }

/-- The state in the session, behind a frame that was to be encoded. -/
def pacedState (lastSentTime : WallTime) (framesCaptured framesSent : ℕ) : CapturerState Unit :=
  ⟨lastSentTime, some (), framesCaptured, framesSent, some 3, true⟩

def frameReads : CapTrace Unit Unit :=
  [⟨.clockTime, noon⟩, ⟨.read 3 3, Except.ok ⟨[10, 20, 30], by decide⟩⟩]

/-- The calls of a frame up to the comparison with the reference, and those of a message. -/
def shownCalls : CapTrace Unit Unit :=
  [⟨.reshape [10, 20, 30], Except.ok ()⟩, ⟨.cvtColor (), Except.ok ()⟩]

def comparedCalls (mse : Binary64) : CapTrace Unit Unit :=
  shownCalls ++ [⟨.meanSquaredError () (), Except.ok mse⟩]

/-- A message, a frame that comes too early, a message one second after the first, and a duplicate. -/
def pacedSession (body : List UInt8) : List (CapTrace Unit Unit) :=
  [[⟨.connectRabbitmq (lit "frame_queue"), Except.ok (7, 8)⟩],
    [⟨.clockTime, noon⟩, ⟨.popen, Except.ok 3⟩] ++ frameReads.tail ++
      [⟨.framesCaptured, ()⟩, ⟨.now, Proofs.atSecond 200⟩] ++ shownCalls ++ sentCalls body,
    frameReads ++ [⟨.framesCaptured, ()⟩, ⟨.now, Proofs.atSecond 200⟩,
      ⟨.framesSkipped "rate_limit", ()⟩],
    frameReads ++ [⟨.framesCaptured, ()⟩, ⟨.now, Proofs.atSecond 201⟩] ++
      comparedCalls (.ofNat 5 five_lt_two_pow) ++ sentCalls body,
    frameReads ++ [⟨.framesCaptured, ()⟩, ⟨.now, Proofs.atSecond 202⟩] ++
      comparedCalls (.ofNat 0 zero_lt_two_pow) ++ [⟨.framesSkipped "duplicate", ()⟩]]

section Handled

variable {s s' : CapturerState Unit} (nowTs : WallTime) {t : CapTrace Unit Unit} {body : List UInt8}

lemma countFrame_exec (hbeat : (s.framesCaptured + 1) % 100 ≠ 0) :
    Exec (CapturerEnv.countFrame : CapProc Unit Unit Unit) s [⟨.framesCaptured, ()⟩] (.ok ())
      (counted s) := by
  refine exec_modify_bind.mpr (exec_perform_bind.mpr ⟨(), [], rfl, exec_get_bind.mpr ?_⟩)
  split_ifs with hzero
  · exact absurd hzero hbeat
  · exact .ret _

lemma handleFrame_limited (hbeat : (s.framesCaptured + 1) % 100 ≠ 0)
    (hgt : pacedEnv.minInterval.gt (nowTs.elapsed s.lastSentTime) = true) :
    Exec (pacedEnv.handleFrame 8 [10, 20, 30] : CapProc Unit Unit Unit) s
      ([⟨.framesCaptured, ()⟩] ++ [⟨.now, nowTs⟩, ⟨.framesSkipped "rate_limit", ()⟩]) (.ok ())
      (counted s) := by
  refine exec_bind.mpr (Or.inr ⟨_, _, _, _, rfl, countFrame_exec hbeat, ?_⟩)
  refine exec_perform_bind.mpr ⟨nowTs, _, rfl, exec_get_bind.mpr ?_⟩
  split_ifs with hlimit
  · exact .call (.ret _)
  · exact absurd hgt hlimit

lemma handleFrame_filtered (hbeat : (s.framesCaptured + 1) % 100 ≠ 0)
    (hgt : pacedEnv.minInterval.gt (nowTs.elapsed s.lastSentTime) = false)
    (h : Exec (pacedEnv.filterFrame 8 [10, 20, 30] nowTs : CapProc Unit Unit Unit) (counted s) t
      (.ok ()) s') :
    Exec (pacedEnv.handleFrame 8 [10, 20, 30] : CapProc Unit Unit Unit) s
      ([⟨.framesCaptured, ()⟩] ++ ⟨.now, nowTs⟩ :: t) (.ok ()) s' := by
  refine exec_bind.mpr (Or.inr ⟨_, _, _, _, rfl, countFrame_exec hbeat, ?_⟩)
  refine exec_perform_bind.mpr ⟨nowTs, _, rfl, exec_get_bind.mpr ?_⟩
  split_ifs with hlimit
  · exact absurd (hlimit.symm.trans hgt) (by simp)
  · exact h

lemma sendFrame_exec (hbody : IsMessageOf pacedEnv [255, 216] body) :
    Exec (pacedEnv.sendFrame 8 () () nowTs : CapProc Unit Unit Unit) s (sentCalls body) (.ok ())
      { s with lastFrameGray := some (), lastSentTime := nowTs, framesSent := s.framesSent + 1 } := by
  have hpublish : ∀ s : CapturerState Unit, Exec (pacedEnv.publishFrame 8 [255, 216] nowTs) s
      ([⟨.basicPublish 8 (lit "frame_queue") body, Except.ok ()⟩, ⟨.framesSent, ()⟩] : CapTrace Unit Unit)
      (.ok ()) { s with lastSentTime := nowTs, framesSent := s.framesSent + 1 } := by
    intro s
    rw [CapturerEnv.publishFrame, hbody]
    exact .call (.call (.ret _))
  refine exec_modify_bind.mpr (exec_perform_bind.mpr ⟨_, _, rfl, ?_⟩)
  refine exec_evaluate_bind.mpr (Or.inr ⟨_, rfl, ?_⟩)
  exact exec_bind.mpr (Or.inr ⟨_, _, _, _, rfl, hpublish _, .call (.ret _)⟩)

/-- The comparison with the reference, and the rest of the frame. -/
lemma filterFrame_compared (mse : Binary64) (hlast : s.lastFrameGray = some ())
    (h : Exec (if (!pacedEnv.motionThreshold.gt mse) = true then pacedEnv.sendFrame 8 () () nowTs
      else do
        countSkipped "duplicate"
        modify (fun s => { s with lastSentTime := nowTs }) : CapProc Unit Unit Unit) s t (.ok ()) s') :
    Exec (pacedEnv.filterFrame 8 [10, 20, 30] nowTs : CapProc Unit Unit Unit) s
      (comparedCalls mse ++ t) (.ok ()) s' := by
  refine exec_perform_bind.mpr ⟨Except.ok (), _, rfl, exec_evaluate_bind.mpr (Or.inr ⟨(), rfl, ?_⟩)⟩
  refine exec_perform_bind.mpr ⟨Except.ok (), _, rfl, exec_evaluate_bind.mpr (Or.inr ⟨(), rfl, ?_⟩)⟩
  rw [exec_get_bind, hlast]
  exact .call h

/-- The process is running, and its next three bytes are one frame. -/
lemma iteration_exec (hrunning : s.ffmpegRunning = true) (hpipe : s.pipe = some 3)
    (h : Exec (pacedEnv.handleFrame 8 [10, 20, 30] : CapProc Unit Unit Unit) s t (.ok ()) s') :
    Exec (pacedEnv.iteration 8 : CapProc Unit Unit Bool) s (frameReads ++ t) (.ok true) s' := by
  obtain ⟨last, gray, captured, sent, pipe, running⟩ := s
  cases hrunning
  cases hpipe
  exact .call (.call (exec_bind.mpr (Or.inr ⟨_, [], _, _, (List.append_nil _).symm, h, .ret _⟩)))

end Handled

lemma pacedSession_run : ∃ (body : List UInt8) (c : Capturer Unit),
    CapturerRun pacedEnv (pacedSession body) c := by
  obtain ⟨body, hbody⟩ := encode_dumps (pacedEnv.payload [255, 216])
  have hopen : Exec (pacedEnv.openSession : CapProc Unit Unit (ℕ × ℕ)) (CapturerState.start Unit)
      [⟨.connectRabbitmq (lit "frame_queue"), Except.ok (7, 8)⟩] (.ok (7, 8)) (sessionState none) :=
    .call (.ret _)
  have hfirst : Exec (pacedEnv.handleFrame 8 [10, 20, 30] : CapProc Unit Unit Unit)
      (sessionState (some 3)) _ (.ok ()) (pacedState (Proofs.atSecond 200) 1 1) :=
    @handleFrame_filtered _ _ (Proofs.atSecond 200) (shownCalls ++ sentCalls body) (by decide)
      (by decide +kernel) (.call (.call (sendFrame_exec _ hbody)))
  have hstarts : Exec (pacedEnv.iteration 8 : CapProc Unit Unit Bool) (sessionState none)
      (⟨.clockTime, noon⟩ :: ⟨.popen, Except.ok 3⟩ :: (frameReads.tail ++ _)) (.ok true)
      (pacedState (Proofs.atSecond 200) 1 1) :=
    .call (.call (.call (exec_bind.mpr
      (Or.inr ⟨_, [], _, _, (List.append_nil _).symm, hfirst, .ret _⟩))))
  have hearly : Exec (pacedEnv.iteration 8 : CapProc Unit Unit Bool)
      (pacedState (Proofs.atSecond 200) 1 1) _ (.ok true) (pacedState (Proofs.atSecond 200) 2 1) :=
    iteration_exec rfl rfl (handleFrame_limited (Proofs.atSecond 200) (by decide) (by decide +kernel))
  have hsecond : Exec (pacedEnv.iteration 8 : CapProc Unit Unit Bool)
      (pacedState (Proofs.atSecond 200) 2 1) _ (.ok true) (pacedState (Proofs.atSecond 201) 3 2) :=
    iteration_exec rfl rfl (handleFrame_filtered (Proofs.atSecond 201) (by decide) (by decide +kernel)
      (filterFrame_compared _ (.ofNat 5 five_lt_two_pow) rfl (sendFrame_exec _ hbody)))
  have hsame : Exec (pacedEnv.iteration 8 : CapProc Unit Unit Bool)
      (pacedState (Proofs.atSecond 201) 3 2)
      (frameReads ++ ([⟨.framesCaptured, ()⟩] ++ ⟨.now, Proofs.atSecond 202⟩ ::
        (comparedCalls (.ofNat 0 zero_lt_two_pow) ++ [⟨.framesSkipped "duplicate", ()⟩])))
      (.ok true) (pacedState (Proofs.atSecond 202) 4 2) :=
    iteration_exec rfl rfl (handleFrame_filtered (Proofs.atSecond 202) (by decide) (by decide +kernel)
      (filterFrame_compared _ (.ofNat 0 zero_lt_two_pow) rfl (.call (.ret _))))
  have hopened := Transition.Run.single (show CapturerStep pacedEnv (Capturer.start Unit) _ _ from
    .opened rfl hopen)
  have hrun := (((hopened.snoc (.looped rfl hstarts)).snoc (.looped rfl hearly)).snoc
    (.looped rfl hsecond)).snoc (.looped rfl hsame)
  exact ⟨body, _, hrun⟩

end Sample

theorem frames_filtered_pixel : ∃ (body : List UInt8) (c : Capturer Unit),
    CapturerRun pacedEnv (pacedSession body) c ∧
      Along (FilterLaw pacedEnv) (pacedSession body).flatten := by
  obtain ⟨body, c, hrun⟩ := pacedSession_run
  exact ⟨body, c, hrun, frames_filtered hrun⟩

/-! ### The distance of messages -/

/-- The reading of the clock. -/
def nowOf : CapEvent Image Gray → Option WallTime
  | ⟨.now, nowTs⟩ => some nowTs
  | _ => none

lemma seen_snoc (past : CapTrace Image Gray) (d : CapEvent Image Gray) :
    seen (past ++ [d]) = see (seen past) d :=
  seen_append past [d]

lemma see_clock (m : Seen Gray) (d : CapEvent Image Gray) : (see m d).clock = (nowOf d).or m.clock := by
  obtain ⟨op, answer⟩ := d
  cases op with
  | cvtColor =>
    cases answer with
    | ok gray => rfl
    | error e => rfl
  | framesSkipped reason =>
    by_cases hduplicate : reason = "duplicate"
    · simp [see, nowOf, hduplicate]
    · simp [see, nowOf, hduplicate]
  | _ => rfl

lemma seen_clock (past : CapTrace Image Gray) : (seen past).clock = latestOf nowOf past := by
  induction past using List.reverseRecOn with
  | nil => rfl
  | append_singleton past d ih => rw [seen_snoc, see_clock, latestOf_snoc, ih]

/-- The times of the messages so far have their distance, and the latest accepted frame is no earlier. -/
structure Spaced (env : CapturerEnv) (past : CapTrace Image Gray) : Prop where
  spaced : (seen past).sentAt.Pairwise (fun t t' => env.minInterval.gt (t'.elapsed t) = false)
  accepted : ∀ t ∈ (seen past).sentAt, Proofs.timeOf t ≤ Proofs.timeOf (seen past).accepted ∧
    (seen past).accepted ∈ past.filterMap nowOf

/-- A call that neither accepts a frame nor reads the clock. -/
lemma Spaced.still {past : CapTrace Image Gray} {d : CapEvent Image Gray} (h : Spaced env past)
    (hsent : (see (seen past) d).sentAt = (seen past).sentAt)
    (haccepted : (see (seen past) d).accepted = (seen past).accepted) : Spaced env (past ++ [d]) := by
  constructor
  · rw [seen_snoc, hsent]
    exact h.spaced
  · rw [seen_snoc, hsent, haccepted]
    intro t ht
    obtain ⟨hle, hmem⟩ := h.accepted t ht
    rw [List.filterMap_append]
    exact ⟨hle, List.mem_append_left _ hmem⟩

lemma gt_elapsed_mono {x : Binary64} {t t' nowTs : WallTime} (h : Proofs.timeOf t ≤ Proofs.timeOf t')
    (hnow : Proofs.timeOf t' ≤ Proofs.timeOf nowTs) (hgt : x.gt (nowTs.elapsed t') = false) :
    x.gt (nowTs.elapsed t) = false := by
  apply Binary64.gt_sub_mono h hnow _ hgt
  have htop := Proofs.timeOf_le nowTs
  have hbottom := Proofs.neg_timeOf_le t
  apply lt_of_le_of_lt _ Proofs.two_pow_lt_threshold
  change Proofs.timeOf nowTs - Proofs.timeOf t ≤ 2 ^ 35
  linarith

/-- Accepting the frame at hand, whose time is not too early. -/
lemma Spaced.accept {past : CapTrace Image Gray} {d : CapEvent Image Gray} {nowTs : WallTime}
    (h : Spaced env past)
    (hclock : (past.filterMap nowOf).Pairwise (fun t t' => Proofs.timeOf t ≤ Proofs.timeOf t'))
    (hnow : (seen past).clock = some nowTs)
    (hearly : env.minInterval.gt (nowTs.elapsed (seen past).accepted) = false)
    (haccepted : (see (seen past) d).accepted = nowTs)
    (hsent : (see (seen past) d).sentAt = (seen past).sentAt ∨
      (see (seen past) d).sentAt = (seen past).sentAt ++ [nowTs]) : Spaced env (past ++ [d]) := by
  rw [seen_clock] at hnow
  have hmem : nowTs ∈ past.filterMap nowOf := List.mem_of_getLast? hnow
  have hbelow : ∀ t ∈ (seen past).sentAt, Proofs.timeOf (seen past).accepted ≤ Proofs.timeOf nowTs := by
    intro t ht
    obtain ⟨e, he, hread⟩ := List.mem_filterMap.mp (h.accepted t ht).2
    have hrefl : Std.Refl (fun t t' : WallTime => Proofs.timeOf t ≤ Proofs.timeOf t') := ⟨fun _ => le_rfl⟩
    exact latestOf_upper (fun t t' : WallTime => Proofs.timeOf t ≤ Proofs.timeOf t') hclock hnow he hread
  have hle : ∀ t ∈ (seen past).sentAt, Proofs.timeOf t ≤ Proofs.timeOf nowTs :=
    fun t ht => (h.accepted t ht).1.trans (hbelow t ht)
  have hdistance : ∀ t ∈ (seen past).sentAt, env.minInterval.gt (nowTs.elapsed t) = false :=
    fun t ht => gt_elapsed_mono (h.accepted t ht).1 (hbelow t ht) hearly
  constructor
  · rw [seen_snoc]
    rcases hsent with hsent | hsent
    · rw [hsent]
      exact h.spaced
    · rw [hsent]
      exact List.pairwise_append.mpr ⟨h.spaced, List.pairwise_singleton _ _, by simpa using hdistance⟩
  · rw [seen_snoc, haccepted]
    intro t ht
    rw [List.filterMap_append]
    refine ⟨?_, List.mem_append_left _ hmem⟩
    rcases hsent with hsent | hsent
    · exact hle t (hsent ▸ ht)
    · rw [hsent] at ht
      rcases List.mem_append.mp ht with ht | ht
      · exact hle t ht
      · rw [List.mem_singleton.mp ht]

lemma spaced_of_law {past : CapTrace Image Gray} (h : Along (FilterLaw env) past)
    (hclock : (past.filterMap nowOf).Pairwise (fun t t' => Proofs.timeOf t ≤ Proofs.timeOf t')) :
    Spaced env past := by
  induction past using List.reverseRecOn with
  | nil => exact ⟨List.Pairwise.nil, by simp [seen, Seen.nothing]⟩
  | append_singleton past d ih =>
    obtain ⟨hpast, hlaw⟩ := along_snoc_iff.mp h
    rw [List.filterMap_append] at hclock
    have hclock' := (List.pairwise_append.mp hclock).1
    have hspaced := ih hpast hclock'
    obtain ⟨op, answer⟩ := d
    cases op with
    | framesSent =>
      obtain ⟨⟨nowTs, hnow, hearly⟩, -⟩ := hlaw
      refine hspaced.accept hclock' hnow hearly ?_ (Or.inr ?_)
      · simp [see, hnow]
      · simp [see, hnow]
    | framesSkipped reason =>
      rcases hlaw with ⟨rfl, -⟩ | ⟨rfl, ⟨nowTs, hnow, hearly⟩, -⟩
      · exact hspaced.still (by simp [see]) (by simp [see])
      · refine hspaced.accept hclock' hnow hearly ?_ (Or.inl ?_)
        · simp [see, hnow]
        · simp [see]
    | cvtColor frame =>
      cases answer with
      | ok gray => exact hspaced.still rfl rfl
      | error e => exact hspaced.still rfl rfl
    | _ => exact hspaced.still rfl rfl

/-- Whatever happens between two messages, the clock has advanced by the minimal interval. -/
theorem messages_spaced {labels : List (CapTrace Image Gray)} (h : CapturerRun env labels c)
    (hclock : (labels.flatten.filterMap nowOf).Pairwise
      (fun t t' => Proofs.timeOf t ≤ Proofs.timeOf t')) :
    (seen labels.flatten).sentAt.Pairwise
      (fun t t' => env.minInterval.gt (t'.elapsed t) = false) :=
  (spaced_of_law (filters_run h).law hclock).spaced

theorem messages_spaced_pixel : ∃ (body : List UInt8) (c : Capturer Unit),
    CapturerRun pacedEnv (pacedSession body) c ∧
      (seen (pacedSession body).flatten).sentAt = [Proofs.atSecond 200, Proofs.atSecond 201] ∧
      (seen (pacedSession body).flatten).sentAt.Pairwise
        (fun t t' => pacedEnv.minInterval.gt (t'.elapsed t) = false) := by
  obtain ⟨body, c, hrun⟩ := pacedSession_run
  have hclock : (pacedSession body).flatten.filterMap nowOf =
      [Proofs.atSecond 200, Proofs.atSecond 200, Proofs.atSecond 201, Proofs.atSecond 202] := rfl
  refine ⟨body, c, hrun, rfl, messages_spaced hrun ?_⟩
  rw [hclock]
  decide +kernel

/-! ### The counters -/

def isCaptured : CapEvent Image Gray → Bool
  | ⟨.framesCaptured, _⟩ => true
  | _ => false

def isSent : CapEvent Image Gray → Bool
  | ⟨.framesSent, _⟩ => true
  | _ => false

def isSkipped (reason : String) : CapEvent Image Gray → Bool
  | ⟨.framesSkipped reason', _⟩ => reason' == reason
  | _ => false

def isNotEncoded : CapEvent Image Gray → Bool
  | ⟨.captureErrors errorType, _⟩ => errorType == "encoding_failed"
  | _ => false

/-- A call about the picture that raises. -/
def isBroken : CapEvent Image Gray → Bool
  | ⟨.reshape _, .error _⟩ | ⟨.cvtColor _, .error _⟩ | ⟨.meanSquaredError _ _, .error _⟩
  | ⟨.imencode _ _, .error _⟩ | ⟨.basicPublish _ _ _, .error _⟩ => true
  | _ => false

/-- The frames that were counted, by what became of them. -/
def Balanced (calls : CapTrace Image Gray) : Prop :=
  calls.countP isCaptured = calls.countP isSent + calls.countP (isSkipped "rate_limit") +
    calls.countP (isSkipped "duplicate") + calls.countP isNotEncoded + calls.countP isBroken

/-- No frame arrives, and one that had arrived is accounted for. -/
def Settles (calls : CapTrace Image Gray) : Prop :=
  calls.countP isCaptured = 0 ∧ calls.countP isSent + calls.countP (isSkipped "rate_limit") +
    calls.countP (isSkipped "duplicate") + calls.countP isNotEncoded + calls.countP isBroken = 1

structure Uncounted (d : CapEvent Image Gray) : Prop where
  captured : isCaptured d = false
  sent : isSent d = false
  skipped : ∀ reason, isSkipped reason d = false
  encoded : isNotEncoded d = false
  unbroken : isBroken d = false

lemma Balanced.append {t t' : CapTrace Image Gray} (h : Balanced t) (h' : Balanced t') :
    Balanced (t ++ t') := by
  unfold Balanced at *
  simp only [List.countP_append]
  omega

lemma countP_of_forall {p : CapEvent Image Gray → Bool} {t : CapTrace Image Gray}
    (h : ∀ d ∈ t, p d = false) : t.countP p = 0 := by
  rw [List.countP_eq_zero]
  intro d hd
  rw [h d hd]
  exact Bool.false_ne_true

lemma Settles.after {t t' : CapTrace Image Gray} (h : ∀ d ∈ t, Uncounted d) (h' : Settles t') :
    Settles (t ++ t') := by
  unfold Settles at *
  simp only [List.countP_append, countP_of_forall (fun d hd => (h d hd).captured),
    countP_of_forall (fun d hd => (h d hd).sent), countP_of_forall (fun d hd => (h d hd).skipped _),
    countP_of_forall (fun d hd => (h d hd).encoded), countP_of_forall (fun d hd => (h d hd).unbroken),
    zero_add]
  exact h'

lemma balanced_of_uncounted {t : CapTrace Image Gray} (h : ∀ d ∈ t, Uncounted d) : Balanced t := by
  unfold Balanced
  simp only [countP_of_forall (fun d hd => (h d hd).captured),
    countP_of_forall (fun d hd => (h d hd).sent), countP_of_forall (fun d hd => (h d hd).skipped _),
    countP_of_forall (fun d hd => (h d hd).encoded), countP_of_forall (fun d hd => (h d hd).unbroken)]

/-- A frame that arrives and is accounted for. -/
lemma Settles.balanced {t : CapTrace Image Gray} (s : CapturerState Gray) (nowTs : WallTime)
    (h : Settles t) : Balanced (arrival s nowTs ++ t) := by
  have hrest : ∀ d ∈ (heartbeatOf s ++ [⟨.now, nowTs⟩] : CapTrace Image Gray), Uncounted d := by
    intro d hd
    unfold heartbeatOf at hd
    rcases List.mem_append.mp hd with hd | hd
    · split_ifs at hd
      · rw [List.mem_singleton.mp hd]
        exact ⟨rfl, rfl, fun _ => rfl, rfl, rfl⟩
      · cases hd
    · rw [List.mem_singleton.mp hd]
      exact ⟨rfl, rfl, fun _ => rfl, rfl, rfl⟩
  obtain ⟨hcaptured, hfates⟩ := Settles.after hrest h
  have hcons : arrival s nowTs ++ t = ⟨.framesCaptured, ()⟩ :: (heartbeatOf s ++ [⟨.now, nowTs⟩] ++ t) := rfl
  rw [hcons, Balanced, List.countP_cons_of_pos rfl, hcaptured, List.countP_cons_of_neg Bool.false_ne_true,
    List.countP_cons_of_neg Bool.false_ne_true, List.countP_cons_of_neg Bool.false_ne_true,
    List.countP_cons_of_neg Bool.false_ne_true, List.countP_cons_of_neg Bool.false_ne_true, hfates]

lemma settles_send {mqChannel : ℕ} {frame : Image} {nowTs : WallTime} {s s' : CapturerState Gray}
    {t : CapTrace Image Gray} {r : Except Exn Unit} (h : SendRuns env mqChannel frame nowTs s t r s') :
    Settles t := by
  cases h with
  | raised => exact ⟨rfl, rfl⟩
  | notEncoded => exact ⟨rfl, rfl⟩
  | notPublished => exact ⟨rfl, rfl⟩
  | sent => exact ⟨rfl, rfl⟩

lemma settles_filter {mqChannel : ℕ} {rawFrame : List UInt8} {nowTs : WallTime} {s s' : CapturerState Gray}
    {t : CapTrace Image Gray} {r : Except Exn Unit}
    (h : FilterRuns env mqChannel rawFrame nowTs s t r s') : Settles t := by
  cases h with
  | notReshaped => exact ⟨rfl, rfl⟩
  | notConverted => exact ⟨rfl, rfl⟩
  | notCompared => exact ⟨rfl, rfl⟩
  | duplicate => exact ⟨rfl, rfl⟩
  | passed hpasses hsend =>
    generalize s.lastFrameGray = last at hpasses
    refine Settles.after ?_ (settles_send hsend)
    intro d hd
    rcases List.mem_append.mp hd with hd | hd
    · simp only [List.mem_cons, List.not_mem_nil, or_false] at hd
      rcases hd with rfl | rfl <;> exact ⟨rfl, rfl, fun _ => rfl, rfl, rfl⟩
    · cases hpasses with
      | first => cases hd
      | moved =>
        rw [List.mem_singleton.mp hd]
        exact ⟨rfl, rfl, fun _ => rfl, rfl, rfl⟩

lemma balanced_frame {mqChannel : ℕ} {rawFrame : List UInt8} {s s' : CapturerState Gray}
    {t : CapTrace Image Gray} {r : Except Exn Unit}
    (h : FrameRuns env mqChannel rawFrame s t r s') : Balanced t := by
  cases h with
  | rateLimited => exact Settles.balanced _ _ ⟨rfl, rfl⟩
  | filtered _ hfilter => exact (settles_filter hfilter).balanced _ _

lemma uncounted_aside {d : CapEvent Image Gray} (h : IsAside d.1) (hencoded : isNotEncoded d = false) :
    Uncounted d := by
  obtain ⟨op, answer⟩ := d
  cases op with
  | framesCaptured => exact h.elim
  | framesSent => exact h.elim
  | framesSkipped => exact h.elim
  | logHeartbeat => exact h.elim
  | now => exact h.elim
  | reshape => exact h.elim
  | cvtColor => exact h.elim
  | meanSquaredError => exact h.elim
  | imencode => exact h.elim
  | basicPublish => exact h.elim
  | _ => exact ⟨rfl, rfl, fun _ => rfl, hencoded, rfl⟩

lemma IsRead.uncounted {d : CapEvent Image Gray} (h : IsRead d) : Uncounted d := by
  apply uncounted_aside h.aside
  obtain ⟨op, answer⟩ := d
  cases op with
  | read => rfl
  | _ => exact h.elim

lemma IsKill.uncounted {d : CapEvent Image Gray} (h : IsKill d) : Uncounted d := by
  apply uncounted_aside h.aside
  obtain ⟨op, answer⟩ := d
  cases op with
  | kill => rfl
  | wait => rfl
  | _ => exact h.elim

lemma balanced_iteration {mqChannel : ℕ} {s s' : CapturerState Gray} {t : CapTrace Image Gray}
    {r : Except Exn Bool} (h : IterationRuns env mqChannel s t r s') : Balanced t := by
  have hreading : ∀ {now : ClockTime} {t₁ t₂ : CapTrace Image Gray} {s₁ : CapturerState Gray},
      Started s t₁ s₁ → (∀ d ∈ t₂, IsRead d) → Balanced (⟨.clockTime, now⟩ :: t₁ ++ t₂) := by
    intro now t₁ t₂ s₁ hstart hreads
    apply balanced_of_uncounted
    intro d hd
    rcases List.mem_append.mp hd with hd | hd
    · rcases List.mem_cons.mp hd with rfl | hd
      · exact uncounted_aside trivial rfl
      · cases hstart with
        | running => cases hd
        | spawned =>
          rw [List.mem_singleton.mp hd]
          exact uncounted_aside trivial rfl
    · exact (hreads d hd).uncounted
  cases h with
  | @outside now t s' hkills =>
    apply balanced_of_uncounted
    intro d hd
    rcases List.mem_append.mp hd with hd | hd
    · rcases List.mem_cons.mp hd with rfl | hd
      · exact uncounted_aside trivial rfl
      · exact (hkills d hd).uncounted
    · rw [List.mem_singleton.mp hd]
      exact uncounted_aside trivial rfl
  | notStarted => rfl
  | notRead hstart hreads => exact hreading hstart hreads
  | lost hstart hreads hsize hkills =>
    apply (hreading hstart hreads.reads).append
    apply balanced_of_uncounted
    intro d hd
    rcases List.mem_cons.mp hd with rfl | hd
    · exact uncounted_aside trivial rfl
    · exact (hkills d hd).uncounted
  | handled hstart hreads hsize hframe => exact (hreading hstart hreads.reads).append (balanced_frame hframe)

lemma balanced_closing {closing : CapTrace Image Gray} {failed : Bool} {connection : Option ℕ}
    {s s' : CapturerState Gray} {r : Except Exn Unit}
    (h : Exec (CapturerEnv.closeSession failed connection) s closing r s') : Balanced closing := by
  apply balanced_of_uncounted
  rintro ⟨op, answer⟩ hd
  have hclosing := (uses_closeSession failed connection).calls _ _ _ _ h _ hd
  cases op with
  | sleep => exact uncounted_aside trivial rfl
  | terminate => exact uncounted_aside trivial rfl
  | closeConnection => exact uncounted_aside trivial rfl
  | _ => exact hclosing.elim

lemma balanced_step (hstep : CapturerStep env c calls c') : Balanced calls := by
  cases hstep with
  | opened hphase hexec =>
    obtain ⟨-, rfl⟩ := exec_openSession hexec
    rfl
  | refused hphase hexec hclosing =>
    obtain ⟨-, rfl⟩ := exec_openSession hexec
    exact Balanced.append rfl (balanced_closing hclosing)
  | looped hphase hexec => exact balanced_iteration (exec_iteration hexec)
  | left hphase hexec hclosing =>
    exact (balanced_iteration (exec_iteration hexec)).append (balanced_closing hclosing)
  | failed hphase hexec hclosing =>
    exact (balanced_iteration (exec_iteration hexec)).append (balanced_closing hclosing)

/-- Every frame counted as captured is counted once more, or a call about its picture raised. -/
theorem frames_counted {labels : List (CapTrace Image Gray)} (h : CapturerRun env labels c) :
    Balanced labels.flatten := by
  apply h.invariant (fun labels _ => Balanced labels.flatten)
  · rfl
  · intro labels c label c' hinv hstep
    rw [List.flatten_append, List.flatten_singleton]
    exact hinv.append (balanced_step hstep)

theorem frames_counted_pixel : ∃ (body : List UInt8) (c : Capturer Unit),
    CapturerRun pacedEnv (pacedSession body) c ∧ Balanced (pacedSession body).flatten := by
  obtain ⟨body, c, hrun⟩ := pacedSession_run
  exact ⟨body, c, hrun, frames_counted hrun⟩

end Runs

end IntruderWatch.PyCapturer
