import IntruderWatch.Proofs.FrameDelivery

/-!
# Frame accounting

Every captured frame is counted in one of seven outcomes, or it is still undecided: with the main
loop, in the channel, or with the worker. A tally that runs beside the machine numbers the frames
as they are captured and notes which frame the counting goroutine holds whenever a counter rises.
-/

namespace IntruderWatch.Proofs
open Pipeline Transition

/-! ### Outcomes -/

inductive FrameOutcome
  | skipped (reason : SkipReason)
  | sent
  | encodingFailed
  | publishFailed
deriving DecidableEq

namespace FrameOutcome

def all : List FrameOutcome :=
  [.skipped .rateLimit, .skipped .lightingShift, .skipped .duplicate, .skipped .backpressure, .sent,
    .encodingFailed, .publishFailed]

def counter (m : Metrics) : FrameOutcome → ℕ
  | skipped reason => m.framesSkipped reason
  | sent => m.framesSent
  | encodingFailed => m.captureErrors .encodingFailed
  | publishFailed => m.captureErrors .publishFailed

/-- The item of the goroutine that counts the outcome. -/
def holder (s : Pipeline) : FrameOutcome → List ℕ
  | skipped _ => mainHeld s.main
  | sent | encodingFailed | publishFailed => workerHeld s.worker

end FrameOutcome

/-! ### The tally -/

/-- The number of the frame in each item, and the frames counted so far with their outcomes. -/
structure Tally where
  frameOf : ℕ → ℕ
  counted : List (ℕ × FrameOutcome)

namespace Tally

def start : Tally where
  frameOf := fun _ => 0
  counted := []

/-- A frame gets its number when its read is complete. -/
def number (t : Tally) (s : Pipeline) : PipelineEvent → ℕ → ℕ
  | .frameRead =>
    match s.main with
    | .reading item _ _ => Function.update t.frameOf item s.metrics.framesCaptured
    | _ => t.frameOf
  | _ => t.frameOf

/-- The frames behind the counters that rose from `s` to `s'`. -/
def rises (t : Tally) (s s' : Pipeline) : List (ℕ × FrameOutcome) :=
  (FrameOutcome.all.filter (fun o => o.counter s.metrics < o.counter s'.metrics)).flatMap
    (fun o => (o.holder s).map (fun item => (t.frameOf item, o)))

def note (t : Tally) (s : Pipeline) (e : PipelineEvent) (s' : Pipeline) : Tally where
  frameOf := t.number s e
  counted := t.counted ++ t.rises s s'

end Tally

/-- The machine with its tally. -/
def tallyStep (cfg : Config) (enc : Encoders) (minInterval : Duration) (st : Pipeline × Tally)
    (e : PipelineEvent) : Option ((Pipeline × Tally) × Observation) := do
  let (s', o) ← st.1.step cfg enc minInterval e
  some ((s', st.2.note st.1 e s'), o)

/-! ### What is still undecided -/

/-- The captured frame that the loop has not decided on. -/
def undecidedMain : MainState → List ℕ
  | .captured item _ | .submitting item _ => [item]
  | _ => []

/-- The items of frames that are captured and not yet counted. -/
def undecided (s : Pipeline) : List ℕ :=
  undecidedMain s.main ++ (s.frameChan ++ unfinished s.worker)

/-- Every captured frame is counted once or undecided, and the counters count the outcomes. -/
structure Accounted (s : Pipeline) (t : Tally) : Prop where
  counters : ∀ o : FrameOutcome, o.counter s.metrics = (t.counted.map Prod.snd).count o
  frames : (t.counted.map Prod.fst ++ (undecided s).map t.frameOf).Perm
    (List.range s.metrics.framesCaptured)

section

variable {cfg : Config} {enc : Encoders} {minInterval : Duration} {s s' : Pipeline} {t : Tally}
  {e : PipelineEvent} {o : Observation}

lemma rises_nil (h : ∀ o : FrameOutcome, o.counter s'.metrics = o.counter s.metrics) :
    t.rises s s' = [] := by
  unfold Tally.rises
  rw [List.filter_eq_nil_iff.mpr (by simp [h])]
  rfl

/-- One counter rises by one, and its goroutine holds one item. -/
lemma rises_one {outcome : FrameOutcome} {item : ℕ}
    (h : ∀ o : FrameOutcome,
      o.counter s'.metrics = o.counter s.metrics + if o = outcome then 1 else 0)
    (hholder : outcome.holder s = [item]) : t.rises s s' = [(t.frameOf item, outcome)] := by
  have hfilter : FrameOutcome.all.filter (fun o => o.counter s.metrics < o.counter s'.metrics) =
      [outcome] := by
    have hcongr : FrameOutcome.all.filter (fun o => o.counter s.metrics < o.counter s'.metrics) =
        FrameOutcome.all.filter (fun o => o = outcome) := by
      apply List.filter_congr
      intro o _
      rw [h o]
      by_cases ho : o = outcome <;> simp [ho]
    rw [hcongr]
    cases outcome with
    | skipped reason => cases reason <;> rfl
    | _ => rfl
  unfold Tally.rises
  rw [hfilter]
  simp [hholder]

/-- A step that counts nothing and captures nothing. -/
lemma Accounted.quiet (hs : Accounted s t) (hnumber : t.number s e = t.frameOf)
    (hcounter : ∀ o : FrameOutcome, o.counter s'.metrics = o.counter s.metrics)
    (hcaptured : s'.metrics.framesCaptured = s.metrics.framesCaptured)
    (hundecided : (undecided s').Perm (undecided s)) : Accounted s' (t.note s e s') := by
  have hcounted : (t.note s e s').counted = t.counted := by
    simp [Tally.note, rises_nil hcounter]
  constructor
  · intro o
    rw [hcounter, hcounted]
    exact hs.counters o
  · rw [hcounted, hcaptured]
    change (t.counted.map Prod.fst ++ (undecided s').map (t.number s e)).Perm _
    rw [hnumber]
    exact ((hundecided.map _).append_left _).trans hs.frames

/-- A step that counts the frame of one item. -/
lemma Accounted.counts {outcome : FrameOutcome} {item : ℕ} (hs : Accounted s t)
    (hnumber : t.number s e = t.frameOf)
    (hcounter : ∀ o : FrameOutcome,
      o.counter s'.metrics = o.counter s.metrics + if o = outcome then 1 else 0)
    (hholder : outcome.holder s = [item])
    (hcaptured : s'.metrics.framesCaptured = s.metrics.framesCaptured)
    (hundecided : (item :: undecided s').Perm (undecided s)) : Accounted s' (t.note s e s') := by
  have hcounted : (t.note s e s').counted = t.counted ++ [(t.frameOf item, outcome)] := by
    simp [Tally.note, rises_one hcounter hholder]
  constructor
  · intro o
    rw [hcounter, hcounted, hs.counters o, List.map_append, List.count_append]
    congr 1
    rw [List.map_singleton, List.count_singleton]
    by_cases ho : o = outcome
    · simp [ho]
    · simp [ho, Ne.symm ho]
  · rw [hcounted, hcaptured]
    change ((t.counted ++ [(t.frameOf item, outcome)]).map Prod.fst ++
      (undecided s').map (t.number s e)).Perm _
    rw [hnumber, List.map_append, List.append_assoc]
    exact ((hundecided.map _).append_left _).trans hs.frames

lemma captured_counter (m : Metrics) (o : FrameOutcome) : o.counter m.captured = o.counter m := by
  cases o <;> rfl

lemma sent_counter (m : Metrics) (o : FrameOutcome) :
    o.counter m.sent = o.counter m + if o = .sent then 1 else 0 := by
  cases o <;> simp [FrameOutcome.counter, Metrics.sent]

lemma skipped_counter (m : Metrics) (reason : SkipReason) (o : FrameOutcome) :
    o.counter (m.skipped reason) = o.counter m + if o = .skipped reason then 1 else 0 := by
  cases o with
  | skipped r =>
    by_cases h : r = reason
    · subst h
      simp [FrameOutcome.counter, Metrics.skipped]
    · simp [FrameOutcome.counter, Metrics.skipped, h]
  | _ => simp [FrameOutcome.counter, Metrics.skipped]

lemma failed_counter (m : Metrics) (error : CaptureError) (o : FrameOutcome) :
    o.counter (m.failed error) = o.counter m +
      if o = .encodingFailed ∧ error = .encodingFailed ∨ o = .publishFailed ∧ error = .publishFailed
      then 1 else 0 := by
  cases o <;> cases error <;> simp [FrameOutcome.counter, Metrics.failed, Function.update]

lemma not_mem_undecided (howned : Owned s) {item : ℕ} (hitem : item ∈ mainHeld s.main)
    (hmain : undecidedMain s.main = []) : item ∉ undecided s := by
  obtain ⟨-, -, hchan, hworker⟩ := howned.main_alone hitem
  rw [undecided, hmain, List.nil_append, List.mem_append]
  rintro (hmem | hmem)
  · exact hchan hmem
  · exact hworker (unfinished_subset_held hmem)

/-- A step that captures the frame being read. -/
lemma Accounted.captures {item : ℕ} {now : Clock} {n : ℕ} (hs : Accounted s t) (howned : Owned s)
    (hmain : s.main = .reading item now n) :
    Accounted { s with main := .captured item now, metrics := s.metrics.captured }
      (t.note s .frameRead { s with main := .captured item now, metrics := s.metrics.captured }) := by
  have hfresh : item ∉ undecided s :=
    not_mem_undecided howned (by simp [hmain, mainHeld]) (by rw [hmain]; rfl)
  have hcounted : (t.note s .frameRead
      { s with main := .captured item now, metrics := s.metrics.captured }).counted = t.counted := by
    have hnone : t.rises s { s with main := .captured item now, metrics := s.metrics.captured } = [] :=
      rises_nil (captured_counter s.metrics)
    exact (congrArg _ hnone).trans (List.append_nil _)
  have hnumber : t.number s .frameRead =
      Function.update t.frameOf item s.metrics.framesCaptured := by
    unfold Tally.number
    rw [hmain]
  have hold : (undecided s).map (Function.update t.frameOf item s.metrics.framesCaptured) =
      (undecided s).map t.frameOf := by
    apply List.map_congr_left
    intro r hr
    apply Function.update_of_ne
    rintro rfl
    exact hfresh hr
  constructor
  · intro o
    rw [hcounted, captured_counter]
    exact hs.counters o
  · rw [hcounted]
    change (t.counted.map Prod.fst ++
      (item :: (s.frameChan ++ unfinished s.worker)).map (t.number s .frameRead)).Perm
      (List.range (s.metrics.framesCaptured + 1))
    have hundecided : undecided s = s.frameChan ++ unfinished s.worker := by
      rw [undecided, hmain]
      rfl
    rw [← hundecided, hnumber, List.map_cons, Function.update_self, hold, List.range_succ]
    exact List.perm_middle.trans ((List.perm_append_singleton _ _).symm.trans
      (hs.frames.append_right _))

/-- The frame of the worker is the last of the undecided ones. -/
lemma decided_worker {item : ℕ} (hbefore : unfinished s.worker = [item])
    (hafter : unfinished s'.worker = []) (hmain : s'.main = s.main)
    (hchan : s'.frameChan = s.frameChan) : (item :: undecided s').Perm (undecided s) := by
  rw [undecided, undecided, hmain, hchan, hbefore, hafter, List.append_nil, ← List.append_assoc]
  exact (List.perm_append_singleton item _).symm

/-- Marshalling a payload does not fail. -/
def MarshalOk (enc : Encoders) : Prop :=
  ∀ payload, ∃ message, enc.marshal payload = .ok message

theorem Accounted.step (hmarshal : MarshalOk enc) (howned : Owned s) (hs : Accounted s t)
    (hmove : Moves cfg enc minInterval s e o s') : Accounted s' (t.note s e s') := by
  cases hmove with
  | startError hm =>
    apply hs.quiet
    · rfl
    · intro o
      rw [failed_counter]
      simp
    · rfl
    · exact List.Perm.refl _
  | reset hm | cancel =>
    apply hs.quiet
    · rfl
    · exact fun _ => rfl
    · rfl
    · exact List.Perm.refl _
  | mainStop hm | acquirePooled hm | acquireFresh hm | readChunk hm | readError hm | dispatch hm
  | submitted hm =>
    apply hs.quiet
    · rfl
    · exact fun _ => rfl
    · rfl
    · simp [undecided, undecidedMain, hm]
  | frameRead hm => exact hs.captures howned hm
  | skip hm | backpressure hm =>
    apply hs.counts
    · rfl
    · exact skipped_counter _ _
    · exact congrArg mainHeld hm
    · rfl
    · simp [undecided, undecidedMain, hm]
  | @mainRelease item readFailed hm =>
    apply hs.quiet
    · rfl
    · intro o
      cases readFailed with
      | false => rfl
      | true =>
        change FrameOutcome.counter (s.metrics.failed .networkSyncLost) o = _
        rw [failed_counter]
        simp
    · cases readFailed <;> rfl
    · simp [undecided, undecidedMain, hm]
  | workerReceive hw hchan =>
    apply hs.quiet
    · rfl
    · exact fun _ => rfl
    · rfl
    · have hidle : unfinished .idle = [] := rfl
      rw [undecided, undecided, hw, hchan, hidle, List.append_nil]
      exact (List.perm_append_singleton _ _).append_left _
  | workerStop hw | encodeByte hw | encoded hw | built hw | workerRelease hw =>
    apply hs.quiet
    · rfl
    · exact fun _ => rfl
    · rfl
    · simp [undecided, unfinished, hw]
  | encodingFailed hw =>
    apply @Accounted.counts _ _ _ _ .encodingFailed _ hs
    · rfl
    · intro o
      rw [failed_counter]
      simp
    · exact congrArg workerHeld hw
    · rfl
    · exact decided_worker (congrArg unfinished hw) rfl rfl rfl
  | marshalFailed hw herror =>
    obtain ⟨message, hok⟩ := hmarshal (framePayload cfg enc _ (s.heap _).motionBox (s.heap _).isPostRoll)
    rw [hok] at herror
    cases herror
  | published hw =>
    apply hs.counts
    · rfl
    · exact sent_counter _
    · exact congrArg workerHeld hw
    · rfl
    · exact decided_worker (congrArg unfinished hw) rfl rfl rfl
  | publishFailed hw =>
    apply @Accounted.counts _ _ _ _ .publishFailed _ hs
    · rfl
    · intro o
      rw [failed_counter]
      simp
    · exact congrArg workerHeld hw
    · rfl
    · exact decided_worker (congrArg unfinished hw) rfl rfl rfl

/-! ### Runs -/

lemma accounted_start (d : MacroblockDetector) : Accounted (Pipeline.start d) Tally.start := by
  constructor
  · intro o
    cases o <;> rfl
  · exact List.Perm.refl _

/-- A run of the machine is a run with its tally. -/
lemma tally_run (hmarshal : MarshalOk enc) {d : MacroblockDetector}
    {trace : List (PipelineEvent × Observation)}
    (hrun : Run (PipelineSteps cfg enc minInterval) (Pipeline.start d) trace s) :
    ∃ t, Run (Steps (tallyStep cfg enc minInterval)) (Pipeline.start d, Tally.start) trace (s, t) ∧
      Accounted s t := by
  induction hrun with
  | nil => exact ⟨Tally.start, Run.nil, accounted_start d⟩
  | @snoc trace s label s' hrun hstep ih =>
    obtain ⟨t, htally, hs⟩ := ih
    have hnote : Steps (tallyStep cfg enc minInterval) (s, t) label (s', t.note s label.1 s') := by
      have hmachine : s.step cfg enc minInterval label.1 = some (s', label.2) := hstep
      simp [Steps, tallyStep, hmachine]
    exact ⟨_, htally.snoc hnote, hs.step hmarshal (run_owned hrun) (step_moves hstep)⟩

lemma length_eq_counts (outcomes : List FrameOutcome) :
    outcomes.length = (FrameOutcome.all.map outcomes.count).sum := by
  induction outcomes with
  | nil => rfl
  | cons outcome outcomes ih =>
    have hone : ∀ os : List FrameOutcome, (os.map (outcome :: outcomes).count).sum =
        (os.map outcomes.count).sum + os.count outcome := by
      intro os
      induction os with
      | nil => rfl
      | cons o os ihos =>
        rw [List.map_cons, List.sum_cons, ihos, List.map_cons, List.sum_cons, List.count_cons,
          List.count_cons]
        by_cases h : o = outcome
        · subst h
          simp only [beq_self_eq_true, if_true]
          omega
        · have h' : ¬ outcome = o := fun heq => h heq.symm
          simp only [beq_iff_eq, h, h', if_false]
          omega
    have hmember : FrameOutcome.all.count outcome = 1 := by
      cases outcome with
      | skipped reason => cases reason <;> rfl
      | _ => rfl
    rw [List.length_cons, hone, hmember, ih]

end

/-- In every interleaving of loop and worker each captured frame is counted in exactly one outcome
or still undecided, so that the counters add up. -/
theorem frames_accounted (cfg : Config) (enc : Encoders) (minInterval : Duration)
    (hmarshal : MarshalOk enc) (d : MacroblockDetector) (trace : List (PipelineEvent × Observation))
    (s : Pipeline) (hrun : Run (PipelineSteps cfg enc minInterval) (Pipeline.start d) trace s) :
    (∃ t, Run (Steps (tallyStep cfg enc minInterval)) (Pipeline.start d, Tally.start) trace (s, t) ∧
      Accounted s t) ∧
    s.metrics.framesCaptured =
      s.metrics.framesSkipped .rateLimit + s.metrics.framesSkipped .lightingShift +
        s.metrics.framesSkipped .duplicate + s.metrics.framesSkipped .backpressure +
      s.metrics.framesSent + s.metrics.captureErrors .encodingFailed +
      s.metrics.captureErrors .publishFailed + s.frameChan.length + (unfinished s.worker).length +
      (undecidedMain s.main).length := by
  obtain ⟨t, htally, hs⟩ := tally_run hmarshal hrun
  refine ⟨⟨t, htally, hs⟩, ?_⟩
  have hlength := hs.frames.length_eq
  have hcounts := length_eq_counts (t.counted.map Prod.snd)
  have hcounters : FrameOutcome.all.map (t.counted.map Prod.snd).count =
      FrameOutcome.all.map (FrameOutcome.counter s.metrics) := by
    apply List.map_congr_left
    intro o _
    exact (hs.counters o).symm
  rw [hcounters] at hcounts
  simp only [FrameOutcome.all, FrameOutcome.counter, List.map_cons, List.map_nil, List.sum_cons,
    List.sum_nil, List.length_map] at hcounts
  simp only [undecided, List.length_append, List.length_map, List.length_range] at hlength
  omega

/-- Both frames of the run are accounted for. -/
theorem frames_accounted_twoFrames : ∃ d s, newMacroblockDetector twoPixelConfig = some d ∧
    Run (PipelineSteps twoPixelConfig plainEncoders 500) (Pipeline.start d)
      (twoFrameEvents.zip twoFrameObservations) s ∧ ∃ t, Accounted s t := by
  obtain ⟨d, s, hd, hrun⟩ := twoFrames_run
  obtain ⟨⟨t, -, hs⟩, -⟩ := frames_accounted twoPixelConfig plainEncoders 500
    (fun payload => ⟨payload.image, rfl⟩) d (twoFrameEvents.zip twoFrameObservations) s hrun
  exact ⟨d, s, hd, hrun, t, hs⟩

end IntruderWatch.Proofs
