import IntruderWatch.Loop
import IntruderWatch.Library.Histories
import IntruderWatch.Proofs.MotionScan

/-!
# The loop decides by the history of its frames

The ingestion loop keeps its past in four variables. The invariant below reads each of
them off the reports of the earlier frames: `lastSentTime` is the time of the latest
settled frame, `lastMotionTime` and `lastMotionBox` come from the latest frame with motion.
From it every report obeys a law that mentions the earlier reports only.
-/

namespace IntruderWatch.Proofs
open MacroblockDetector History

/-! ### Results of the analysis -/

/-- A motion result is no lighting shift, and it has a box when it needs an active block. -/
def SoundMotion (cfg : Config) (m : MotionResult) : Prop :=
  m.hasMotion = true → m.isLightingShift = false ∧ (1 ≤ cfg.minActiveBlocks → m.motionBox.isSome)

/-- A scan that counts an active block has seen the column of one. -/
lemma scan_maxBX_nonneg {cfg : Config} {d : MacroblockDetector} {currentY : Bytes}
    (hactive : 0 < (scan cfg d currentY).activeBlocks) : 0 ≤ (scan cfg d currentY).maxBX := by
  rw [scan_activeBlocks, Running.count_eq] at hactive
  have hpos : 0 < ((watched cfg d).filter (activeBlock d currentY)).length := by omega
  obtain ⟨b, hb⟩ := List.exists_mem_of_length_pos hpos
  obtain ⟨hmem, hb⟩ := List.mem_filter.mp hb
  rw [scan_maxBX]
  have hcol := (mem_blocks.mp (mem_watched.mp hmem).1).1.1
  exact hcol.trans (Running.le_greatest (-1) hmem (by simpa using hb))

lemma Configured.analyze_sound {cfg : Config} {d : MacroblockDetector} (hd : Configured cfg d)
    {currentY : Bytes} (hcur : FullPlane cfg currentY) :
    ∃ m, d.analyze currentY = some (d.remember currentY, m) ∧ SoundMotion cfg m := by
  refine ⟨_, hd.analyze_eq hcur, ?_⟩
  intro hmotion
  by_cases hlast : d.hasLastFrame = true
  · rw [if_pos hlast] at hmotion ⊢
    have hboth := hmotion
    simp only [scanResult, Bool.and_eq_true, decide_eq_true_eq, Bool.not_eq_true'] at hboth
    refine ⟨hboth.2, ?_⟩
    intro hmin
    have hactive : 0 < (scan cfg d currentY).activeBlocks := by
      have hle := hboth.1
      rw [hd.minActiveBlocks] at hle
      omega
    have hmax := scan_maxBX_nonneg hactive
    have hm : (decide (d.minActiveBlocks ≤ (scan cfg d currentY).activeBlocks) &&
        !decide (d.lightingShiftRatio ≤
          ((scan cfg d currentY).activeBlocks : ℚ) / (d.effectiveBlocks : ℚ))) = true := hmotion
    simp only [scanResult, hm, hmax, decide_true, Bool.and_self, if_true, Option.isSome_some]
  · rw [if_neg hlast] at hmotion
    exact absurd hmotion Bool.false_ne_true

/-! ### The law of a report -/

/-- Analysed, and not handed to a `Submit` that failed. -/
def settled (r : Report) : Bool :=
  r.motion.isSome && (r.handed.isNone || r.accepted)

def moved (r : Report) : Bool :=
  r.motion.any (fun m => m.hasMotion)

def boxOf (r : Report) : Option Box :=
  r.motion.bind (fun m => m.motionBox)

/-- What the history `past` of a run lets the loop do with its next frame. -/
structure DispatchLaw (cfg : Config) (minInterval : Duration) (past : List Report) (r : Report) :
    Prop where
  analysed : r.motion.isSome ↔ ∀ j, latest settled past = some j → minInterval ≤ r.now - j.now
  handed : r.handed.isSome ↔ ∃ m, r.motion = some m ∧ m.isLightingShift = false ∧
    (m.hasMotion = true ∨ ∃ j ∈ past, moved j = true ∧ r.now - j.now ≤ cfg.postRollDuration)
  postRoll : ∀ stamp, r.handed = some stamp → stamp.isPostRoll = !moved r
  box : ∀ stamp, r.handed = some stamp →
    stamp.motionBox = (boxOf r).or ((latest moved (past ++ [r])).bind boxOf)
  boxed : 1 ≤ cfg.minActiveBlocks → ∀ stamp, r.handed = some stamp → stamp.motionBox.isSome
  accepted : r.accepted = true → r.handed.isSome

/-! ### The variables of the loop and the past -/

/-- At nondecreasing times, the latest report of a kind is the last of them. -/
lemma latest_now_le {past : List Report} {p : Report → Bool} {i j : Report}
    (hord : past.Pairwise (fun i j => i.now ≤ j.now)) (hj : latest p past = some j) (hi : i ∈ past)
    (hp : p i = true) : i.now ≤ j.now := by
  have hrefl : Std.Refl (fun i j : Report => i.now ≤ j.now) := ⟨fun i => le_refl i.now⟩
  exact latest_upper (fun i j => i.now ≤ j.now) hord hj hi hp

structure LoopInv (cfg : Config) (past : List Report) (st : LoopState) : Prop where
  detector : Configured cfg st.detector
  sent : st.lastSentTime = (latest settled past).elim 0 Report.now
  motionTime : st.lastMotionTime = (latest moved past).elim 0 Report.now
  motionBox : st.lastMotionBox = (latest moved past).bind boxOf
  positive : ∀ j ∈ past, 0 < j.now
  ordered : past.Pairwise (fun i j => i.now ≤ j.now)
  boxed : 1 ≤ cfg.minActiveBlocks → ∀ j ∈ past, moved j = true → (boxOf j).isSome

/-- A post-roll frame has a latest motion frame behind it, in the window of its reading. -/
lemma DispatchLaw.latest_motion {cfg : Config} {minInterval : Duration} {past : List Report}
    {r : Report} {stamp : FrameStamp} (hlaw : DispatchLaw cfg minInterval past r)
    (hord : past.Pairwise (fun i j => i.now ≤ j.now)) (hstamp : r.handed = some stamp)
    (hroll : stamp.isPostRoll = true) :
    ∃ m, latest moved past = some m ∧ r.now - m.now ≤ cfg.postRollDuration := by
  have hstill : moved r = false := by
    have hflag := hlaw.postRoll stamp hstamp
    rw [hroll] at hflag
    simpa using hflag.symm
  obtain ⟨motion, hmotion, -, hcause⟩ := hlaw.handed.mp (by rw [hstamp]; rfl)
  rcases hcause with hmoved | ⟨j, hj, hjmoved, hle⟩
  · rw [moved, hmotion, Option.any_some, hmoved] at hstill
    exact absurd hstill Bool.noConfusion
  · obtain ⟨m, hm⟩ := latest_isSome hj hjmoved
    have hup := latest_now_le hord hm hj hjmoved
    exact ⟨m, hm, by linarith⟩

section Step

variable {cfg : Config} {minInterval : Duration} {past : List Report} {st : LoopState} {now : Time}

lemma LoopInv.start {d : MacroblockDetector} (hd : Configured cfg d) :
    LoopInv cfg [] (LoopState.start d) where
  detector := hd
  sent := rfl
  motionTime := rfl
  motionBox := rfl
  positive := by simp
  ordered := List.Pairwise.nil
  boxed := by simp

lemma rateLimited_eq_false_iff :
    st.rateLimited minInterval now = false ↔
      st.lastSentTime = 0 ∨ minInterval ≤ now - st.lastSentTime := by
  by_cases h : st.lastSentTime = 0
  · simp [LoopState.rateLimited, h]
  · simp [LoopState.rateLimited, h]

lemma inPostRoll_eq_true_iff {motion : MotionResult} :
    st.inPostRoll cfg now motion = true ↔ motion.hasMotion = false ∧ st.lastMotionTime ≠ 0 ∧
      now - st.lastMotionTime ≤ cfg.postRollDuration := by
  simp [LoopState.inPostRoll, and_assoc]

/-- The rate limit in terms of the past. -/
lemma LoopInv.rateLimited_iff (h : LoopInv cfg past st) :
    st.rateLimited minInterval now = false ↔
      ∀ j, latest settled past = some j → minInterval ≤ now - j.now := by
  rw [rateLimited_eq_false_iff, h.sent]
  cases hj : latest settled past with
  | none => simp
  | some j =>
    have hne : j.now ≠ 0 := (h.positive j (latest_spec hj).1).ne'
    simp [hne]

/-- The post-roll window in terms of the past. -/
lemma LoopInv.inPostRoll_iff (h : LoopInv cfg past st) {motion : MotionResult}
    (hm : motion.hasMotion = false) :
    st.inPostRoll cfg now motion = true ↔
      ∃ j ∈ past, moved j = true ∧ now - j.now ≤ cfg.postRollDuration := by
  rw [inPostRoll_eq_true_iff, h.motionTime]
  cases hj : latest moved past with
  | none =>
    have hnone := latest_eq_none_iff.mp hj
    simp only [Option.elim_none, ne_eq, not_true_eq_false, false_and, and_false, false_iff,
      not_exists, not_and]
    intro j hmem hmoved
    rw [hnone j hmem] at hmoved
    exact absurd hmoved Bool.false_ne_true
  | some j =>
    obtain ⟨hmem, hmoved⟩ := latest_spec hj
    constructor
    · intro hin
      exact ⟨j, hmem, hmoved, hin.2.2⟩
    · rintro ⟨i, hi, himoved, hle⟩
      have hup := latest_now_le h.ordered hj hi himoved
      have hwithin : now - j.now ≤ cfg.postRollDuration := by linarith
      exact ⟨hm, (h.positive j hmem).ne', hwithin⟩

/-- Adding a report: the invariant of the new state follows from what the two kinds of
variables became. -/
lemma LoopInv.snoc {st' : LoopState} {r : Report} (h : LoopInv cfg past st)
    (hd : Configured cfg st'.detector)
    (hsent : st'.lastSentTime = if settled r then r.now else st.lastSentTime)
    (hmotion : st'.lastMotionTime = if moved r then r.now else st.lastMotionTime)
    (hbox : st'.lastMotionBox = if moved r then boxOf r else st.lastMotionBox)
    (hpos : 0 < r.now) (hord : ∀ j ∈ past, j.now ≤ r.now)
    (hboxed : 1 ≤ cfg.minActiveBlocks → moved r = true → (boxOf r).isSome) :
    LoopInv cfg (past ++ [r]) st' where
  detector := hd
  sent := by
    rw [hsent, latest_snoc, h.sent]
    split <;> rfl
  motionTime := by
    rw [hmotion, latest_snoc, h.motionTime]
    split <;> rfl
  motionBox := by
    rw [hbox, latest_snoc, h.motionBox]
    split <;> rfl
  positive := by
    intro j hj
    rw [List.mem_append, List.mem_singleton] at hj
    rcases hj with hj | rfl
    · exact h.positive j hj
    · exact hpos
  ordered := by
    rw [List.pairwise_append]
    refine ⟨h.ordered, List.pairwise_singleton _ _, ?_⟩
    intro i hi j hj
    rw [List.mem_singleton.mp hj]
    exact hord i hi
  boxed := by
    intro hmin j hj hjm
    rw [List.mem_append, List.mem_singleton] at hj
    rcases hj with hj | rfl
    · exact h.boxed hmin j hj hjm
    · exact hboxed hmin hjm

/-! ### One frame -/

/-- The frame is worth dispatching, by its own analysis and the past. -/
def Wanted (cfg : Config) (past : List Report) (now : Time) (m : MotionResult) : Prop :=
  m.isLightingShift = false ∧
    (m.hasMotion = true ∨ ∃ j ∈ past, moved j = true ∧ now - j.now ≤ cfg.postRollDuration)

lemma dispatchLaw_rateLimited (h : LoopInv cfg past st)
    (hlimited : st.rateLimited minInterval now = true) :
    DispatchLaw cfg minInterval past ⟨now, none, none, false⟩ where
  analysed := by
    rw [← h.rateLimited_iff, hlimited]
    simp
  handed := by simp
  postRoll := by simp
  box := by simp
  boxed := by simp
  accepted := by simp

lemma dispatchLaw_skipped {m : MotionResult} (h : LoopInv cfg past st)
    (hfree : st.rateLimited minInterval now = false) (hm : ¬ Wanted cfg past now m) :
    DispatchLaw cfg minInterval past ⟨now, some m, none, false⟩ where
  analysed := by
    rw [← h.rateLimited_iff, hfree]
    simp
  handed := by
    simp only [Option.isSome_none, Bool.false_eq_true, Option.some.injEq, false_iff]
    rintro ⟨m', rfl, hwanted⟩
    exact hm hwanted
  postRoll := by simp
  box := by simp
  boxed := by simp
  accepted := by simp

lemma dispatchLaw_dispatched {m : MotionResult} {stamp : FrameStamp} {ok : Bool}
    (h : LoopInv cfg past st) (hfree : st.rateLimited minInterval now = false)
    (hsound : SoundMotion cfg m) (hm : Wanted cfg past now m)
    (hroll : stamp.isPostRoll = !m.hasMotion)
    (hbox : stamp.motionBox = m.motionBox.or
      (if m.hasMotion then m.motionBox else st.lastMotionBox)) :
    DispatchLaw cfg minInterval past ⟨now, some m, some stamp, ok⟩ where
  analysed := by
    rw [← h.rateLimited_iff, hfree]
    simp
  handed := by
    simp only [Option.isSome_some, Option.some.injEq, true_iff]
    exact ⟨m, rfl, hm⟩
  postRoll := by
    intro s hs
    obtain rfl : stamp = s := by simpa using hs
    simpa [moved] using hroll
  box := by
    intro s hs
    obtain rfl : stamp = s := by simpa using hs
    rw [hbox, latest_snoc, h.motionBox]
    by_cases hmotion : m.hasMotion = true
    · simp [boxOf, moved, hmotion]
    · simp [boxOf, moved, hmotion]
  boxed := by
    intro hmin s hs
    obtain rfl : stamp = s := by simpa using hs
    rw [hbox]
    by_cases hmotion : m.hasMotion = true
    · have hsome := (hsound hmotion).2 hmin
      simp [hsome]
    · rcases hm.2 with hmotion' | ⟨j, hj, hjm, -⟩
      · exact absurd hmotion' hmotion
      · obtain ⟨i, hi⟩ := latest_isSome hj hjm
        have hsome := h.boxed hmin i (latest_spec hi).1 (latest_spec hi).2
        simp [hmotion, h.motionBox, hi, hsome]
  accepted := by simp

lemma ingestFrame_rateLimited {yPlane : Bytes} {ok : Bool}
    (hlimited : st.rateLimited minInterval now = true) :
    ingestFrame cfg minInterval st now yPlane ok = some (st, ⟨now, none, none, false⟩) := by
  simp [ingestFrame, LoopState.judge, hlimited]

lemma ingestFrame_analysed {yPlane : Bytes} {ok : Bool} {d : MacroblockDetector} {m : MotionResult}
    (hfree : st.rateLimited minInterval now = false)
    (hana : st.detector.analyze yPlane = some (d, m)) :
    ingestFrame cfg minInterval st now yPlane ok =
      match { st with detector := d }.judgeMotion cfg now m with
      | (st', .skip _) => some (st', ⟨now, some m, none, false⟩)
      | (st', .dispatch stamp) => some (st'.afterSubmit now ok, ⟨now, some m, some stamp, ok⟩) := by
  simp only [ingestFrame, LoopState.judge, hfree, hana, Bool.false_eq_true, if_false,
    Option.bind_eq_bind, Option.bind_some]
  cases hj : { st with detector := d }.judgeMotion cfg now m with
  | mk st' verdict => cases verdict <;> rfl

/-- Adding the report of a dispatched frame: the rate stamp moves only if `Submit` took it. -/
lemma LoopInv.snoc_dispatched {st' : LoopState} {m : MotionResult} {stamp : FrameStamp}
    (h : LoopInv cfg past st) (hd : Configured cfg st'.detector)
    (hsent : st'.lastSentTime = st.lastSentTime)
    (hmotion : st'.lastMotionTime = if m.hasMotion then now else st.lastMotionTime)
    (hbox : st'.lastMotionBox = if m.hasMotion then m.motionBox else st.lastMotionBox)
    (hpos : 0 < now) (hord : ∀ j ∈ past, j.now ≤ now)
    (hboxed : 1 ≤ cfg.minActiveBlocks → m.hasMotion = true → m.motionBox.isSome) (ok : Bool) :
    LoopInv cfg (past ++ [⟨now, some m, some stamp, ok⟩]) (st'.afterSubmit now ok) := by
  have htime : (st'.afterSubmit now ok).lastMotionTime = st'.lastMotionTime := by cases ok <;> rfl
  have hlast : (st'.afterSubmit now ok).lastMotionBox = st'.lastMotionBox := by cases ok <;> rfl
  apply h.snoc
  · cases ok <;> exact hd
  · cases ok <;> simp [settled, LoopState.afterSubmit, hsent]
  · rw [htime, hmotion]
    rfl
  · rw [hlast, hbox]
    rfl
  · exact hpos
  · exact hord
  · simpa [moved, boxOf] using hboxed

/-- One frame: the loop does not panic, its report obeys the law, and the invariant is kept. -/
theorem LoopInv.ingestFrame {yPlane : Bytes} (h : LoopInv cfg past st)
    (hplane : FullPlane cfg yPlane) (hpos : 0 < now) (hord : ∀ j ∈ past, j.now ≤ now) (ok : Bool) :
    ∃ st' r, ingestFrame cfg minInterval st now yPlane ok = some (st', r) ∧ r.now = now ∧
      DispatchLaw cfg minInterval past r ∧ LoopInv cfg (past ++ [r]) st' := by
  by_cases hlimited : st.rateLimited minInterval now = true
  · refine ⟨st, _, ingestFrame_rateLimited hlimited, rfl, dispatchLaw_rateLimited h hlimited, ?_⟩
    exact h.snoc h.detector rfl rfl rfl hpos hord (by simp [moved])
  have hfree : st.rateLimited minInterval now = false := by simpa using hlimited
  obtain ⟨m, hana, hsound⟩ := h.detector.analyze_sound hplane
  have hd := h.detector.remember yPlane
  have hboxed : 1 ≤ cfg.minActiveBlocks → m.hasMotion = true → m.motionBox.isSome :=
    fun hmin hmotion => (hsound hmotion).2 hmin
  rw [ingestFrame_analysed hfree hana, LoopState.judgeMotion]
  by_cases hshift : m.isLightingShift = true
  · have hmotion : m.hasMotion = false := by
      by_contra hne
      rw [(hsound (by simpa using hne)).1] at hshift
      exact Bool.false_ne_true hshift
    have hm : ¬ Wanted cfg past now m := fun hw => by simp [hw.1] at hshift
    rw [if_pos hshift]
    refine ⟨_, _, rfl, rfl, dispatchLaw_skipped h hfree hm, ?_⟩
    exact h.snoc hd (by simp [settled]) (by simp [moved, hmotion]) (by simp [moved, hmotion]) hpos
      hord (by simpa [moved, boxOf] using hboxed)
  rw [if_neg hshift]
  have hnoshift : m.isLightingShift = false := by simpa using hshift
  by_cases hmotion : m.hasMotion = true
  · have hm : Wanted cfg past now m := ⟨hnoshift, Or.inl hmotion⟩
    simp only [LoopState.inPostRoll, LoopState.noteMotion, hmotion, Bool.not_true, Bool.true_or,
      Bool.false_eq_true, if_true, if_false, Bool.false_and]
    refine ⟨_, _, rfl, rfl, dispatchLaw_dispatched h hfree hsound hm ?_ ?_, ?_⟩
    · simp [hmotion]
    · cases hbox : m.motionBox <;> simp [hmotion]
    · apply h.snoc_dispatched
      · exact hd
      · rfl
      · simp [hmotion]
      · simp [hmotion]
      · exact hpos
      · exact hord
      · exact hboxed
  have hstill : m.hasMotion = false := by simpa using hmotion
  have hroll : ({ st with detector := st.detector.remember yPlane } : LoopState).inPostRoll cfg now m =
      st.inPostRoll cfg now m := rfl
  simp only [LoopState.noteMotion, hstill, Bool.false_eq_true, if_false, Bool.false_or, hroll]
  by_cases hin : st.inPostRoll cfg now m = true
  · have hm : Wanted cfg past now m := ⟨hnoshift, Or.inr ((h.inPostRoll_iff hstill).mp hin)⟩
    simp only [hin, Bool.not_true, Bool.false_eq_true, if_false]
    refine ⟨_, _, rfl, rfl, dispatchLaw_dispatched h hfree hsound hm ?_ ?_, ?_⟩
    · simp [hstill]
    · cases hbox : m.motionBox <;> simp [hstill]
    · apply h.snoc_dispatched
      · exact hd
      · rfl
      · simp [hstill]
      · simp [hstill]
      · exact hpos
      · exact hord
      · exact hboxed
  · have hm : ¬ Wanted cfg past now m := by
      rintro ⟨-, hmotion' | hpast⟩
      · exact hmotion hmotion'
      · exact hin ((h.inPostRoll_iff hstill).mpr hpast)
    simp only [hin, Bool.not_false, if_true]
    refine ⟨_, _, rfl, rfl, dispatchLaw_skipped h hfree hm, ?_⟩
    exact h.snoc hd (by simp [settled]) (by simp [moved, hstill]) (by simp [moved, hstill]) hpos
      hord (by simpa [moved, boxOf] using hboxed)

lemma LoopInv.resetDetector (h : LoopInv cfg past st) : LoopInv cfg past st.resetDetector where
  detector := h.detector.reset
  sent := h.sent
  motionTime := h.motionTime
  motionBox := h.motionBox
  positive := h.positive
  ordered := h.ordered
  boxed := h.boxed

end Step

/-! ### Runs -/

/-- The plane of a read frame has the size of the frame. -/
def FitsFrame (cfg : Config) : LoopEvent → Prop
  | .frame _ yPlane _ => FullPlane cfg yPlane
  | .reset => True

/-- The report belongs to the frame. -/
def Answers : LoopEvent → Report → Prop
  | .frame now _ submitOk, r => r.now = now ∧ r.accepted = (r.handed.isSome && submitOk)
  | .reset, _ => False

lemma ingestFrame_accepted {cfg : Config} {minInterval : Duration} {st st' : LoopState} {now : Time}
    {yPlane : Bytes} {ok : Bool} {r : Report}
    (h : ingestFrame cfg minInterval st now yPlane ok = some (st', r)) :
    r.accepted = (r.handed.isSome && ok) := by
  simp only [ingestFrame, Option.bind_eq_bind, Option.bind_eq_some_iff, Prod.exists] at h
  obtain ⟨s, motion, verdict, -, hv⟩ := h
  cases verdict with
  | skip reason =>
    simp only [Option.some.injEq, Prod.mk.injEq] at hv
    rw [← hv.2]
    rfl
  | dispatch stamp =>
    simp only [Option.some.injEq, Prod.mk.injEq] at hv
    rw [← hv.2]
    simp

/-- Reports that obey the law at nondecreasing times: accepted frames keep their distance. -/
lemma accepted_spaced {cfg : Config} {minInterval : Duration} {reports : List Report}
    (hlaw : Along (DispatchLaw cfg minInterval) reports)
    (hord : reports.Pairwise (fun i j => i.now ≤ j.now)) :
    (reports.filter (fun r => r.accepted)).Pairwise (fun i j => minInterval ≤ j.now - i.now) := by
  induction reports using List.reverseRecOn with
  | nil => exact List.Pairwise.nil
  | append_singleton past r ih =>
    rw [along_snoc_iff] at hlaw
    rw [List.pairwise_append] at hord
    have hpast := ih hlaw.1 hord.1
    by_cases hacc : r.accepted = true
    · rw [List.filter_append, List.filter_singleton, hacc, cond_true, List.pairwise_append]
      refine ⟨hpast, List.pairwise_singleton _ _, ?_⟩
      intro i hi j hj
      rw [List.mem_singleton.mp hj]
      rw [List.mem_filter] at hi
      obtain ⟨k, hk, rfl⟩ := List.getElem_of_mem hi.1
      have hiLaw := hlaw.1 k hk
      obtain ⟨mi, hmi, -⟩ := hiLaw.handed.mp (hiLaw.accepted hi.2)
      have hsettled : settled past[k] = true := by simp [settled, hmi, hi.2]
      obtain ⟨l, hl⟩ := latest_isSome hi.1 hsettled
      have hup := latest_now_le hord.1 hl hi.1 hsettled
      obtain ⟨mr, hmr, -⟩ := hlaw.2.handed.mp (hlaw.2.accepted hacc)
      have hgap := hlaw.2.analysed.mp (by simp [hmr]) l hl
      linarith
    · simpa [hacc] using hpast

/-- What a run has established after the events `past`. -/
structure RunInv (cfg : Config) (minInterval : Duration) (past : List (LoopEvent × Option Report))
    (st : LoopState) : Prop where
  answers : List.Forall₂ Answers ((past.map Prod.fst).filter LoopEvent.isFrame)
    (past.filterMap Prod.snd)
  timed : ∀ j ∈ past.filterMap Prod.snd, ∃ p ∈ past, p.1.time? = some j.now
  law : Along (DispatchLaw cfg minInterval) (past.filterMap Prod.snd)
  loop : LoopInv cfg (past.filterMap Prod.snd) st

lemma RunInv.step {cfg : Config} {minInterval : Duration} {past : List (LoopEvent × Option Report)}
    {st : LoopState} {e : LoopEvent} (h : RunInv cfg minInterval past st) (hfits : FitsFrame cfg e)
    (hord : ∀ p ∈ past, ∀ t ∈ p.1.time?, ∀ t' ∈ e.time?, t ≤ t') :
    ∃ st' o, loopStep cfg minInterval st e = some (st', o) ∧
      RunInv cfg minInterval (past ++ [(e, o)]) st' := by
  cases e with
  | reset =>
    refine ⟨st.resetDetector, none, rfl, ?_, ?_, ?_, ?_⟩
    · simpa [LoopEvent.isFrame, LoopEvent.time?, List.filter_singleton] using h.answers
    · intro j hj
      obtain ⟨p, hp, ht⟩ := h.timed j (by simpa using hj)
      exact ⟨p, List.mem_append_left _ hp, ht⟩
    · simpa using h.law
    · simpa using h.loop.resetDetector
  | frame now yPlane ok =>
    have hpast : ∀ j ∈ past.filterMap Prod.snd, j.now ≤ (now : Time) := by
      intro j hj
      obtain ⟨p, hp, ht⟩ := h.timed j hj
      exact hord p hp j.now ht now rfl
    obtain ⟨st', r, hingest, hnow, hlaw, hloop⟩ :=
      h.loop.ingestFrame hfits now.2 hpast ok
    refine ⟨st', some r, by rw [loopStep, hingest]; rfl, ?_, ?_, ?_, ?_⟩
    · have hone : List.Forall₂ Answers [LoopEvent.frame now yPlane ok] [r] :=
        .cons ⟨hnow, ingestFrame_accepted hingest⟩ .nil
      simpa [LoopEvent.isFrame, LoopEvent.time?, List.filter_singleton] using
        List.rel_append h.answers hone
    · intro j hj
      simp only [List.filterMap_append, List.mem_append] at hj
      rcases hj with hj | hj
      · obtain ⟨p, hp, ht⟩ := h.timed j hj
        exact ⟨p, List.mem_append_left _ hp, ht⟩
      · obtain rfl : j = r := by simpa using hj
        exact ⟨_, List.mem_append_right _ (List.mem_singleton_self _), by rw [hnow]; rfl⟩
    · simpa using along_snoc_iff.mpr ⟨h.law, hlaw⟩
    · simpa using hloop

/-- Over whole runs at nondecreasing times, the reports of the frames obey the dispatch law and
any two accepted frames are `minInterval` apart. -/
theorem loop_follows_history (cfg : Config) (minInterval : Duration) (d : MacroblockDetector)
    (events : List LoopEvent) (hnew : newMacroblockDetector cfg = some d)
    (hfits : ∀ e ∈ events, FitsFrame cfg e)
    (htimes : (events.filterMap LoopEvent.time?).Pairwise (fun t t' => t ≤ t')) :
    ∃ reports, loopReports cfg minInterval d events = some reports ∧
      List.Forall₂ Answers (events.filter LoopEvent.isFrame) reports ∧
      Along (DispatchLaw cfg minInterval) reports ∧
      (reports.filter (fun r => r.accepted)).Pairwise
        (fun i j => minInterval ≤ j.now - i.now) := by
  have hd := (newMacroblockDetector_configured hnew).1
  have hstart : RunInv cfg minInterval [] (LoopState.start d) :=
    ⟨List.Forall₂.nil, by simp, along_nil _, LoopInv.start hd⟩
  have hR : events.Pairwise (fun e e' => ∀ t ∈ e.time?, ∀ t' ∈ e'.time?, t ≤ t') :=
    List.pairwise_filterMap.mp htimes
  have hstep : ∀ past st e, RunInv cfg minInterval past st → FitsFrame cfg e →
      (∀ p ∈ past, ∀ t ∈ p.1.time?, ∀ t' ∈ e.time?, t ≤ t') →
      ∃ st' o, loopStep cfg minInterval st e = some (st', o) ∧
        RunInv cfg minInterval (past ++ [(e, o)]) st' := fun _ _ _ h hf ho => h.step hf ho
  obtain ⟨st, os, hexec, hinv⟩ :=
    Transition.exec_history (RunInv cfg minInterval) hstep hfits hR hstart
  have hlen : os.length = events.length := Transition.exec_length hexec
  have hreports : (events.zip os).filterMap Prod.snd = os.filterMap id := by
    have hsnd : (events.zip os).map Prod.snd = os := List.map_snd_zip hlen.le
    calc (events.zip os).filterMap Prod.snd
        = ((events.zip os).map Prod.snd).filterMap id := by
          rw [List.filterMap_map]
          rfl
      _ = os.filterMap id := by rw [hsnd]
  refine ⟨os.filterMap id, by simp [loopReports, hexec], ?_, ?_, ?_⟩
  · have hanswers := hinv.answers
    rwa [List.map_fst_zip hlen.ge, hreports] at hanswers
  · rw [← hreports]
    exact hinv.law
  · rw [← hreports]
    exact accepted_spaced hinv.law hinv.loop.ordered

/-- A frame of two blocks. -/
def twoBlockConfig : Config where
  frameWidth := 2
  frameHeight := 1
  blockSize := 1
  minActiveBlocks := 1
  lightingShiftRatio := 3 / 4

/-- A reference frame, a moved pixel whose `Submit` fails, a reset, and a post-roll frame. -/
def twoBlockEvents : List LoopEvent :=
  [.frame ⟨1000, by decide⟩ [0, 0] true, .frame ⟨2000, by decide⟩ [0, 90] false, .reset,
    .frame ⟨3000, by decide⟩ [0, 90] true]

theorem loop_follows_history_twoBlock :
    ∃ d reports, newMacroblockDetector twoBlockConfig = some d ∧
      loopReports twoBlockConfig 500 d twoBlockEvents = some reports ∧
      List.Forall₂ Answers (twoBlockEvents.filter LoopEvent.isFrame) reports ∧
      Along (DispatchLaw twoBlockConfig 500) reports := by
  obtain ⟨d, hd⟩ := newMacroblockDetector_isSome twoBlockConfig (by decide) (by decide)
  have hfits : ∀ e ∈ twoBlockEvents, FitsFrame twoBlockConfig e := by
    simp [twoBlockEvents, FitsFrame, FullPlane, twoBlockConfig]
  have htimes : (twoBlockEvents.filterMap LoopEvent.time?).Pairwise (fun t t' => t ≤ t') := by
    decide
  obtain ⟨reports, hrun, hanswers, hlaw, -⟩ :=
    loop_follows_history twoBlockConfig 500 d twoBlockEvents hd hfits htimes
  exact ⟨d, reports, hd, hrun, hanswers, hlaw⟩

end IntruderWatch.Proofs
