import IntruderWatch.Proofs.MotionSpecification

/-!
# A reset detector is a fresh one

`Reset` clears a flag and keeps the old plane. Every state of a detector is what the
constructor built, with some full plane and some value of the flag, and `Analyze` reads the
plane only when the flag is set, which is after it has copied a whole new frame over it.
-/

namespace IntruderWatch.Proofs
open MacroblockDetector

/-- The detector with another reference frame and flag. -/
def atFrame (d : MacroblockDetector) (lastY : Bytes) (hasLastFrame : Bool) : MacroblockDetector :=
  { d with lastY := lastY, hasLastFrame := hasLastFrame }

section Reset

variable {cfg : Config} {d : MacroblockDetector} {y : Bytes}

lemma Configured.atFrame (hd : Configured cfg d) (hy : FullPlane cfg y) (flag : Bool) :
    Configured cfg (atFrame d y flag) where
  width := hd.width
  height := hd.height
  blockSize := hd.blockSize
  gridW := hd.gridW
  gridH := hd.gridH
  minActiveBlocks := hd.minActiveBlocks
  masked := hd.masked
  lastY := hy

lemma Configured.remember_eq (hd : Configured cfg d) (hy : FullPlane cfg y) :
    d.remember y = Proofs.atFrame d y true := by
  have hcopy : Go.copy d.lastY y = y := hd.remember_lastY hy
  rw [MacroblockDetector.remember, hcopy]
  rfl

/-- What `Analyze` returns when the frame before was `prev`. -/
def resultOn (cfg : Config) (d : MacroblockDetector) (prev cur : Bytes) : MotionResult :=
  (atFrame d prev true).scanResult (scan cfg (atFrame d prev true) cur)

lemma resultAfter_eq_resultOn (hnew : newMacroblockDetector cfg = some d) {prev cur : Bytes}
    (hprev : FullPlane cfg prev) (hcur : FullPlane cfg cur) :
    resultAfter cfg prev cur = some (resultOn cfg d prev cur) := by
  rw [resultAfter_eq hnew hprev hcur,
    (newMacroblockDetector_configured hnew).1.remember_eq hprev]
  rfl

/-- `Analyze` replaces the whole reference frame. -/
lemma detectorStep_atFrame (hd : Configured cfg d) (hy : FullPlane cfg y) (flag : Bool) {f : Bytes}
    (hf : FullPlane cfg f) :
    detectorStep (atFrame d y flag) (.analyze f) = some (atFrame d f true,
      some (if flag then resultOn cfg d y f else d.firstResult)) := by
  have hat := hd.atFrame hy flag
  rw [hat.detectorStep_analyze hf, hat.remember_eq hf]
  cases flag <;> rfl

/-- Full-size calls only change the reference frame and the flag. -/
lemma exec_atFrame (hd : Configured cfg d) (hy : FullPlane cfg y) (flag : Bool)
    {calls : List DetectorCall} (hcalls : ∀ call ∈ calls, FullCall cfg call) :
    ∃ y' flag' results, Transition.exec detectorStep (atFrame d y flag) calls =
      some (atFrame d y' flag', results) ∧ FullPlane cfg y' := by
  have hstep : ∀ (past : List (DetectorCall × Option MotionResult)) (s : MacroblockDetector)
      (call : DetectorCall), (∃ y flag, s = Proofs.atFrame d y flag ∧ FullPlane cfg y) →
      FullCall cfg call → (∀ p ∈ past, True) →
      ∃ s' o, detectorStep s call = some (s', o) ∧
        ∃ y flag, s' = Proofs.atFrame d y flag ∧ FullPlane cfg y := by
    rintro - s call ⟨y, flag, rfl, hy⟩ hcall -
    cases call with
    | analyze f => exact ⟨_, _, detectorStep_atFrame hd hy flag hcall, f, true, rfl, hcall⟩
    | reset => exact ⟨_, _, rfl, y, false, rfl, hy⟩
  obtain ⟨s, results, hexec, y', flag', rfl, hy'⟩ :=
    Transition.exec_history (R := fun _ _ => True)
      (fun _ s => ∃ y flag, s = Proofs.atFrame d y flag ∧ FullPlane cfg y) hstep hcalls
      (List.pairwise_of_forall fun _ _ => trivial) ⟨y, flag, rfl, hy⟩
  exact ⟨y', flag', results, hexec, hy'⟩

/-- The results on the frames after `prev`. -/
def laterResults (cfg : Config) (d : MacroblockDetector) : Bytes → List Bytes → List MotionResult
  | _, [] => []
  | prev, cur :: rest => resultOn cfg d prev cur :: laterResults cfg d cur rest

lemma exec_later (hd : Configured cfg d) (hy : FullPlane cfg y) {frames : List Bytes}
    (hframes : ∀ f ∈ frames, FullPlane cfg f) :
    ∃ s, Transition.exec detectorStep (atFrame d y true) (frames.map .analyze) =
      some (s, (laterResults cfg d y frames).map some) := by
  induction frames generalizing y with
  | nil => exact ⟨_, rfl⟩
  | cons f frames ih =>
    have hf := hframes f (by simp)
    obtain ⟨s, hrest⟩ := ih hf (fun g hg => hframes g (List.mem_cons_of_mem f hg))
    refine ⟨s, ?_⟩
    simp only [List.map_cons, Transition.exec, detectorStep_atFrame hd hy true hf, if_true,
      Option.bind_eq_bind, Option.bind_some, hrest, laterResults]

lemma laterResults_getElem? (frames : List Bytes) (i : ℕ) {prev cur : Bytes} {r : MotionResult}
    (hprev : (y :: frames)[i]? = some prev) (hcur : frames[i]? = some cur)
    (hr : (laterResults cfg d y frames)[i]? = some r) : r = resultOn cfg d prev cur := by
  induction frames generalizing y i with
  | nil => simp at hcur
  | cons f frames ih =>
    cases i with
    | zero => simp_all [laterResults]
    | succ i =>
      apply ih i
      · simpa using hprev
      · simpa using hcur
      · simpa [laterResults] using hr

/-- The results of a detector without a reference frame. -/
def freshResults (cfg : Config) (d : MacroblockDetector) : List Bytes → List MotionResult
  | [] => []
  | first :: rest => d.firstResult :: laterResults cfg d first rest

lemma freshResults_first {frames : List Bytes} {r : MotionResult}
    (hr : (freshResults cfg d frames)[0]? = some r) :
    r.hasMotion = false ∧ r.isLightingShift = false := by
  cases frames with
  | nil => simp [freshResults] at hr
  | cons f frames =>
    obtain rfl : d.firstResult = r := by simpa [freshResults] using hr
    exact ⟨rfl, rfl⟩

lemma freshResults_later {frames : List Bytes} {i : ℕ} {prev cur : Bytes} {r : MotionResult}
    (hprev : frames[i]? = some prev) (hcur : frames[i + 1]? = some cur)
    (hr : (freshResults cfg d frames)[i + 1]? = some r) : r = resultOn cfg d prev cur := by
  cases frames with
  | nil => simp at hcur
  | cons f frames => exact laterResults_getElem? frames i hprev hcur hr

lemma exec_fresh (hd : Configured cfg d) (hy : FullPlane cfg y) {frames : List Bytes}
    (hframes : ∀ f ∈ frames, FullPlane cfg f) :
    ∃ s, Transition.exec detectorStep (atFrame d y false) (frames.map .analyze) =
      some (s, (freshResults cfg d frames).map some) := by
  cases frames with
  | nil => exact ⟨_, rfl⟩
  | cons f frames =>
    have hf := hframes f (by simp)
    obtain ⟨s, hrest⟩ := exec_later hd hf (fun g hg => hframes g (List.mem_cons_of_mem f hg))
    refine ⟨s, ?_⟩
    have hfirst := detectorStep_atFrame hd hy false hf
    simp only [List.map_cons, Transition.exec, hfirst, Bool.false_eq_true, if_false,
      Option.bind_eq_bind, Option.bind_some, hrest, freshResults]

end Reset

/-- After any history, a reset detector gives the results of a new one; the first of them
reports nothing, and each later one is that of its frame and the frame before. -/
theorem reset_forgets (cfg : Config) (d : MacroblockDetector) (history : List DetectorCall)
    (frames : List Bytes) (hnew : newMacroblockDetector cfg = some d)
    (hhistory : ∀ call ∈ history, FullCall cfg call) (hframes : ∀ f ∈ frames, FullPlane cfg f) :
    ∃ (before : List (Option MotionResult)) (results : List MotionResult),
      detectorResults cfg (history ++ .reset :: frames.map .analyze) =
        some (before ++ none :: results.map some) ∧
      detectorResults cfg (frames.map .analyze) = some (results.map some) ∧
      before.length = history.length ∧ results.length = frames.length ∧
      (∀ r, results[0]? = some r → r.hasMotion = false ∧ r.isLightingShift = false) ∧
      ∀ i prev cur r, frames[i]? = some prev → frames[i + 1]? = some cur →
        results[i + 1]? = some r → resultAfter cfg prev cur = some r := by
  obtain ⟨hd, hflag⟩ := newMacroblockDetector_configured hnew
  have hself : d = atFrame d d.lastY false := by rw [← hflag]; rfl
  obtain ⟨y, flag, before, hbefore, hy⟩ := exec_atFrame hd hd.lastY false hhistory
  obtain ⟨s, hreset⟩ := exec_fresh hd hy hframes
  obtain ⟨s', hfresh⟩ := exec_fresh hd hd.lastY hframes
  rw [← hself] at hbefore hfresh
  refine ⟨before, freshResults cfg d frames, ?_, ?_, Transition.exec_length hbefore, ?_,
    fun r => freshResults_first, ?_⟩
  · have hcall : Transition.exec detectorStep (atFrame d y flag) (.reset :: frames.map .analyze) =
        some (s, none :: (freshResults cfg d frames).map some) := by
      have hstep : detectorStep (atFrame d y flag) .reset = some (atFrame d y false, none) := rfl
      simp only [Transition.exec, hstep, Option.bind_eq_bind, Option.bind_some, hreset]
    rw [detectorResults, hnew, Option.bind_eq_bind, Option.bind_some,
      Transition.exec_append hbefore, hcall]
    rfl
  · rw [detectorResults, hnew, Option.bind_eq_bind, Option.bind_some, hfresh]
    rfl
  · simpa using Transition.exec_length hfresh
  · intro i prev cur r hprev hcur hr
    rw [freshResults_later hprev hcur hr]
    exact resultAfter_eq_resultOn hnew (hframes prev (List.mem_of_getElem? hprev))
      (hframes cur (List.mem_of_getElem? hcur))

def darkThenBright : List Bytes := [List.replicate 15 0, List.replicate 15 99]

theorem reset_forgets_partBlock : ∃ d, newMacroblockDetector partBlockConfig = some d ∧
    ∃ (before : List (Option MotionResult)) (results : List MotionResult),
      detectorResults partBlockConfig ([.analyze (List.replicate 15 7)] ++ .reset ::
          darkThenBright.map .analyze) = some (before ++ none :: results.map some) ∧
      detectorResults partBlockConfig (darkThenBright.map .analyze) = some (results.map some) ∧
      before.length = 1 ∧ results.length = 2 ∧
      (∀ r, results[0]? = some r → r.hasMotion = false ∧ r.isLightingShift = false) ∧
      ∀ i prev cur r, darkThenBright[i]? = some prev → darkThenBright[i + 1]? = some cur →
        results[i + 1]? = some r → resultAfter partBlockConfig prev cur = some r := by
  obtain ⟨d, hnew⟩ := newMacroblockDetector_isSome partBlockConfig (by decide) (by decide)
  have hfull : ∀ v : UInt8, FullPlane partBlockConfig (List.replicate 15 v) := fun _ => rfl
  refine ⟨d, hnew, reset_forgets partBlockConfig d _ darkThenBright hnew ?_ ?_⟩
  · intro call hcall
    obtain rfl := List.mem_singleton.mp hcall
    exact hfull 7
  · intro f hf
    simp only [darkThenBright, List.mem_cons, List.not_mem_nil, or_false] at hf
    rcases hf with rfl | rfl
    · exact hfull 0
    · exact hfull 99

end IntruderWatch.Proofs
