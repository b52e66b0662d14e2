import IntruderWatch.Proofs.MotionSpecification

/-!
# More exclusion zones

A zone takes blocks out of the active set, so counts and deltas can only fall. The lighting
shift is judged against the effective blocks, though, and a zone over active blocks lowers that
ratio: a scene that was a lighting shift may then report motion.
-/

namespace IntruderWatch.Proofs
open MacroblockDetector

def withZones (cfg : Config) (zones : List Zone) : Config :=
  { cfg with excludeZones := zones }

variable {cfg : Config} {Z Z' : List Zone} {prev cur : Bytes}

lemma Masked.mono {b : ℤ × ℤ} (hsub : Z ⊆ Z') (h : Masked (withZones cfg Z) b) :
    Masked (withZones cfg Z') b := by
  obtain ⟨zone, hzone, hmeets⟩ := h
  exact ⟨zone, hsub hzone, hmeets⟩

lemma unmaskedBlocks_antitone (hsub : Z ⊆ Z') :
    unmaskedBlocks (withZones cfg Z') ⊆ unmaskedBlocks (withZones cfg Z) := by
  intro b hb
  obtain ⟨hwhole, hmask⟩ := Finset.mem_filter.mp hb
  exact Finset.mem_filter.mpr ⟨hwhole, fun h => hmask (h.mono hsub)⟩

lemma activeSet_antitone (hsub : Z ⊆ Z') :
    activeSet (withZones cfg Z') prev cur ⊆ activeSet (withZones cfg Z) prev cur :=
  Finset.filter_subset_filter _ (unmaskedBlocks_antitone hsub)

/-- The second result, in terms of the block sets. No bound on the frame size is needed. -/
lemma resultAfter_blocks {r : MotionResult} (h : resultAfter cfg prev cur = some r)
    (hprev : FullPlane cfg prev) (hcur : FullPlane cfg cur) :
    r.activeBlocks = (activeSet cfg prev cur).card ∧
    (∀ c, r.maxBlockDelta ≤ c ↔
      0 ≤ c ∧ ∀ b ∈ unmaskedBlocks cfg, meanAbsDiff cfg prev cur b ≤ c) ∧
    (r.hasMotion = true ↔ cfg.minActiveBlocks ≤ r.activeBlocks ∧ r.isLightingShift = false) := by
  obtain ⟨d, hnew⟩ : ∃ d, newMacroblockDetector cfg = some d := by
    cases hnew : newMacroblockDetector cfg with
    | none => simp [resultAfter, hnew] at h
    | some d => exact ⟨d, rfl⟩
  have hd := (newMacroblockDetector_tuned hnew).remember prev
  have hlast := (newMacroblockDetector_tuned hnew).remember_lastY hprev
  rw [resultAfter_eq hnew hprev hcur, Option.some.injEq] at h
  subst h
  exact ⟨hd.activeBlocks_eq hlast, fun c => hd.maxBlockDelta_le_iff hlast, hd.hasMotion_iff⟩

/-- Adding zones lowers the active blocks and the largest delta, and motion that is reported
under more zones was under fewer either motion or a lighting shift. -/
theorem zones_reduce_detection (cfg : Config) (Z Z' : List Zone) (prev cur : Bytes)
    (r r' : MotionResult) (hsub : Z ⊆ Z') (hprev : FullPlane cfg prev) (hcur : FullPlane cfg cur)
    (hr : resultAfter (withZones cfg Z) prev cur = some r)
    (hr' : resultAfter (withZones cfg Z') prev cur = some r') :
    r'.activeBlocks ≤ r.activeBlocks ∧ r'.maxBlockDelta ≤ r.maxBlockDelta ∧
      (r'.hasMotion = true → r.hasMotion = true ∨ r.isLightingShift = true) := by
  obtain ⟨hactive, hdelta, hmotion⟩ := resultAfter_blocks hr hprev hcur
  obtain ⟨hactive', hdelta', hmotion'⟩ := resultAfter_blocks hr' hprev hcur
  have hcount : r'.activeBlocks ≤ r.activeBlocks := by
    rw [hactive, hactive']
    exact_mod_cast Finset.card_le_card (activeSet_antitone hsub)
  refine ⟨hcount, ?_, ?_⟩
  · obtain ⟨hzero, hbound⟩ := (hdelta r.maxBlockDelta).mp le_rfl
    rw [hdelta']
    exact ⟨hzero, fun b hb => hbound b (unmaskedBlocks_antitone hsub hb)⟩
  · intro h
    by_cases hshift : r.isLightingShift = true
    · exact .inr hshift
    · left
      rw [hmotion]
      exact ⟨(hmotion'.mp h).1.trans hcount, Bool.not_eq_true _ ▸ hshift⟩

/-- Eight blocks of one pixel, under the default thresholds. -/
def stripConfig : Config where
  frameWidth := 8
  frameHeight := 1
  blockSize := 1

def leftThree : Zone := ⟨"left", 0, 0, 3, 1⟩

/-- Six of eight blocks change, which is a lighting shift; with three of them masked, three of
five are left, and that is motion. -/
theorem zone_turns_shift_into_motion : ([] : List Zone) ⊆ [leftThree] ∧
    FullPlane stripConfig (List.replicate 8 0) ∧
    FullPlane stripConfig [9, 9, 9, 9, 9, 9, 0, 0] ∧ ∃ r r',
    resultAfter (withZones stripConfig []) (List.replicate 8 0) [9, 9, 9, 9, 9, 9, 0, 0] = some r ∧
    resultAfter (withZones stripConfig [leftThree]) (List.replicate 8 0)
      [9, 9, 9, 9, 9, 9, 0, 0] = some r' ∧
    r'.hasMotion = true ∧ r.hasMotion = false := by
  have hall : (resultAfter (withZones stripConfig []) (List.replicate 8 0)
      [9, 9, 9, 9, 9, 9, 0, 0]).map MotionResult.hasMotion = some false := by decide +kernel
  have hleft : (resultAfter (withZones stripConfig [leftThree]) (List.replicate 8 0)
      [9, 9, 9, 9, 9, 9, 0, 0]).map MotionResult.hasMotion = some true := by decide +kernel
  obtain ⟨r, hr, hm⟩ := Option.map_eq_some_iff.mp hall
  obtain ⟨r', hr', hm'⟩ := Option.map_eq_some_iff.mp hleft
  exact ⟨List.nil_subset _, rfl, rfl, r, r', hr, hr', hm', hm⟩

theorem zones_reduce_detection_strip : ∃ r r',
    resultAfter (withZones stripConfig []) (List.replicate 8 0) [9, 9, 9, 9, 9, 0, 0, 0] = some r ∧
    resultAfter (withZones stripConfig [leftThree]) (List.replicate 8 0)
      [9, 9, 9, 9, 9, 0, 0, 0] = some r' ∧
    r'.activeBlocks ≤ r.activeBlocks ∧ r'.maxBlockDelta ≤ r.maxBlockDelta ∧
      (r'.hasMotion = true → r.hasMotion = true ∨ r.isLightingShift = true) := by
  obtain ⟨r, hr⟩ : ∃ r, resultAfter (withZones stripConfig []) (List.replicate 8 0)
    [9, 9, 9, 9, 9, 0, 0, 0] = some r := ⟨_, rfl⟩
  obtain ⟨r', hr'⟩ : ∃ r', resultAfter (withZones stripConfig [leftThree]) (List.replicate 8 0)
    [9, 9, 9, 9, 9, 0, 0, 0] = some r' := ⟨_, rfl⟩
  have hprev : FullPlane stripConfig (List.replicate 8 0) := rfl
  have hcur : FullPlane stripConfig [9, 9, 9, 9, 9, 0, 0, 0] := rfl
  exact ⟨r, r', hr, hr', zones_reduce_detection stripConfig [] [leftThree] _ _ r r' (by simp)
    hprev hcur hr hr'⟩

end IntruderWatch.Proofs
