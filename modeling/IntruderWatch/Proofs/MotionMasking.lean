import IntruderWatch.Proofs.MotionScan

/-!
# What the motion detector can see

Two statements about the pixels that `Analyze` reads. The contents of the exclusion
rectangles never reach a result, over any sequence of calls. Conversely a pixel outside
them is observed exactly when its grid cell is a whole unmasked block.
-/

namespace IntruderWatch.Proofs
open MacroblockDetector

/-! ### Masked blocks cover the zones -/

lemma overlaps_of_contains {bs bX bY x y : ℤ} {zone : Zone} (hx : bX * bs ≤ x ∧ x < bX * bs + bs)
    (hy : bY * bs ≤ y ∧ y < bY * bs + bs) (hz : zone.Contains x y) :
    overlaps bs bX bY zone = true := by
  obtain ⟨h1, h2, h3, h4⟩ := hz
  simp only [overlaps, Bool.and_eq_true, decide_eq_true_eq]
  refine ⟨⟨⟨?_, ?_⟩, ?_⟩, ?_⟩ <;> omega

/-- A pixel of an unmasked block lies in no zone. -/
lemma not_contains_of_watched {cfg : Config} {d : MacroblockDetector} (hd : Configured cfg d)
    {b p : ℤ × ℤ} (hb : b ∈ watched cfg d) (hp : p ∈ d.pixels b.1 b.2) :
    ∀ zone ∈ cfg.excludeZones, ¬ zone.Contains p.1 p.2 := by
  intro zone hzone hcontains
  rw [mem_pixels, hd.blockSize] at hp
  have hm : maskedBlock cfg b = true :=
    List.any_eq_true.mpr ⟨zone, hzone, overlaps_of_contains hp.1 hp.2 hcontains⟩
  rw [(mem_watched.mp hb).2] at hm
  exact Bool.false_ne_true hm

/-- The planes agree at every pixel of the frame outside the exclusion rectangles. -/
def AgreeOutside (cfg : Config) (f g : Bytes) : Prop :=
  ∀ x y, 0 ≤ x → x < cfg.frameWidth → 0 ≤ y → y < cfg.frameHeight →
    (∀ zone ∈ cfg.excludeZones, ¬ zone.Contains x y) →
    Go.index f (y * cfg.frameWidth + x) = Go.index g (y * cfg.frameWidth + x)

/-- Equal calls, up to the pixels inside the exclusion rectangles. -/
inductive CallsAgree (cfg : Config) : DetectorCall → DetectorCall → Prop
  | analyze {f g : Bytes} : FullPlane cfg f → FullPlane cfg g → AgreeOutside cfg f g →
      CallsAgree cfg (.analyze f) (.analyze g)
  | reset : CallsAgree cfg .reset .reset

/-- Two detectors of `cfg` that differ at most in excluded pixels of the reference frame. -/
structure Indistinguishable (cfg : Config) (d₁ d₂ : MacroblockDetector) : Prop where
  left : Configured cfg d₁
  right : Configured cfg d₂
  same : d₂ = { d₁ with lastY := d₂.lastY }
  lastY : AgreeOutside cfg d₁.lastY d₂.lastY

lemma Indistinguishable.scan_eq {cfg : Config} {d₁ d₂ : MacroblockDetector} {f g : Bytes}
    (h : Indistinguishable cfg d₁ d₂) (hfg : AgreeOutside cfg f g) :
    scan cfg d₁ f = scan cfg d₂ g := by
  have hs := h.same
  apply scan_congr
  · rw [hs]
  · rw [hs]
  · rw [hs]
  · rw [hs]
  · rw [hs]
  · intro b hb p hp
    obtain ⟨⟨hx0, hx⟩, hy0, hy⟩ := h.left.pixel_mem (mem_watched.mp hb).1 hp
    have hout := not_contains_of_watched h.left hb hp
    rw [h.left.width]
    exact ⟨hfg _ _ hx0 hx hy0 hy hout, h.lastY _ _ hx0 hx hy0 hy hout⟩

lemma Indistinguishable.step {cfg : Config} {d₁ d₂ : MacroblockDetector} {c₁ c₂ : DetectorCall}
    (h : Indistinguishable cfg d₁ d₂) (hc : CallsAgree cfg c₁ c₂) :
    ∃ d₁' d₂' r, detectorStep d₁ c₁ = some (d₁', r) ∧ detectorStep d₂ c₂ = some (d₂', r) ∧
      Indistinguishable cfg d₁' d₂' := by
  have hs := h.same
  cases hc with
  | reset =>
    refine ⟨d₁.reset, d₂.reset, none, rfl, rfl, h.left.reset, h.right.reset, ?_, h.lastY⟩
    rw [hs]
    rfl
  | @analyze f g hf hg hfg =>
    have hresult : (if d₂.hasLastFrame then d₂.scanResult (scan cfg d₂ g) else d₂.firstResult) =
        if d₁.hasLastFrame then d₁.scanResult (scan cfg d₁ f) else d₁.firstResult := by
      rw [h.scan_eq hfg, hs]
      rfl
    let r := if d₁.hasLastFrame then d₁.scanResult (scan cfg d₁ f) else d₁.firstResult
    refine ⟨d₁.remember f, d₂.remember g, some r, ?_, ?_, h.left.remember f, h.right.remember g,
      ?_, ?_⟩
    · rw [detectorStep, h.left.analyze_eq hf]
      rfl
    · rw [detectorStep, h.right.analyze_eq hg, hresult]
      rfl
    · rw [hs]
      rfl
    · rw [h.left.remember_lastY hf, h.right.remember_lastY hg]
      exact hfg

/-- Excluded pixels never influence detection: sequences of `Analyze` and `Reset` calls whose
frames agree outside the exclusion rectangles return the same results at every step. -/
theorem excluded_pixels_never_influence (cfg : Config) (calls₁ calls₂ : List DetectorCall)
    (hcalls : List.Forall₂ (CallsAgree cfg) calls₁ calls₂) :
    detectorResults cfg calls₁ = detectorResults cfg calls₂ ∧
      ((newMacroblockDetector cfg).isSome → (detectorResults cfg calls₁).isSome) := by
  cases hnew : newMacroblockDetector cfg with
  | none => simp [detectorResults, hnew]
  | some d =>
    have hd := (newMacroblockDetector_configured hnew).1
    have hself : Indistinguishable cfg d d := ⟨hd, hd, rfl, fun _ _ _ _ _ _ _ => rfl⟩
    have hstep : ∀ s t c c', Indistinguishable cfg s t → CallsAgree cfg c c' →
        ∃ s' t' r, detectorStep s c = some (s', r) ∧ detectorStep t c' = some (t', r) ∧
          Indistinguishable cfg s' t' := fun _ _ _ _ hst hc => hst.step hc
    obtain ⟨d₁, d₂, rs, h₁, h₂, -⟩ := Transition.exec_lockstep hstep hself hcalls
    simp [detectorResults, hnew, h₁, h₂]

/-- A frame of two blocks, the left one inside a zone. -/
def halfMaskedConfig : Config where
  frameWidth := 4
  frameHeight := 2
  blockSize := 2
  minActiveBlocks := 1
  lightingShiftRatio := 2
  excludeZones := [⟨"left", 0, 0, 2, 2⟩]

lemma halfMasked_agreeOutside {f g : Bytes} (h2 : Go.index f 2 = Go.index g 2)
    (h3 : Go.index f 3 = Go.index g 3) (h6 : Go.index f 6 = Go.index g 6)
    (h7 : Go.index f 7 = Go.index g 7) : AgreeOutside halfMaskedConfig f g := by
  intro x y hx0 hx hy0 hy hout
  have hzone := hout ⟨"left", 0, 0, 2, 2⟩ (by simp [halfMaskedConfig])
  simp only [halfMaskedConfig] at hx hy ⊢
  simp only [Zone.Contains] at hzone
  interval_cases x <;> interval_cases y <;> first | omega | assumption

theorem excluded_pixels_never_influence_halfMasked :
    detectorResults halfMaskedConfig
        [.analyze [0, 0, 9, 9, 0, 0, 9, 9], .analyze [50, 60, 99, 99, 70, 80, 99, 99]] =
      detectorResults halfMaskedConfig
        [.analyze [1, 2, 9, 9, 3, 4, 9, 9], .analyze [0, 0, 99, 99, 0, 0, 99, 99]] := by
  have hfull : ∀ a b c d e f g h : UInt8, FullPlane halfMaskedConfig [a, b, c, d, e, f, g, h] :=
    fun _ _ _ _ _ _ _ _ => rfl
  have hfirst := CallsAgree.analyze (hfull 0 0 9 9 0 0 9 9) (hfull 1 2 9 9 3 4 9 9)
    (halfMasked_agreeOutside rfl rfl rfl rfl)
  have hsecond := CallsAgree.analyze (hfull 50 60 99 99 70 80 99 99) (hfull 0 0 99 99 0 0 99 99)
    (halfMasked_agreeOutside rfl rfl rfl rfl)
  exact (excluded_pixels_never_influence halfMaskedConfig _ _ (.cons hfirst (.cons hsecond .nil))).1

end IntruderWatch.Proofs
