import IntruderWatch.Proofs.MotionCoverage

/-!
# The specification of the motion analysis

What `Analyze` computes, in terms of sets of blocks: the whole blocks of the frame, those
that no zone touches, and the active ones among them. The specification knows no loop and
no mask array, and it has at most one result; the block loop, the mask loop and the count of
the constructor refine it.
-/

namespace IntruderWatch.Proofs
open MacroblockDetector

/-! ### Blocks as sets -/

/-- The grid squares that lie in the frame. -/
noncomputable def wholeBlocks (cfg : Config) : Finset (ℤ × ℤ) :=
  (Finset.Ico 0 cfg.frameWidth ×ˢ Finset.Ico 0 cfg.frameHeight).filter (fun b =>
    b.1 * effectiveBlockSize cfg + effectiveBlockSize cfg ≤ cfg.frameWidth ∧
      b.2 * effectiveBlockSize cfg + effectiveBlockSize cfg ≤ cfg.frameHeight)

/-- The square of the block meets the rectangle of a zone. -/
def Masked (cfg : Config) (b : ℤ × ℤ) : Prop :=
  ∃ zone ∈ cfg.excludeZones,
    (b.1 * effectiveBlockSize cfg < zone.x2 ∧
      zone.x1 < b.1 * effectiveBlockSize cfg + effectiveBlockSize cfg) ∧
    b.2 * effectiveBlockSize cfg < zone.y2 ∧
      zone.y1 < b.2 * effectiveBlockSize cfg + effectiveBlockSize cfg

instance (cfg : Config) : DecidablePred (Masked cfg) :=
  fun _ => inferInstanceAs (Decidable (∃ zone ∈ cfg.excludeZones, _))

noncomputable def unmaskedBlocks (cfg : Config) : Finset (ℤ × ℤ) :=
  (wholeBlocks cfg).filter (fun b => ¬ Masked cfg b)

noncomputable def blockPixels (cfg : Config) (b : ℤ × ℤ) : Finset (ℤ × ℤ) :=
  Finset.Ico (b.1 * effectiveBlockSize cfg) (b.1 * effectiveBlockSize cfg + effectiveBlockSize cfg) ×ˢ
    Finset.Ico (b.2 * effectiveBlockSize cfg) (b.2 * effectiveBlockSize cfg + effectiveBlockSize cfg)

/-- The luminance of a pixel, row by row. -/
def luma (cfg : Config) (plane : Bytes) (p : ℤ × ℤ) : ℤ :=
  (plane.getD (p.2 * cfg.frameWidth + p.1).toNat 0).toNat

noncomputable def meanAbsDiff (cfg : Config) (prev cur : Bytes) (b : ℤ × ℤ) : ℚ :=
  ((∑ p ∈ blockPixels cfg b, |luma cfg cur p - luma cfg prev p| : ℤ) : ℚ) /
    ((effectiveBlockSize cfg * effectiveBlockSize cfg : ℤ) : ℚ)

noncomputable def activeSet (cfg : Config) (prev cur : Bytes) : Finset (ℤ × ℤ) :=
  (unmaskedBlocks cfg).filter (fun b => cfg.motionThreshold ≤ meanAbsDiff cfg prev cur b)

/-! ### The specification -/

/-- The least box around a set of blocks: it lies in the frame, contains the blocks, and each
of its sides is a side of one of them. -/
structure TightBox (cfg : Config) (active : Finset (ℤ × ℤ)) (box : Box) : Prop where
  inside : (0 ≤ box.x1 ∧ box.x2 ≤ cfg.frameWidth) ∧ 0 ≤ box.y1 ∧ box.y2 ≤ cfg.frameHeight
  contains : ∀ b ∈ active,
    (box.x1 ≤ b.1 * effectiveBlockSize cfg ∧
      b.1 * effectiveBlockSize cfg + effectiveBlockSize cfg ≤ box.x2) ∧
    box.y1 ≤ b.2 * effectiveBlockSize cfg ∧
      b.2 * effectiveBlockSize cfg + effectiveBlockSize cfg ≤ box.y2
  left : ∃ b ∈ active, box.x1 = b.1 * effectiveBlockSize cfg
  right : ∃ b ∈ active, box.x2 = b.1 * effectiveBlockSize cfg + effectiveBlockSize cfg
  top : ∃ b ∈ active, box.y1 = b.2 * effectiveBlockSize cfg
  bottom : ∃ b ∈ active, box.y2 = b.2 * effectiveBlockSize cfg + effectiveBlockSize cfg

structure AnalyzeSpec (cfg : Config) (prev cur : Bytes) (r : MotionResult) : Prop where
  activeBlocks : r.activeBlocks = (activeSet cfg prev cur).card
  totalBlocks : r.totalBlocks = (wholeBlocks cfg).card
  effectiveBlocks : r.effectiveBlocks =
    if unmaskedBlocks cfg = ∅ then 1 else ((unmaskedBlocks cfg).card : ℤ)
  active_le_effective : r.activeBlocks ≤ r.effectiveBlocks
  isLightingShift : r.isLightingShift = true ↔
    cfg.lightingShiftRatio ≤ (r.activeBlocks : ℚ) / (r.effectiveBlocks : ℚ)
  hasMotion : r.hasMotion = true ↔
    cfg.minActiveBlocks ≤ r.activeBlocks ∧ r.isLightingShift = false
  maxBlockDelta : ∀ c, r.maxBlockDelta ≤ c ↔
    0 ≤ c ∧ ∀ b ∈ unmaskedBlocks cfg, meanAbsDiff cfg prev cur b ≤ c
  motionBox : r.motionBox.isSome ↔ r.hasMotion = true ∧ 0 < r.activeBlocks
  tight : ∀ box, r.motionBox = some box → TightBox cfg (activeSet cfg prev cur) box
  allActive : cfg.lightingShiftRatio ≤ 1 → (unmaskedBlocks cfg).Nonempty →
    activeSet cfg prev cur = unmaskedBlocks cfg → r.isLightingShift = true ∧ r.hasMotion = false

section Unique

variable {cfg : Config} {prev cur : Bytes} {active : Finset (ℤ × ℤ)}

lemma TightBox.unique {box box' : Box} (h : TightBox cfg active box)
    (h' : TightBox cfg active box') : box = box' := by
  have hle : ∀ {b c : Box}, TightBox cfg active b → TightBox cfg active c →
      (c.x1 ≤ b.x1 ∧ b.x2 ≤ c.x2) ∧ c.y1 ≤ b.y1 ∧ b.y2 ≤ c.y2 := by
    intro b c hb hc
    obtain ⟨l, hl, hx1⟩ := hb.left
    obtain ⟨r, hr, hx2⟩ := hb.right
    obtain ⟨t, ht, hy1⟩ := hb.top
    obtain ⟨m, hm, hy2⟩ := hb.bottom
    rw [hx1, hx2, hy1, hy2]
    exact ⟨⟨(hc.contains l hl).1.1, (hc.contains r hr).1.2⟩, (hc.contains t ht).2.1,
      (hc.contains m hm).2.2⟩
  obtain ⟨⟨hx1, hx2⟩, hy1, hy2⟩ := hle h h'
  obtain ⟨⟨hx1', hx2'⟩, hy1', hy2'⟩ := hle h' h
  cases box
  cases box'
  simp only [Box.mk.injEq]
  exact ⟨le_antisymm hx1' hx1, le_antisymm hy1' hy1, le_antisymm hx2 hx2', le_antisymm hy2 hy2'⟩

/-- The specification leaves nothing open: it has at most one result. -/
theorem AnalyzeSpec.unique {r r' : MotionResult} (h : AnalyzeSpec cfg prev cur r)
    (h' : AnalyzeSpec cfg prev cur r') : r = r' := by
  have hactive : r.activeBlocks = r'.activeBlocks := h.activeBlocks.trans h'.activeBlocks.symm
  have heffective : r.effectiveBlocks = r'.effectiveBlocks :=
    h.effectiveBlocks.trans h'.effectiveBlocks.symm
  have hshift : r.isLightingShift = r'.isLightingShift := by
    rw [Bool.eq_iff_iff, h.isLightingShift, h'.isLightingShift, hactive, heffective]
  have hmotion : r.hasMotion = r'.hasMotion := by
    rw [Bool.eq_iff_iff, h.hasMotion, h'.hasMotion, hactive, hshift]
  have hdelta : r.maxBlockDelta = r'.maxBlockDelta := by
    apply le_antisymm
    · exact (h.maxBlockDelta _).mpr ((h'.maxBlockDelta _).mp le_rfl)
    · exact (h'.maxBlockDelta _).mpr ((h.maxBlockDelta _).mp le_rfl)
  have hsome : r.motionBox.isSome ↔ r'.motionBox.isSome := by
    rw [h.motionBox, h'.motionBox, hmotion, hactive]
  have hbox : r.motionBox = r'.motionBox := by
    cases hb : r.motionBox with
    | none =>
      rw [hb] at hsome
      exact (Option.not_isSome_iff_eq_none.mp (fun hs => Bool.false_ne_true (hsome.mpr hs))).symm
    | some box =>
      rw [hb] at hsome
      obtain ⟨box', hb'⟩ := Option.isSome_iff_exists.mp (hsome.mp rfl)
      rw [hb', (h.tight box hb).unique (h'.tight box' hb')]
  cases r
  cases r'
  simp only [MotionResult.mk.injEq]
  exact ⟨hmotion, hactive, h.totalBlocks.trans h'.totalBlocks.symm, heffective, hshift, hdelta, hbox⟩

end Unique

/-! ### The detector of a configuration -/

structure Tuned (cfg : Config) (d : MacroblockDetector) : Prop extends Configured cfg d where
  threshold : d.threshold = cfg.motionThreshold
  lightingShiftRatio : d.lightingShiftRatio = cfg.lightingShiftRatio

/-- Everything the constructor computed for a frame, which no call changes. -/
structure Built (cfg : Config) (d : MacroblockDetector) : Prop extends Tuned cfg d where
  totalBlocks : d.totalBlocks = d.blocks.length
  effectiveBlocks : d.effectiveBlocks =
    if watched cfg d = [] then 1 else ((watched cfg d).length : ℤ)

lemma maskBlock_count {cfg : Config} {bs gridW : ℤ} {acc acc' : List Bool × ℤ} {b : ℤ × ℤ}
    (h : maskBlock cfg bs gridW acc b = some acc') :
    acc'.2 = if cfg.excludeZones.any (overlaps bs b.1 b.2) = true then acc.2 + 1 else acc.2 := by
  unfold maskBlock at h
  split at h
  · next hz =>
    simp only [Option.bind_eq_bind, Option.bind_eq_some_iff, Option.some.injEq] at h
    obtain ⟨isMasked, -, rfl⟩ := h
    rw [if_pos hz]
  · next hz =>
    obtain rfl : acc = acc' := by simpa using h
    rw [if_neg hz]

/-- The mask loop counts the masked blocks. -/
lemma maskLoop_count {cfg : Config} {gridW : ℤ} {blocks : List (ℤ × ℤ)}
    {acc acc' : List Bool × ℤ}
    (h : blocks.foldlM (maskBlock cfg (effectiveBlockSize cfg) gridW) acc = some acc') :
    acc'.2 = Running.count (fun b => maskedBlock cfg b = true) blocks acc.2 := by
  induction blocks generalizing acc with
  | nil =>
    obtain rfl : acc = acc' := by simpa using h
    rfl
  | cons b blocks ih =>
    rw [List.foldlM_cons, Option.bind_eq_bind, Option.bind_eq_some_iff] at h
    obtain ⟨mid, hmid, hrest⟩ := h
    rw [ih hrest, maskBlock_count hmid]
    rfl

lemma length_watched (cfg : Config) (d : MacroblockDetector) :
    ((watched cfg d).length : ℤ) =
      d.blocks.length - Running.count (fun b => maskedBlock cfg b = true) d.blocks 0 := by
  have hsplit := List.length_eq_length_filter_add (l := d.blocks) (maskedBlock cfg)
  zify at hsplit
  simp only [Running.count_eq, Bool.decide_eq_true, watched]
  linarith only [hsplit]

lemma newMacroblockDetector_tuned {cfg : Config} {d : MacroblockDetector}
    (h : newMacroblockDetector cfg = some d) : Tuned cfg d := by
  obtain ⟨-, -, isMasked, maskedCount, -, hd⟩ := newMacroblockDetector_cases h
  refine ⟨(newMacroblockDetector_configured h).1, ?_, ?_⟩
  · rw [hd]
  · rw [hd]

theorem newMacroblockDetector_built {cfg : Config} {d : MacroblockDetector}
    (hw : 0 < cfg.frameWidth) (hh : 0 < cfg.frameHeight)
    (h : newMacroblockDetector cfg = some d) : Built cfg d ∧ d.hasLastFrame = false := by
  have htuned := newMacroblockDetector_tuned h
  obtain ⟨hconf, hlast⟩ := newMacroblockDetector_configured h
  obtain ⟨-, -, isMasked, maskedCount, hfold, hd⟩ := newMacroblockDetector_cases h
  have hbs := effectiveBlockSize_pos cfg
  have hgw : 0 ≤ cfg.frameWidth.tdiv (effectiveBlockSize cfg) := Int.tdiv_nonneg hw.le hbs.le
  have hgh : 0 ≤ cfg.frameHeight.tdiv (effectiveBlockSize cfg) := Int.tdiv_nonneg hh.le hbs.le
  have htotal : (d.blocks.length : ℤ) = cfg.frameWidth.tdiv (effectiveBlockSize cfg) *
      cfg.frameHeight.tdiv (effectiveBlockSize cfg) := by
    rw [blocks, hconf.gridW, hconf.gridH, Go.length_grid, Go.length_range, Go.length_range]
    push_cast
    rw [sub_zero, sub_zero, Int.toNat_of_nonneg hgw, Int.toNat_of_nonneg hgh]
  have hcount : maskedCount = Running.count (fun b => maskedBlock cfg b = true) d.blocks 0 := by
    rw [blocks, hconf.gridW, hconf.gridH]
    exact maskLoop_count hfold
  have hwatched := length_watched cfg d
  rw [htotal, ← hcount] at hwatched
  refine ⟨⟨htuned, ?_, ?_⟩, hlast⟩
  · rw [htotal, hd]
  · have heffective : d.effectiveBlocks =
        if ((watched cfg d).length : ℤ) ≤ 0 then 1 else ((watched cfg d).length : ℤ) := by
      rw [hwatched, hd]
    rw [heffective]
    by_cases hempty : watched cfg d = []
    · rw [if_pos hempty, if_pos (by simp [hempty])]
    · have hpos := List.length_pos_of_ne_nil hempty
      rw [if_neg hempty, if_neg (by omega)]

lemma Tuned.remember {cfg : Config} {d : MacroblockDetector} (hd : Tuned cfg d) (currentY : Bytes) :
    Tuned cfg (d.remember currentY) where
  toConfigured := hd.toConfigured.remember currentY
  threshold := hd.threshold
  lightingShiftRatio := hd.lightingShiftRatio

lemma Built.remember {cfg : Config} {d : MacroblockDetector} (hd : Built cfg d) (currentY : Bytes) :
    Built cfg (d.remember currentY) where
  toTuned := hd.toTuned.remember currentY
  totalBlocks := hd.totalBlocks
  effectiveBlocks := hd.effectiveBlocks

lemma Built.reset {cfg : Config} {d : MacroblockDetector} (hd : Built cfg d) : Built cfg d.reset where
  toConfigured := hd.toConfigured.reset
  threshold := hd.threshold
  lightingShiftRatio := hd.lightingShiftRatio
  totalBlocks := hd.totalBlocks
  effectiveBlocks := hd.effectiveBlocks

/-! ### The lists of the loops and the sets of the specification -/

section Refinement

variable {cfg : Config} {d : MacroblockDetector} {prev cur : Bytes}

lemma maskedBlock_iff {b : ℤ × ℤ} : maskedBlock cfg b = true ↔ Masked cfg b := by
  simp [maskedBlock, Masked, overlaps, and_assoc, List.any_eq_true]

lemma Configured.mem_blocks_iff (hd : Configured cfg d) {b : ℤ × ℤ} :
    b ∈ d.blocks ↔ b ∈ wholeBlocks cfg := by
  have hbs := effectiveBlockSize_pos cfg
  rw [mem_blocks, hd.gridW, hd.gridH, wholeBlocks, Finset.mem_filter, Finset.mem_product,
    Finset.mem_Ico, Finset.mem_Ico]
  constructor
  · rintro ⟨⟨hx0, hx⟩, hy0, hy⟩
    have hfitX := block_fits hbs hx0 hx
    have hfitY := block_fits hbs hy0 hy
    have hleX : b.1 ≤ b.1 * effectiveBlockSize cfg := le_mul_of_one_le_right hx0 hbs
    have hleY : b.2 ≤ b.2 * effectiveBlockSize cfg := le_mul_of_one_le_right hy0 hbs
    omega
  · rintro ⟨⟨⟨hx0, hx⟩, hy0, hy⟩, hfitX, hfitY⟩
    exact ⟨⟨hx0, cell_lt_tdiv hbs (by omega) hfitX⟩, hy0, cell_lt_tdiv hbs (by omega) hfitY⟩

lemma blocks_nodup (d : MacroblockDetector) : d.blocks.Nodup :=
  Go.nodup_grid (Go.nodup_range 0 d.gridW) (Go.nodup_range 0 d.gridH)

lemma Configured.blocks_toFinset (hd : Configured cfg d) : d.blocks.toFinset = wholeBlocks cfg := by
  ext b
  rw [List.mem_toFinset, hd.mem_blocks_iff]

lemma Configured.mem_watched_iff (hd : Configured cfg d) {b : ℤ × ℤ} :
    b ∈ watched cfg d ↔ b ∈ unmaskedBlocks cfg := by
  rw [mem_watched, hd.mem_blocks_iff, unmaskedBlocks, Finset.mem_filter, ← maskedBlock_iff,
    Bool.not_eq_true]

lemma Configured.watched_toFinset (hd : Configured cfg d) :
    (watched cfg d).toFinset = unmaskedBlocks cfg := by
  ext b
  rw [List.mem_toFinset, hd.mem_watched_iff]

lemma watched_nodup (cfg : Config) (d : MacroblockDetector) : (watched cfg d).Nodup :=
  (blocks_nodup d).filter _

/-- The code sums the absolute differences of a block in the order of its pixel loops. -/
lemma Configured.blockMean_eq (hd : Configured cfg d) (hprev : d.lastY = prev)
    {b : ℤ × ℤ} (hb : b ∈ d.blocks) : blockMean d cur b = meanAbsDiff cfg prev cur b := by
  have hpixels : (d.pixels b.1 b.2).toFinset = blockPixels cfg b := by
    ext p
    rw [List.mem_toFinset, mem_pixels, hd.blockSize, blockPixels, Finset.mem_product,
      Finset.mem_Ico, Finset.mem_Ico]
  have hnodup : (d.pixels b.1 b.2).Nodup := Go.nodup_grid (Go.nodup_range _ _) (Go.nodup_range _ _)
  have hsum : diffSum d cur b = ∑ p ∈ blockPixels cfg b, |luma cfg cur p - luma cfg prev p| := by
    rw [diffSum, ← hpixels, List.sum_toFinset _ hnodup]
    congr 1
    apply List.map_congr_left
    intro p hp
    obtain ⟨⟨hx0, hx⟩, hy0, hy⟩ := hd.pixel_mem hb hp
    have hidx := (rowMajor_bounds hx0 hx hy0 hy).1
    simp only [pixelDiff, hd.width, Go.index_eq_getElem? hidx, hprev, luma,
      List.getD_eq_getElem?_getD]
  rw [blockMean, blockMAD, hsum, hd.blockSize, meanAbsDiff]

lemma Tuned.mem_activeSet (hd : Tuned cfg d) (hprev : d.lastY = prev) {b : ℤ × ℤ} :
    b ∈ activeSet cfg prev cur ↔ b ∈ watched cfg d ∧ activeBlock d cur b := by
  rw [activeSet, Finset.mem_filter, ← hd.mem_watched_iff]
  apply and_congr_right
  intro hb
  rw [activeBlock, hd.threshold, hd.blockMean_eq hprev (mem_watched.mp hb).1]

lemma Tuned.activeBlocks_eq (hd : Tuned cfg d) (hprev : d.lastY = prev) :
    (scan cfg d cur).activeBlocks = (activeSet cfg prev cur).card := by
  have hset : ((watched cfg d).filter (activeBlock d cur)).toFinset = activeSet cfg prev cur := by
    ext b
    rw [List.mem_toFinset, hd.mem_activeSet hprev, List.mem_filter, decide_eq_true_eq]
  rw [scan_activeBlocks, Running.count_eq, ← hset,
    List.toFinset_card_of_nodup ((watched_nodup cfg d).filter _), zero_add]

lemma Built.effectiveBlocks_eq (hd : Built cfg d) :
    d.effectiveBlocks = if unmaskedBlocks cfg = ∅ then 1 else ((unmaskedBlocks cfg).card : ℤ) := by
  rw [hd.effectiveBlocks, ← hd.watched_toFinset, List.toFinset_card_of_nodup (watched_nodup cfg d)]
  simp only [List.toFinset_eq_empty_iff]

lemma activeSet_subset : activeSet cfg prev cur ⊆ unmaskedBlocks cfg := Finset.filter_subset _ _

lemma active_card_le : ((activeSet cfg prev cur).card : ℤ) ≤
    if unmaskedBlocks cfg = ∅ then 1 else ((unmaskedBlocks cfg).card : ℤ) := by
  have hle : (activeSet cfg prev cur).card ≤ (unmaskedBlocks cfg).card :=
    Finset.card_le_card activeSet_subset
  split_ifs with hempty
  · rw [hempty, Finset.card_empty] at hle
    omega
  · exact_mod_cast hle

/-- The running extrema of the scan are the columns and rows of active blocks, and bound
those of every active block. -/
lemma Tuned.scan_extrema (hd : Tuned cfg d) (hprev : d.lastY = prev)
    (hactive : (activeSet cfg prev cur).Nonempty) :
    (∀ b ∈ activeSet cfg prev cur,
      ((scan cfg d cur).minBX ≤ b.1 ∧ b.1 ≤ (scan cfg d cur).maxBX) ∧
        (scan cfg d cur).minBY ≤ b.2 ∧ b.2 ≤ (scan cfg d cur).maxBY) ∧
    (∃ b ∈ activeSet cfg prev cur, (scan cfg d cur).minBX = b.1) ∧
    (∃ b ∈ activeSet cfg prev cur, (scan cfg d cur).maxBX = b.1) ∧
    (∃ b ∈ activeSet cfg prev cur, (scan cfg d cur).minBY = b.2) ∧
    ∃ b ∈ activeSet cfg prev cur, (scan cfg d cur).maxBY = b.2 := by
  obtain ⟨c, hc⟩ := hactive
  obtain ⟨hmem, hact⟩ := (hd.mem_activeSet hprev).mp hc
  obtain ⟨⟨hx0, hx⟩, hy0, hy⟩ := mem_blocks.mp (mem_watched.mp hmem).1
  rw [scan_minBX, scan_maxBX, scan_minBY, scan_maxBY]
  refine ⟨?_, ?_, ?_, ?_, ?_⟩
  · intro b hb
    obtain ⟨hbmem, hbact⟩ := (hd.mem_activeSet hprev).mp hb
    exact ⟨⟨Running.least_le _ hbmem hbact, Running.le_greatest _ hbmem hbact⟩,
      Running.least_le _ hbmem hbact, Running.le_greatest _ hbmem hbact⟩
  · obtain ⟨b, hb, hbact, heq⟩ := Running.least_attained (f := Prod.fst) hmem hact hx
    exact ⟨b, (hd.mem_activeSet hprev).mpr ⟨hb, hbact⟩, heq⟩
  · obtain ⟨b, hb, hbact, heq⟩ :=
      Running.greatest_attained (f := Prod.fst) hmem hact (show (-1 : ℤ) < c.1 by omega)
    exact ⟨b, (hd.mem_activeSet hprev).mpr ⟨hb, hbact⟩, heq⟩
  · obtain ⟨b, hb, hbact, heq⟩ := Running.least_attained (f := Prod.snd) hmem hact hy
    exact ⟨b, (hd.mem_activeSet hprev).mpr ⟨hb, hbact⟩, heq⟩
  · obtain ⟨b, hb, hbact, heq⟩ :=
      Running.greatest_attained (f := Prod.snd) hmem hact (show (-1 : ℤ) < c.2 by omega)
    exact ⟨b, (hd.mem_activeSet hprev).mpr ⟨hb, hbact⟩, heq⟩

lemma Tuned.scan_maxBX_of_empty (hd : Tuned cfg d) (hprev : d.lastY = prev)
    (hempty : activeSet cfg prev cur = ∅) : (scan cfg d cur).maxBX = -1 := by
  rw [scan_maxBX]
  rcases Running.greatest_eq (p := activeBlock d cur) (f := Prod.fst) (watched cfg d) (-1) with
    h | ⟨b, hb, hact, -⟩
  · exact h
  · have hmem := (hd.mem_activeSet hprev).mpr ⟨hb, hact⟩
    rw [hempty] at hmem
    simp at hmem

/-- Whole blocks end inside the frame, so the clipping of the box does nothing. -/
lemma Tuned.tightBox (hd : Tuned cfg d) (hprev : d.lastY = prev) {box : Box}
    (hactive : (activeSet cfg prev cur).Nonempty)
    (hbox : (d.scanResult (scan cfg d cur)).motionBox = some box) :
    TightBox cfg (activeSet cfg prev cur) box := by
  have hbs := effectiveBlockSize_pos cfg
  obtain ⟨hbound, ⟨l, hl, hminX⟩, ⟨r, hr, hmaxX⟩, ⟨t, ht, hminY⟩, ⟨b, hb, hmaxY⟩⟩ :=
    hd.scan_extrema hprev hactive
  have hwhole : ∀ c ∈ activeSet cfg prev cur, (0 ≤ c.1 ∧
      c.1 * effectiveBlockSize cfg + effectiveBlockSize cfg ≤ cfg.frameWidth) ∧ 0 ≤ c.2 ∧
      c.2 * effectiveBlockSize cfg + effectiveBlockSize cfg ≤ cfg.frameHeight := by
    intro c hc
    have hmem := (Finset.mem_filter.mp (activeSet_subset hc)).1
    rw [wholeBlocks, Finset.mem_filter, Finset.mem_product, Finset.mem_Ico, Finset.mem_Ico] at hmem
    exact ⟨⟨hmem.1.1.1, hmem.2.1⟩, hmem.1.2.1, hmem.2.2⟩
  have hr' := (hwhole r hr).1.2
  have hb' := (hwhole b hb).2.2
  simp only [scanResult, Option.ite_none_right_eq_some, Option.some.injEq] at hbox
  obtain ⟨-, rfl⟩ := hbox
  simp only [hminX, hmaxX, hminY, hmaxY, hd.width, hd.height, hd.blockSize, add_one_mul,
    if_neg (not_lt.mpr hr'), if_neg (not_lt.mpr hb')] at hbound ⊢
  refine ⟨⟨⟨?_, hr'⟩, ?_, hb'⟩, ?_, ⟨l, hl, rfl⟩, ⟨r, hr, rfl⟩, ⟨t, ht, rfl⟩, ⟨b, hb, rfl⟩⟩
  · exact mul_nonneg (hwhole l hl).1.1 hbs.le
  · exact mul_nonneg (hwhole t ht).2.1 hbs.le
  · intro c hc
    obtain ⟨⟨h1, h2⟩, h3, h4⟩ := hbound c hc
    exact ⟨⟨mul_le_mul_of_nonneg_right h1 hbs.le,
        add_le_add_left (mul_le_mul_of_nonneg_right h2 hbs.le) _⟩,
      mul_le_mul_of_nonneg_right h3 hbs.le,
      add_le_add_left (mul_le_mul_of_nonneg_right h4 hbs.le) _⟩

lemma Tuned.motionBox_isSome_iff (hd : Tuned cfg d) (hprev : d.lastY = prev) :
    (d.scanResult (scan cfg d cur)).motionBox.isSome ↔
      (d.scanResult (scan cfg d cur)).hasMotion = true ∧ (activeSet cfg prev cur).Nonempty := by
  have hcolumn : 0 ≤ (scan cfg d cur).maxBX ↔ (activeSet cfg prev cur).Nonempty := by
    constructor
    · intro hmax
      by_contra hempty
      rw [hd.scan_maxBX_of_empty hprev (Finset.not_nonempty_iff_eq_empty.mp hempty)] at hmax
      omega
    · intro hactive
      obtain ⟨-, -, ⟨b, hb, hmax⟩, -⟩ := hd.scan_extrema hprev hactive
      have hmem := (mem_watched.mp ((hd.mem_activeSet hprev).mp hb).1).1
      rw [hmax]
      exact (mem_blocks.mp hmem).1.1
  simp [scanResult, hcolumn, and_assoc]

lemma Tuned.hasMotion_iff (hd : Tuned cfg d) :
    (d.scanResult (scan cfg d cur)).hasMotion = true ↔
      cfg.minActiveBlocks ≤ (d.scanResult (scan cfg d cur)).activeBlocks ∧
        (d.scanResult (scan cfg d cur)).isLightingShift = false := by
  simp only [scanResult, Bool.and_eq_true, decide_eq_true_eq, Bool.not_eq_true', hd.minActiveBlocks]

lemma Tuned.maxBlockDelta_le_iff (hd : Tuned cfg d) (hprev : d.lastY = prev) {c : ℚ} :
    (d.scanResult (scan cfg d cur)).maxBlockDelta ≤ c ↔
      0 ≤ c ∧ ∀ b ∈ unmaskedBlocks cfg, meanAbsDiff cfg prev cur b ≤ c := by
  apply scan_maxBlockDelta_le_iff.trans
  apply and_congr_right
  intro _
  simp only [← hd.mem_watched_iff]
  refine forall₂_congr fun b hb => ?_
  rw [hd.blockMean_eq hprev (mem_watched.mp hb).1]

/-- When every unmasked block is active, the ratio of the lighting shift is one. -/
lemma fullRatio (hne : (unmaskedBlocks cfg).Nonempty) :
    (((unmaskedBlocks cfg).card : ℤ) : ℚ) /
      ((if unmaskedBlocks cfg = ∅ then 1 else ((unmaskedBlocks cfg).card : ℤ) : ℤ) : ℚ) = 1 := by
  have hpos : (0 : ℚ) < ((unmaskedBlocks cfg).card : ℚ) := by
    exact_mod_cast Finset.card_pos.mpr hne
  rw [if_neg hne.ne_empty]
  push_cast
  exact div_self hpos.ne'

/-- The code meets its specification: what the loops computed is what the sets say. -/
theorem Built.scanResult_spec (hd : Built cfg d) (hprev : d.lastY = prev) :
    AnalyzeSpec cfg prev cur (d.scanResult (scan cfg d cur)) := by
  have hactive : (d.scanResult (scan cfg d cur)).activeBlocks = (activeSet cfg prev cur).card :=
    hd.activeBlocks_eq hprev
  have heffective : (d.scanResult (scan cfg d cur)).effectiveBlocks =
      if unmaskedBlocks cfg = ∅ then 1 else ((unmaskedBlocks cfg).card : ℤ) :=
    hd.effectiveBlocks_eq
  have hshift : (d.scanResult (scan cfg d cur)).isLightingShift = true ↔
      cfg.lightingShiftRatio ≤ ((d.scanResult (scan cfg d cur)).activeBlocks : ℚ) /
        ((d.scanResult (scan cfg d cur)).effectiveBlocks : ℚ) := by
    simp only [scanResult, decide_eq_true_eq, hd.lightingShiftRatio]
  have hmotion : (d.scanResult (scan cfg d cur)).hasMotion = true ↔ _ := hd.hasMotion_iff
  refine ⟨hactive, ?_, heffective, ?_, hshift, hmotion, fun c => hd.maxBlockDelta_le_iff hprev,
    ?_, ?_, ?_⟩
  · show d.totalBlocks = _
    rw [hd.totalBlocks, ← hd.blocks_toFinset, List.toFinset_card_of_nodup (blocks_nodup d)]
  · rw [hactive, heffective]
    exact active_card_le
  · rw [hd.motionBox_isSome_iff hprev, hactive, ← Finset.card_pos, Nat.cast_pos]
  · intro box hbox
    have hsome : (d.scanResult (scan cfg d cur)).motionBox.isSome := by rw [hbox]; rfl
    exact hd.tightBox hprev ((hd.motionBox_isSome_iff hprev).mp hsome).2 hbox
  · intro hratio hne hall
    have hone : (d.scanResult (scan cfg d cur)).isLightingShift = true := by
      rw [hshift, hactive, heffective, hall, fullRatio hne]
      exact hratio
    refine ⟨hone, ?_⟩
    rw [Bool.eq_false_iff]
    intro hm
    rw [hmotion, hone] at hm
    exact Bool.noConfusion hm.2

end Refinement

/-! ### Calls on a fresh detector -/

/-- The call passes a plane of the size of the frame. -/
def FullCall (cfg : Config) : DetectorCall → Prop
  | .analyze currentY => FullPlane cfg currentY
  | .reset => True

lemma Configured.detectorStep_analyze {cfg : Config} {d : MacroblockDetector} {currentY : Bytes}
    (hd : Configured cfg d) (hcur : FullPlane cfg currentY) :
    detectorStep d (.analyze currentY) = some (d.remember currentY,
      some (if d.hasLastFrame then d.scanResult (scan cfg d currentY) else d.firstResult)) := by
  rw [detectorStep, hd.analyze_eq hcur]
  rfl

lemma Built.step {cfg : Config} {d : MacroblockDetector} {call : DetectorCall} (hd : Built cfg d)
    (hcall : FullCall cfg call) : ∃ d' o, detectorStep d call = some (d', o) ∧ Built cfg d' := by
  cases call with
  | analyze currentY => exact ⟨_, _, hd.detectorStep_analyze hcall, hd.remember currentY⟩
  | reset => exact ⟨_, _, rfl, hd.reset⟩

/-- Calls with full-size planes never panic and keep what the constructor computed. -/
theorem Built.exec {cfg : Config} {d : MacroblockDetector} {calls : List DetectorCall}
    (hd : Built cfg d) (hcalls : ∀ call ∈ calls, FullCall cfg call) :
    ∃ d' results, Transition.exec detectorStep d calls = some (d', results) ∧ Built cfg d' := by
  refine Transition.exec_history (R := fun _ _ => True) (fun _ s => Built cfg s) ?_ hcalls
    (List.pairwise_of_forall fun _ _ => trivial) hd
  intro _ s call hs hcall _
  exact hs.step hcall

/-- After any calls with full-size planes, `Analyze` on two further frames reads only in-range
indices, and its second result is the specified one. -/
theorem analyze_meets_specification (cfg : Config) (history : List DetectorCall) (prev cur : Bytes)
    (hw : 0 < cfg.frameWidth) (hh : 0 < cfg.frameHeight)
    (hhistory : ∀ call ∈ history, FullCall cfg call) (hprev : FullPlane cfg prev)
    (hcur : FullPlane cfg cur) :
    ∃ results first r,
      detectorResults cfg (history ++ [.analyze prev, .analyze cur]) =
        some (results ++ [some first, some r]) ∧
      results.length = history.length ∧ AnalyzeSpec cfg prev cur r := by
  obtain ⟨d₀, hnew⟩ := newMacroblockDetector_isSome cfg hw hh
  obtain ⟨d, results, hexec, hd⟩ := (newMacroblockDetector_built hw hh hnew).1.exec hhistory
  have hlast : (d.remember prev).lastY = prev := hd.remember_lastY hprev
  obtain ⟨first, hfirst⟩ : ∃ first,
      detectorStep d (.analyze prev) = some (d.remember prev, some first) :=
    ⟨_, hd.detectorStep_analyze hprev⟩
  have hsecond := (hd.remember prev).detectorStep_analyze hcur
  refine ⟨results, first, _, ?_, Transition.exec_length hexec,
    (hd.remember prev).scanResult_spec hlast⟩
  rw [detectorResults, hnew, Option.bind_eq_bind, Option.bind_some, Transition.exec_append hexec]
  simp only [Transition.exec, hfirst, hsecond, Option.bind_eq_bind, Option.bind_some,
    Option.map_some]
  rfl

/-- Two whole blocks, the left one in a zone, and a column and a row that belong to none. -/
def partBlockConfig : Config where
  frameWidth := 5
  frameHeight := 3
  blockSize := 2
  minActiveBlocks := 1
  excludeZones := [⟨"left", 0, 0, 1, 1⟩]

theorem analyze_meets_specification_partBlock : ∃ results first r,
    detectorResults partBlockConfig ([.analyze (List.replicate 15 7), .reset] ++
        [.analyze (List.replicate 15 0), .analyze (List.replicate 15 99)]) =
      some (results ++ [some first, some r]) ∧
    results.length = 2 ∧ AnalyzeSpec partBlockConfig (List.replicate 15 0) (List.replicate 15 99) r := by
  have hfull : ∀ v : UInt8, FullPlane partBlockConfig (List.replicate 15 v) := fun _ => rfl
  apply analyze_meets_specification partBlockConfig _ _ _ (by decide) (by decide) ?_ (hfull 0) (hfull 99)
  intro call hcall
  simp only [List.mem_cons, List.not_mem_nil, or_false] at hcall
  rcases hcall with rfl | rfl
  · exact hfull 7
  · trivial

end IntruderWatch.Proofs
