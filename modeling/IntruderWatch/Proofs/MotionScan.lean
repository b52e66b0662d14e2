import IntruderWatch.Motion
import IntruderWatch.Library.RunningFolds

/-!
# The block loop of the motion detector

A detector built by the constructor and fed full-size planes never indexes out of range,
and its block loop is a fold over the watched blocks, those that no zone overlaps. The
lemmas about that fold carry the results about masking, coverage and dispatch.
-/

namespace IntruderWatch.Proofs
open MacroblockDetector

lemma effectiveBlockSize_pos (cfg : Config) : 0 < effectiveBlockSize cfg := by
  unfold effectiveBlockSize
  split
  · norm_num
  · omega

/-- A whole block of the grid ends inside the frame. -/
lemma block_fits {n bs i : ℤ} (hbs : 0 < bs) (h0 : 0 ≤ i) (hi : i < n.tdiv bs) :
    i * bs + bs ≤ n := by
  have hn : 0 ≤ n := by
    by_contra hneg
    have hpos : 0 ≤ (-n).tdiv bs := Int.tdiv_nonneg (by omega) hbs.le
    rw [Int.neg_tdiv] at hpos
    omega
  rw [Int.tdiv_eq_ediv_of_nonneg hn] at hi
  have hmul := (Int.le_ediv_iff_mul_le hbs).mp (show i + 1 ≤ n / bs by omega)
  linarith

/-- Two row-major indices of one grid are equal only for equal cells. -/
lemma rowMajor_inj {w x y x' y' : ℤ} (hx0 : 0 ≤ x) (hx : x < w) (hx0' : 0 ≤ x') (hx' : x' < w)
    (h : y * w + x = y' * w + x') : x = x' ∧ y = y' := by
  have hy : y = y' := by
    by_contra hne
    rcases lt_or_gt_of_ne hne with hlt | hlt
    · nlinarith
    · nlinarith
  subst hy
  exact ⟨by linarith, rfl⟩

lemma rowMajor_bounds {w h x y : ℤ} (hx0 : 0 ≤ x) (hx : x < w) (hy0 : 0 ≤ y) (hy : y < h) :
    0 ≤ y * w + x ∧ y * w + x < w * h := by
  constructor
  · have hw : 0 ≤ y * w := mul_nonneg hy0 (by omega)
    omega
  · nlinarith

/-! ### The mask computed by the constructor -/

lemma maskBlock_length {cfg : Config} {bs gridW : ℤ} {acc acc' : List Bool × ℤ} {b : ℤ × ℤ}
    (h : maskBlock cfg bs gridW acc b = some acc') : acc'.1.length = acc.1.length := by
  unfold maskBlock at h
  split at h
  · simp only [Option.bind_eq_bind, Option.bind_eq_some_iff, Option.some.injEq] at h
    obtain ⟨isMasked, hstore, rfl⟩ := h
    obtain ⟨-, rfl⟩ := Go.store_eq_some_iff.mp hstore
    simp
  · obtain rfl : acc = acc' := by simpa using h
    rfl

lemma maskBlock_index {cfg : Config} {bs gridW : ℤ} {acc acc' : List Bool × ℤ} {b : ℤ × ℤ}
    (h : maskBlock cfg bs gridW acc b = some acc') (i : ℤ) :
    Go.index acc'.1 i =
      if b.2 * gridW + b.1 = i ∧ cfg.excludeZones.any (overlaps bs b.1 b.2) = true then some true
      else Go.index acc.1 i := by
  unfold maskBlock at h
  split at h
  · next hz =>
    simp only [Option.bind_eq_bind, Option.bind_eq_some_iff, Option.some.injEq] at h
    obtain ⟨isMasked, hstore, rfl⟩ := h
    obtain ⟨⟨h0, hlt⟩, rfl⟩ := Go.store_eq_some_iff.mp hstore
    rw [Go.index_set h0 hlt]
    by_cases hi : b.2 * gridW + b.1 = i
    · simp [hi, hz]
    · simp [hi, Ne.symm hi]
  · next hz =>
    obtain rfl : acc = acc' := by simpa using h
    simp [hz]

lemma maskLoop_index {cfg : Config} {bs gridW : ℤ} {blocks : List (ℤ × ℤ)}
    {acc acc' : List Bool × ℤ} (h : blocks.foldlM (maskBlock cfg bs gridW) acc = some acc') (i : ℤ) :
    Go.index acc'.1 i =
      if ∃ b ∈ blocks, b.2 * gridW + b.1 = i ∧ cfg.excludeZones.any (overlaps bs b.1 b.2) = true
      then some true else Go.index acc.1 i := by
  induction blocks generalizing acc with
  | nil =>
    obtain rfl : acc = acc' := by simpa using h
    simp
  | cons b blocks ih =>
    rw [List.foldlM_cons, Option.bind_eq_bind, Option.bind_eq_some_iff] at h
    obtain ⟨mid, hmid, hrest⟩ := h
    rw [ih hrest, maskBlock_index hmid]
    by_cases hb : b.2 * gridW + b.1 = i ∧ cfg.excludeZones.any (overlaps bs b.1 b.2) = true
    · have hex : ∃ c ∈ b :: blocks, c.2 * gridW + c.1 = i ∧
          cfg.excludeZones.any (overlaps bs c.1 c.2) = true := ⟨b, by simp, hb⟩
      simp only [if_pos hb, if_pos hex, ite_self]
    · have hiff : (∃ c ∈ b :: blocks, c.2 * gridW + c.1 = i ∧
          cfg.excludeZones.any (overlaps bs c.1 c.2) = true) ↔
          ∃ c ∈ blocks, c.2 * gridW + c.1 = i ∧
            cfg.excludeZones.any (overlaps bs c.1 c.2) = true := by
        constructor
        · rintro ⟨c, hc, hmask⟩
          rcases List.mem_cons.mp hc with rfl | hc
          · exact absurd hmask hb
          · exact ⟨c, hc, hmask⟩
        · rintro ⟨c, hc, hmask⟩
          exact ⟨c, List.mem_cons_of_mem b hc, hmask⟩
      simp only [if_neg hb, hiff]

lemma maskLoop_isSome {cfg : Config} {bs gridW : ℤ} {blocks : List (ℤ × ℤ)} {acc : List Bool × ℤ}
    (hin : ∀ b ∈ blocks, 0 ≤ b.2 * gridW + b.1 ∧ b.2 * gridW + b.1 < acc.1.length) :
    ∃ acc', blocks.foldlM (maskBlock cfg bs gridW) acc = some acc' := by
  induction blocks generalizing acc with
  | nil => exact ⟨acc, rfl⟩
  | cons b blocks ih =>
    obtain ⟨mid, hmid⟩ : ∃ mid, maskBlock cfg bs gridW acc b = some mid := by
      unfold maskBlock
      split
      · exact ⟨_, by rw [Go.store, if_pos (hin b (by simp))]; rfl⟩
      · exact ⟨acc, rfl⟩
    have hlen := maskBlock_length hmid
    have hin' : ∀ c ∈ blocks, 0 ≤ c.2 * gridW + c.1 ∧ c.2 * gridW + c.1 < mid.1.length := by
      intro c hc
      rw [hlen]
      exact hin c (List.mem_cons_of_mem b hc)
    obtain ⟨acc', hrest⟩ := ih hin'
    exact ⟨acc', by rw [List.foldlM_cons, hmid]; exact hrest⟩

/-! ### Detectors of a configuration -/

/-- The block is masked by some zone of the configuration. -/
def maskedBlock (cfg : Config) (b : ℤ × ℤ) : Bool :=
  cfg.excludeZones.any (overlaps (effectiveBlockSize cfg) b.1 b.2)

/-- The detector holds what the constructor computed from `cfg`, and its reference frame
has the size of the frame. Every call keeps this. -/
structure Configured (cfg : Config) (d : MacroblockDetector) : Prop where
  width : d.width = cfg.frameWidth
  height : d.height = cfg.frameHeight
  blockSize : d.blockSize = effectiveBlockSize cfg
  gridW : d.gridW = cfg.frameWidth.tdiv (effectiveBlockSize cfg)
  gridH : d.gridH = cfg.frameHeight.tdiv (effectiveBlockSize cfg)
  minActiveBlocks : d.minActiveBlocks = cfg.minActiveBlocks
  masked : ∀ b ∈ d.blocks, Go.index d.isMasked (b.2 * d.gridW + b.1) = some (maskedBlock cfg b)
  lastY : (d.lastY.length : ℤ) = cfg.frameWidth * cfg.frameHeight

lemma mem_blocks {d : MacroblockDetector} {b : ℤ × ℤ} :
    b ∈ d.blocks ↔ (0 ≤ b.1 ∧ b.1 < d.gridW) ∧ 0 ≤ b.2 ∧ b.2 < d.gridH := by
  simp [blocks]

lemma mem_pixels {d : MacroblockDetector} {bX bY : ℤ} {p : ℤ × ℤ} :
    p ∈ d.pixels bX bY ↔ (bX * d.blockSize ≤ p.1 ∧ p.1 < bX * d.blockSize + d.blockSize) ∧
      bY * d.blockSize ≤ p.2 ∧ p.2 < bY * d.blockSize + d.blockSize := by
  simp [pixels]

/-- What a successful construction computed. -/
lemma newMacroblockDetector_cases {cfg : Config} {d : MacroblockDetector}
    (h : newMacroblockDetector cfg = some d) :
    let bs := effectiveBlockSize cfg
    let gridW := cfg.frameWidth.tdiv bs
    let gridH := cfg.frameHeight.tdiv bs
    0 ≤ gridW * gridH ∧ 0 ≤ cfg.frameWidth * cfg.frameHeight ∧
    ∃ isMasked maskedCount,
      (Go.grid (Go.range 0 gridW) (Go.range 0 gridH)).foldlM (maskBlock cfg bs gridW)
        (List.replicate (gridW * gridH).toNat false, 0) = some (isMasked, maskedCount) ∧
      d = {
        width := cfg.frameWidth
        height := cfg.frameHeight
        blockSize := bs
        gridW := gridW
        gridH := gridH
        totalBlocks := gridW * gridH
        effectiveBlocks :=
          if gridW * gridH - maskedCount ≤ 0 then 1 else gridW * gridH - maskedCount
        threshold := cfg.motionThreshold
        minActiveBlocks := cfg.minActiveBlocks
        lightingShiftRatio := cfg.lightingShiftRatio
        isMasked := isMasked
        lastY := List.replicate (cfg.frameWidth * cfg.frameHeight).toNat 0
        hasLastFrame := false } := by
  simp only [newMacroblockDetector, Option.bind_eq_bind, Option.bind_eq_some_iff,
    Option.some.injEq, Prod.exists] at h
  obtain ⟨m0, hm0, isMasked, maskedCount, hfold, lastY, hlastY, rfl⟩ := h
  obtain ⟨htotal, rfl⟩ := Go.make_eq_some_iff.mp hm0
  obtain ⟨hsize, rfl⟩ := Go.make_eq_some_iff.mp hlastY
  exact ⟨htotal, hsize, isMasked, maskedCount, hfold, rfl⟩

theorem newMacroblockDetector_configured {cfg : Config} {d : MacroblockDetector}
    (h : newMacroblockDetector cfg = some d) : Configured cfg d ∧ d.hasLastFrame = false := by
  obtain ⟨htotal, hsize, isMasked, maskedCount, hfold, rfl⟩ := newMacroblockDetector_cases h
  refine ⟨⟨rfl, rfl, rfl, rfl, rfl, rfl, ?_, ?_⟩, rfl⟩
  · intro b hb
    obtain ⟨⟨hx0, hx⟩, hy0, hy⟩ := mem_blocks.mp hb
    dsimp only at hx hy ⊢
    rw [maskLoop_index hfold]
    have hrange := rowMajor_bounds hx0 hx hy0 hy
    by_cases hm : maskedBlock cfg b = true
    · have hex : ∃ c ∈ Go.grid (Go.range 0 (cfg.frameWidth.tdiv (effectiveBlockSize cfg)))
          (Go.range 0 (cfg.frameHeight.tdiv (effectiveBlockSize cfg))),
          c.2 * cfg.frameWidth.tdiv (effectiveBlockSize cfg) + c.1 =
            b.2 * cfg.frameWidth.tdiv (effectiveBlockSize cfg) + b.1 ∧
          cfg.excludeZones.any (overlaps (effectiveBlockSize cfg) c.1 c.2) = true :=
        ⟨b, by simp [hx0, hx, hy0, hy], rfl, hm⟩
      rw [if_pos hex, hm]
    · rw [if_neg, Go.index_replicate hrange.1 (by omega)]
      · simp [hm]
      · rintro ⟨c, hc, hkey, hmask⟩
        simp only [Go.mem_grid, Go.mem_range] at hc
        obtain ⟨h1, h2⟩ := rowMajor_inj hc.1.1 hc.1.2 hx0 hx hkey
        rw [h1, h2] at hmask
        exact hm hmask
  · simp [hsize]

/-- A configuration with a positive frame size yields a detector. -/
theorem newMacroblockDetector_isSome (cfg : Config) (hw : 0 < cfg.frameWidth)
    (hh : 0 < cfg.frameHeight) : ∃ d, newMacroblockDetector cfg = some d := by
  have hbs := effectiveBlockSize_pos cfg
  have hgw : 0 ≤ cfg.frameWidth.tdiv (effectiveBlockSize cfg) := Int.tdiv_nonneg hw.le hbs.le
  have hgh : 0 ≤ cfg.frameHeight.tdiv (effectiveBlockSize cfg) := Int.tdiv_nonneg hh.le hbs.le
  have htotal := mul_nonneg hgw hgh
  have hsize : 0 ≤ cfg.frameWidth * cfg.frameHeight := mul_nonneg hw.le hh.le
  have hin : ∀ b ∈ Go.grid (Go.range 0 (cfg.frameWidth.tdiv (effectiveBlockSize cfg)))
      (Go.range 0 (cfg.frameHeight.tdiv (effectiveBlockSize cfg))),
      0 ≤ b.2 * cfg.frameWidth.tdiv (effectiveBlockSize cfg) + b.1 ∧
        b.2 * cfg.frameWidth.tdiv (effectiveBlockSize cfg) + b.1 <
          (List.replicate (cfg.frameWidth.tdiv (effectiveBlockSize cfg) *
            cfg.frameHeight.tdiv (effectiveBlockSize cfg)).toNat false).length := by
    intro b hb
    simp only [Go.mem_grid, Go.mem_range] at hb
    have hrange := rowMajor_bounds hb.1.1 hb.1.2 hb.2.1 hb.2.2
    simp only [List.length_replicate]
    omega
  have hloop : ∃ acc', List.foldlM (maskBlock cfg (effectiveBlockSize cfg)
      (cfg.frameWidth.tdiv (effectiveBlockSize cfg)))
      (List.replicate (cfg.frameWidth.tdiv (effectiveBlockSize cfg) *
        cfg.frameHeight.tdiv (effectiveBlockSize cfg)).toNat false, 0)
      (Go.grid (Go.range 0 (cfg.frameWidth.tdiv (effectiveBlockSize cfg)))
        (Go.range 0 (cfg.frameHeight.tdiv (effectiveBlockSize cfg)))) = some acc' :=
    maskLoop_isSome hin
  obtain ⟨⟨isMasked, maskedCount⟩, hfold⟩ := hloop
  unfold newMacroblockDetector
  simp only [Go.make, htotal, hsize, if_true, Option.bind_eq_bind, Option.bind_some, hfold]
  exact ⟨_, rfl⟩

/-! ### The scan of two full-size planes -/

section Scan

variable {cfg : Config} {d : MacroblockDetector}

/-- A plane with one byte for every pixel of the frame. -/
def FullPlane (cfg : Config) (plane : Bytes) : Prop :=
  (plane.length : ℤ) = cfg.frameWidth * cfg.frameHeight

/-- The pixels of a block of the grid lie in the frame. -/
lemma Configured.pixel_mem (hd : Configured cfg d) {b p : ℤ × ℤ} (hb : b ∈ d.blocks)
    (hp : p ∈ d.pixels b.1 b.2) :
    (0 ≤ p.1 ∧ p.1 < cfg.frameWidth) ∧ 0 ≤ p.2 ∧ p.2 < cfg.frameHeight := by
  obtain ⟨⟨hx0, hx⟩, hy0, hy⟩ := mem_blocks.mp hb
  have hbs := effectiveBlockSize_pos cfg
  rw [mem_pixels, hd.blockSize] at hp
  rw [hd.gridW] at hx
  rw [hd.gridH] at hy
  have hfitX := block_fits hbs hx0 hx
  have hfitY := block_fits hbs hy0 hy
  have hposX : 0 ≤ b.1 * effectiveBlockSize cfg := mul_nonneg hx0 hbs.le
  have hposY : 0 ≤ b.2 * effectiveBlockSize cfg := mul_nonneg hy0 hbs.le
  omega

lemma Configured.index_isSome (hd : Configured cfg d) {plane : Bytes} (hplane : FullPlane cfg plane)
    {b p : ℤ × ℤ} (hb : b ∈ d.blocks) (hp : p ∈ d.pixels b.1 b.2) :
    ∃ v, Go.index plane (p.2 * d.width + p.1) = some v := by
  obtain ⟨⟨hx0, hx⟩, hy0, hy⟩ := hd.pixel_mem hb hp
  have hrange := rowMajor_bounds hx0 hx hy0 hy
  rw [hd.width]
  exact Go.index_isSome hrange.1 (by rw [hplane]; exact hrange.2)

/-- The absolute luminance difference at pixel `p`. -/
def pixelDiff (d : MacroblockDetector) (currentY : Bytes) (p : ℤ × ℤ) : ℤ :=
  |(((Go.index currentY (p.2 * d.width + p.1)).getD 0).toNat : ℤ) -
    (((Go.index d.lastY (p.2 * d.width + p.1)).getD 0).toNat : ℤ)|

def diffSum (d : MacroblockDetector) (currentY : Bytes) (b : ℤ × ℤ) : ℤ :=
  ((d.pixels b.1 b.2).map (pixelDiff d currentY)).sum

lemma foldl_add_eq_sum {α : Type} (f : α → ℤ) (xs : List α) (a : ℤ) :
    xs.foldl (fun s x => s + f x) a = a + (xs.map f).sum := by
  induction xs generalizing a with
  | nil => simp
  | cons x xs ih =>
    rw [List.foldl_cons, ih, List.map_cons, List.sum_cons]
    ring

lemma Configured.blockDiffSum_eq (hd : Configured cfg d) {currentY : Bytes}
    (hcur : FullPlane cfg currentY) {b : ℤ × ℤ} (hb : b ∈ d.blocks) :
    d.blockDiffSum currentY b.1 b.2 = some (diffSum d currentY b) := by
  have hbody : ∀ sum, ∀ p ∈ d.pixels b.1 b.2,
      d.addPixelDiff currentY sum p = some (sum + pixelDiff d currentY p) := by
    intro sum p hp
    obtain ⟨c, hc⟩ := hd.index_isSome hcur hb hp
    obtain ⟨l, hl⟩ := hd.index_isSome hd.lastY hb hp
    simp only [addPixelDiff, pixelDiff, hc, hl, Option.bind_eq_bind, Option.bind_some,
      Option.getD_some, Option.some.injEq]
    split
    · next hneg => rw [abs_of_neg hneg]
    · next hpos => rw [abs_of_nonneg (not_lt.mp hpos)]
  rw [blockDiffSum, Go.foldlM_eq_some hbody, foldl_add_eq_sum]
  simp [diffSum]

/-- The blocks whose pixels are compared. -/
def watched (cfg : Config) (d : MacroblockDetector) : List (ℤ × ℤ) :=
  d.blocks.filter (fun b => !maskedBlock cfg b)

lemma mem_watched {b : ℤ × ℤ} : b ∈ watched cfg d ↔ b ∈ d.blocks ∧ maskedBlock cfg b = false := by
  simp [watched]

/-- The mean absolute difference of a block. -/
def blockMean (d : MacroblockDetector) (currentY : Bytes) (b : ℤ × ℤ) : ℚ :=
  d.blockMAD (diffSum d currentY b)

/-- The values after the block loop. -/
def scan (cfg : Config) (d : MacroblockDetector) (currentY : Bytes) : Scan :=
  (watched cfg d).foldl (fun s b => d.scanUpdate s b (blockMean d currentY b)) d.scanStart

/-- The mean difference of the block reaches the threshold. -/
def activeBlock (d : MacroblockDetector) (currentY : Bytes) (b : ℤ × ℤ) : Prop :=
  d.threshold ≤ blockMean d currentY b

instance (d : MacroblockDetector) (currentY : Bytes) : DecidablePred (activeBlock d currentY) :=
  fun b => inferInstanceAs (Decidable (d.threshold ≤ blockMean d currentY b))

/-- What the block loop does to each of its running values. -/
lemma scanUpdate_eq (d : MacroblockDetector) (s : Scan) (b : ℤ × ℤ) (mad : ℚ) :
    d.scanUpdate s b mad = {
      activeBlocks := if d.threshold ≤ mad then s.activeBlocks + 1 else s.activeBlocks
      maxBlockDelta := if s.maxBlockDelta < mad then mad else s.maxBlockDelta
      minBX := if d.threshold ≤ mad then if b.1 < s.minBX then b.1 else s.minBX else s.minBX
      minBY := if d.threshold ≤ mad then if b.2 < s.minBY then b.2 else s.minBY else s.minBY
      maxBX := if d.threshold ≤ mad then if s.maxBX < b.1 then b.1 else s.maxBX else s.maxBX
      maxBY := if d.threshold ≤ mad then if s.maxBY < b.2 then b.2 else s.maxBY else s.maxBY } := by
  unfold scanUpdate
  by_cases ht : d.threshold ≤ mad
  · by_cases hm : s.maxBlockDelta < mad <;> simp only [ht, hm, if_true, if_false]
  · by_cases hm : s.maxBlockDelta < mad <;> simp only [ht, hm, if_true, if_false]

/-! Each running value of the scan is a count or an extremum over the active blocks. -/

lemma scan_activeBlocks (cfg : Config) (d : MacroblockDetector) (currentY : Bytes) :
    (scan cfg d currentY).activeBlocks =
      Running.count (activeBlock d currentY) (watched cfg d) 0 := by
  apply (List.foldl_hom Scan.activeBlocks _).symm
  intro s b
  rw [scanUpdate_eq]
  rfl

lemma scan_minBX (cfg : Config) (d : MacroblockDetector) (currentY : Bytes) :
    (scan cfg d currentY).minBX =
      Running.least (activeBlock d currentY) Prod.fst (watched cfg d) d.gridW := by
  apply (List.foldl_hom Scan.minBX _).symm
  intro s b
  rw [scanUpdate_eq]
  rfl

lemma scan_minBY (cfg : Config) (d : MacroblockDetector) (currentY : Bytes) :
    (scan cfg d currentY).minBY =
      Running.least (activeBlock d currentY) Prod.snd (watched cfg d) d.gridH := by
  apply (List.foldl_hom Scan.minBY _).symm
  intro s b
  rw [scanUpdate_eq]
  rfl

lemma scan_maxBX (cfg : Config) (d : MacroblockDetector) (currentY : Bytes) :
    (scan cfg d currentY).maxBX =
      Running.greatest (activeBlock d currentY) Prod.fst (watched cfg d) (-1) := by
  apply (List.foldl_hom Scan.maxBX _).symm
  intro s b
  rw [scanUpdate_eq]
  rfl

lemma scan_maxBY (cfg : Config) (d : MacroblockDetector) (currentY : Bytes) :
    (scan cfg d currentY).maxBY =
      Running.greatest (activeBlock d currentY) Prod.snd (watched cfg d) (-1) := by
  apply (List.foldl_hom Scan.maxBY _).symm
  intro s b
  rw [scanUpdate_eq]
  rfl

lemma Configured.scanLoop_eq (hd : Configured cfg d) {currentY : Bytes}
    (hcur : FullPlane cfg currentY) :
    d.blocks.foldlM (d.scanBlock currentY) d.scanStart = some (scan cfg d currentY) := by
  have hbody : ∀ s, ∀ b ∈ d.blocks, d.scanBlock currentY s b =
      some (if (!maskedBlock cfg b) = true then d.scanUpdate s b (blockMean d currentY b) else s) := by
    intro s b hb
    rw [scanBlock, hd.masked b hb, Option.bind_eq_bind, Option.bind_some]
    by_cases hm : maskedBlock cfg b = true
    · simp [hm]
    · simp [hm, hd.blockDiffSum_eq hcur hb, blockMean]
  rw [Go.foldlM_eq_some hbody, scan, watched, List.foldl_filter]

/-- `Analyze` on a full-size plane never panics. -/
theorem Configured.analyze_eq (hd : Configured cfg d) {currentY : Bytes}
    (hcur : FullPlane cfg currentY) :
    d.analyze currentY = some (d.remember currentY,
      if d.hasLastFrame then d.scanResult (scan cfg d currentY) else d.firstResult) := by
  unfold analyze
  by_cases h : d.hasLastFrame = true
  · simp [h, hd.scanLoop_eq hcur]
  · simp [h]

lemma Configured.remember (hd : Configured cfg d) (currentY : Bytes) :
    Configured cfg (d.remember currentY) where
  width := hd.width
  height := hd.height
  blockSize := hd.blockSize
  gridW := hd.gridW
  gridH := hd.gridH
  minActiveBlocks := hd.minActiveBlocks
  masked := hd.masked
  lastY := by simpa [MacroblockDetector.remember] using hd.lastY

lemma Configured.reset (hd : Configured cfg d) : Configured cfg d.reset where
  width := hd.width
  height := hd.height
  blockSize := hd.blockSize
  gridW := hd.gridW
  gridH := hd.gridH
  minActiveBlocks := hd.minActiveBlocks
  masked := hd.masked
  lastY := hd.lastY

lemma Configured.remember_lastY (hd : Configured cfg d) {currentY : Bytes}
    (hcur : FullPlane cfg currentY) : (d.remember currentY).lastY = currentY := by
  have hlen : (currentY.length : ℤ) = d.lastY.length := hcur.trans hd.lastY.symm
  exact Go.copy_of_length_eq (by exact_mod_cast hlen)

/-- Two detectors and two planes that agree on the pixels of the watched blocks give the
same scan. -/
theorem scan_congr {d₁ d₂ : MacroblockDetector} {cur₁ cur₂ : Bytes}
    (hwidth : d₁.width = d₂.width) (hbs : d₁.blockSize = d₂.blockSize)
    (hgridW : d₁.gridW = d₂.gridW) (hgridH : d₁.gridH = d₂.gridH)
    (hthr : d₁.threshold = d₂.threshold)
    (hagree : ∀ b ∈ watched cfg d₁, ∀ p ∈ d₁.pixels b.1 b.2,
      Go.index cur₁ (p.2 * d₁.width + p.1) = Go.index cur₂ (p.2 * d₁.width + p.1) ∧
      Go.index d₁.lastY (p.2 * d₁.width + p.1) = Go.index d₂.lastY (p.2 * d₁.width + p.1)) :
    scan cfg d₁ cur₁ = scan cfg d₂ cur₂ := by
  have hwatched : watched cfg d₂ = watched cfg d₁ := by
    simp only [watched, blocks, hgridW, hgridH]
  have hstart : d₂.scanStart = d₁.scanStart := by simp only [scanStart, hgridW, hgridH]
  unfold scan
  rw [hwatched, hstart]
  apply List.foldl_ext
  intro s b hb
  have hpixels : d₂.pixels b.1 b.2 = d₁.pixels b.1 b.2 := by simp only [pixels, hbs]
  have hsum : diffSum d₁ cur₁ b = diffSum d₂ cur₂ b := by
    unfold diffSum
    rw [hpixels]
    congr 1
    apply List.map_congr_left
    intro p hp
    obtain ⟨hcur, hlast⟩ := hagree b hb p hp
    simp only [pixelDiff, ← hwidth, hcur, hlast]
  have hmean : blockMean d₁ cur₁ b = blockMean d₂ cur₂ b := by
    rw [blockMean, blockMean, hsum, blockMAD, blockMAD, hbs]
  rw [hmean, scanUpdate, scanUpdate, hthr]

end Scan

end IntruderWatch.Proofs
