import IntruderWatch.Proofs.MotionMasking

/-!
# Coverage of the frame by the macroblock grid

A pixel is observed when changing it alone can change a result of `Analyze`. The grid holds
whole blocks only, and a zone without pixels can still satisfy the overlap test, so a pixel
outside every zone is observed exactly when its cell ends inside the frame and no such zone
touches the cell.
-/

namespace IntruderWatch.Proofs
open MacroblockDetector

/-! ### The largest block mean of a scan -/

lemma scanUpdate_maxBlockDelta (d : MacroblockDetector) (s : Scan) (b : ℤ × ℤ) (mad : ℚ) :
    (d.scanUpdate s b mad).maxBlockDelta = max s.maxBlockDelta mad := by
  rw [scanUpdate_eq, max_def_lt]

lemma scan_maxBlockDelta_le_iff {cfg : Config} {d : MacroblockDetector} {currentY : Bytes} {c : ℚ} :
    (scan cfg d currentY).maxBlockDelta ≤ c ↔
      0 ≤ c ∧ ∀ b ∈ watched cfg d, blockMean d currentY b ≤ c := by
  have hfold : ∀ (bs : List (ℤ × ℤ)) (s : Scan),
      (bs.foldl (fun s b => d.scanUpdate s b (blockMean d currentY b)) s).maxBlockDelta ≤ c ↔
        s.maxBlockDelta ≤ c ∧ ∀ b ∈ bs, blockMean d currentY b ≤ c := by
    intro bs
    induction bs with
    | nil => simp
    | cons b bs ih =>
      intro s
      rw [List.foldl_cons, ih, scanUpdate_maxBlockDelta, max_le_iff]
      simp only [List.mem_cons, forall_eq_or_imp]
      tauto
  exact hfold (watched cfg d) d.scanStart

lemma pixelDiff_nonneg (d : MacroblockDetector) (currentY : Bytes) (p : ℤ × ℤ) :
    0 ≤ pixelDiff d currentY p := abs_nonneg _

lemma Configured.blockArea_pos {cfg : Config} {d : MacroblockDetector} (hd : Configured cfg d) :
    (0 : ℚ) < ((d.blockSize * d.blockSize : ℤ) : ℚ) := by
  have hbs := effectiveBlockSize_pos cfg
  rw [hd.blockSize]
  exact_mod_cast mul_pos hbs hbs

/-- A changed pixel makes the mean of its block positive. -/
lemma Configured.blockMean_pos {cfg : Config} {d : MacroblockDetector} (hd : Configured cfg d)
    {currentY : Bytes} {b p : ℤ × ℤ} (hp : p ∈ d.pixels b.1 b.2)
    (hdiff : 0 < pixelDiff d currentY p) : 0 < blockMean d currentY b := by
  have hle : pixelDiff d currentY p ≤ diffSum d currentY b := by
    apply List.single_le_sum
    · intro x hx
      obtain ⟨q, -, rfl⟩ := List.mem_map.mp hx
      exact pixelDiff_nonneg d currentY q
    · exact List.mem_map_of_mem hp
  have hsum : 0 < diffSum d currentY b := hdiff.trans_le hle
  exact div_pos (by exact_mod_cast hsum) hd.blockArea_pos

/-! ### Observed pixels -/

/-- The result of `Analyze` on `cur` after the frame `prev` on a fresh detector. -/
def resultAfter (cfg : Config) (prev cur : Bytes) : Option MotionResult := do
  let d ← newMacroblockDetector cfg
  let (d, _) ← d.analyze prev
  let (_, r) ← d.analyze cur
  some r

/-- There are two frames that differ only at `(x, y)` and get different results. -/
def Observes (cfg : Config) (x y : ℤ) : Prop :=
  ∃ prev cur₁ cur₂ : Bytes, FullPlane cfg prev ∧ FullPlane cfg cur₁ ∧ FullPlane cfg cur₂ ∧
    (∀ i, i ≠ y * cfg.frameWidth + x → Go.index cur₁ i = Go.index cur₂ i) ∧
    ∃ r₁ r₂, resultAfter cfg prev cur₁ = some r₁ ∧ resultAfter cfg prev cur₂ = some r₂ ∧ r₁ ≠ r₂

/-- The detector after its first frame. -/
lemma resultAfter_eq {cfg : Config} {d : MacroblockDetector} {prev cur : Bytes}
    (hnew : newMacroblockDetector cfg = some d) (hprev : FullPlane cfg prev)
    (hcur : FullPlane cfg cur) :
    resultAfter cfg prev cur =
      some ((d.remember prev).scanResult (scan cfg (d.remember prev) cur)) := by
  have hd := (newMacroblockDetector_configured hnew).1
  simp only [resultAfter, hnew, Option.bind_eq_bind, Option.bind_some, hd.analyze_eq hprev,
    (hd.remember prev).analyze_eq hcur]
  rfl

lemma remember_pixels (d : MacroblockDetector) (prev : Bytes) (bX bY : ℤ) :
    (d.remember prev).pixels bX bY = d.pixels bX bY := rfl

lemma remember_watched (cfg : Config) (d : MacroblockDetector) (prev : Bytes) :
    watched cfg (d.remember prev) = watched cfg d := rfl

/-- A pixel of no watched block is not observed. -/
lemma not_observes_of_not_watched {cfg : Config} {d : MacroblockDetector} {x y : ℤ}
    (hnew : newMacroblockDetector cfg = some d) (hx0 : 0 ≤ x) (hx : x < cfg.frameWidth)
    (hblind : ∀ b ∈ watched cfg d, (x, y) ∉ d.pixels b.1 b.2) : ¬ Observes cfg x y := by
  rintro ⟨prev, cur₁, cur₂, hprev, h₁, h₂, hagree, r₁, r₂, hr₁, hr₂, hne⟩
  have hd := (newMacroblockDetector_configured hnew).1
  have hscan : scan cfg (d.remember prev) cur₁ = scan cfg (d.remember prev) cur₂ := by
    refine scan_congr rfl rfl rfl rfl rfl ?_
    intro b hb p hp
    refine ⟨?_, rfl⟩
    rw [remember_watched] at hb
    rw [remember_pixels] at hp
    obtain ⟨⟨hpx0, hpx⟩, hpy0, hpy⟩ := hd.pixel_mem (mem_watched.mp hb).1 hp
    apply hagree
    rw [(hd.remember prev).width]
    intro hidx
    obtain ⟨h1, h2⟩ := rowMajor_inj hpx0 hpx hx0 hx hidx
    have hxy : p = (x, y) := Prod.ext h1 h2
    exact hblind b hb (hxy ▸ hp)
  rw [resultAfter_eq hnew hprev h₁, Option.some.injEq] at hr₁
  rw [resultAfter_eq hnew hprev h₂, Option.some.injEq, ← hscan] at hr₂
  exact hne (hr₁.symm.trans hr₂)

/-- A pixel of a watched block is observed: on black frames, a change at it alone gives a
positive largest block mean. -/
lemma observes_of_watched {cfg : Config} {d : MacroblockDetector} {x y : ℤ} {b : ℤ × ℤ}
    (hnew : newMacroblockDetector cfg = some d) (hb : b ∈ watched cfg d)
    (hp : (x, y) ∈ d.pixels b.1 b.2) : Observes cfg x y := by
  have hd := (newMacroblockDetector_configured hnew).1
  obtain ⟨⟨hx0, hx⟩, hy0, hy⟩ := hd.pixel_mem (mem_watched.mp hb).1 hp
  obtain ⟨hi0, hi⟩ := rowMajor_bounds hx0 hx hy0 hy
  let n := (cfg.frameWidth * cfg.frameHeight).toNat
  let i := y * cfg.frameWidth + x
  let black : Bytes := List.replicate n 0
  let lit : Bytes := black.set i.toNat 255
  have hn : (n : ℤ) = cfg.frameWidth * cfg.frameHeight := Int.toNat_of_nonneg (by omega)
  have hblack : FullPlane cfg black := by simp [FullPlane, black, hn]
  have hlit : FullPlane cfg lit := by simp [FullPlane, lit, black, hn]
  have hlen : i < (black.length : ℤ) := by rw [hblack]; exact hi
  refine ⟨black, black, lit, hblack, hblack, hlit, ?_, _, _,
    resultAfter_eq hnew hblack hblack, resultAfter_eq hnew hblack hlit, ?_⟩
  · intro j hj
    rw [Go.index_set hi0 hlen, if_neg hj]
  · intro heq
    have hmax := congrArg MotionResult.maxBlockDelta heq
    simp only [scanResult] at hmax
    have hlast : (d.remember black).lastY = black := hd.remember_lastY hblack
    have hzero : (scan cfg (d.remember black) black).maxBlockDelta ≤ 0 := by
      rw [scan_maxBlockDelta_le_iff]
      refine ⟨le_rfl, fun c _ => ?_⟩
      have hsum : diffSum (d.remember black) black c = 0 := by
        apply List.sum_eq_zero
        intro v hv
        obtain ⟨q, -, rfl⟩ := List.mem_map.mp hv
        simp [pixelDiff, hlast]
      simp [blockMean, blockMAD, hsum]
    have hdiff : 0 < pixelDiff (d.remember black) lit (x, y) := by
      have hnew' : Go.index lit i = some 255 := by rw [Go.index_set hi0 hlen, if_pos rfl]
      have hold : Go.index black i = some 0 :=
        Go.index_replicate hi0 (by rw [hn]; exact hi)
      simp only [pixelDiff, hlast, (hd.remember black).width]
      rw [hnew', hold]
      decide
    have hpos : 0 < blockMean (d.remember black) lit b :=
      (hd.remember black).blockMean_pos hp hdiff
    rw [hmax] at hzero
    have hmean := (scan_maxBlockDelta_le_iff.mp hzero).2 b hb
    exact absurd hmean (not_le.mpr hpos)

/-! ### The coverage of a configuration -/

/-- No pixel of the grid cell of `(x, y)` that belongs to the frame lies in a zone. -/
def CellClear (cfg : Config) (x y : ℤ) : Prop :=
  ∀ px py, 0 ≤ px → px < cfg.frameWidth → 0 ≤ py → py < cfg.frameHeight →
    px / cfg.blockSize = x / cfg.blockSize → py / cfg.blockSize = y / cfg.blockSize →
    ∀ zone ∈ cfg.excludeZones, ¬ zone.Contains px py

/-- The grid cell of `(x, y)` ends inside the frame. -/
def CellInside (cfg : Config) (x y : ℤ) : Prop :=
  x / cfg.blockSize * cfg.blockSize + cfg.blockSize ≤ cfg.frameWidth ∧
    y / cfg.blockSize * cfg.blockSize + cfg.blockSize ≤ cfg.frameHeight

instance (cfg : Config) (x y : ℤ) : Decidable (CellInside cfg x y) := by
  unfold CellInside
  infer_instance

lemma cell_bounds {bs x : ℤ} (hbs : 0 < bs) : x / bs * bs ≤ x ∧ x < x / bs * bs + bs := by
  have hmod := Int.emod_nonneg x hbs.ne'
  have hlt := Int.emod_lt_of_pos x hbs
  have hdiv := Int.mul_ediv_add_emod x bs
  constructor <;> nlinarith

lemma cell_unique {bs x i : ℤ} (hbs : 0 < bs) (h : i * bs ≤ x ∧ x < i * bs + bs) : x / bs = i := by
  rw [Int.ediv_eq_iff_of_pos hbs]
  constructor <;> nlinarith [h.1, h.2]

lemma cell_lt_tdiv {n bs i : ℤ} (hbs : 0 < bs) (hn : 0 ≤ n) (h : i * bs + bs ≤ n) :
    i < n.tdiv bs := by
  rw [Int.tdiv_eq_ediv_of_nonneg hn]
  have hle : i + 1 ≤ n / bs := (Int.le_ediv_iff_mul_le hbs).mpr (by linarith)
  omega

section Coverage

variable {cfg : Config} {d : MacroblockDetector} {x y : ℤ}

lemma effectiveBlockSize_of_pos (hbs : 0 < cfg.blockSize) :
    effectiveBlockSize cfg = cfg.blockSize := by
  rw [effectiveBlockSize, if_neg (by omega)]

/-- The watched block of a pixel is its grid cell. -/
lemma Configured.cell_of_pixel (hd : Configured cfg d) (hbs : 0 < cfg.blockSize) {b : ℤ × ℤ}
    (hp : (x, y) ∈ d.pixels b.1 b.2) : b = (x / cfg.blockSize, y / cfg.blockSize) := by
  rw [mem_pixels, hd.blockSize, effectiveBlockSize_of_pos hbs] at hp
  exact Prod.ext (cell_unique hbs hp.1).symm (cell_unique hbs hp.2).symm

lemma Configured.mem_cell (hd : Configured cfg d) (hbs : 0 < cfg.blockSize) :
    (x, y) ∈ d.pixels (x / cfg.blockSize) (y / cfg.blockSize) := by
  rw [mem_pixels, hd.blockSize, effectiveBlockSize_of_pos hbs]
  exact ⟨cell_bounds hbs, cell_bounds hbs⟩

lemma Configured.cell_mem_blocks (hd : Configured cfg d) (hbs : 0 < cfg.blockSize)
    (hx0 : 0 ≤ x) (hx : x < cfg.frameWidth) (hy0 : 0 ≤ y) (hy : y < cfg.frameHeight) :
    (x / cfg.blockSize, y / cfg.blockSize) ∈ d.blocks ↔ CellInside cfg x y := by
  rw [mem_blocks, hd.gridW, hd.gridH, effectiveBlockSize_of_pos hbs]
  have hdx := Int.ediv_nonneg hx0 hbs.le
  have hdy := Int.ediv_nonneg hy0 hbs.le
  constructor
  · rintro ⟨⟨-, h1⟩, -, h2⟩
    exact ⟨block_fits hbs hdx h1, block_fits hbs hdy h2⟩
  · rintro ⟨h1, h2⟩
    exact ⟨⟨hdx, cell_lt_tdiv hbs (by omega) h1⟩, hdy, cell_lt_tdiv hbs (by omega) h2⟩

/-- A zone that overlaps a clear cell inside the frame contains no pixel at all. -/
lemma degenerate_of_overlaps (hbs : 0 < cfg.blockSize) (hx0 : 0 ≤ x) (hy0 : 0 ≤ y)
    (hclear : CellClear cfg x y) (hin : CellInside cfg x y) {zone : Zone}
    (hzone : zone ∈ cfg.excludeZones)
    (hover : overlaps cfg.blockSize (x / cfg.blockSize) (y / cfg.blockSize) zone = true) :
    zone.Degenerate := by
  by_contra hdeg
  obtain ⟨hzx, hzy⟩ : zone.x1 < zone.x2 ∧ zone.y1 < zone.y2 := by
    simpa [Zone.Degenerate, not_or] using hdeg
  simp only [overlaps, Bool.and_eq_true, decide_eq_true_eq] at hover
  obtain ⟨⟨⟨h1, h2⟩, h3⟩, h4⟩ := hover
  obtain ⟨hinX, hinY⟩ := hin
  have hcx : 0 ≤ x / cfg.blockSize * cfg.blockSize := mul_nonneg (Int.ediv_nonneg hx0 hbs.le) hbs.le
  have hcy : 0 ≤ y / cfg.blockSize * cfg.blockSize := mul_nonneg (Int.ediv_nonneg hy0 hbs.le) hbs.le
  -- the top left corner of the intersection is a pixel of the cell and of the zone
  let px := max (x / cfg.blockSize * cfg.blockSize) zone.x1
  let py := max (y / cfg.blockSize * cfg.blockSize) zone.y1
  have hpx : x / cfg.blockSize * cfg.blockSize ≤ px ∧
      px < x / cfg.blockSize * cfg.blockSize + cfg.blockSize :=
    ⟨le_max_left _ _, max_lt (by omega) (by omega)⟩
  have hpy : y / cfg.blockSize * cfg.blockSize ≤ py ∧
      py < y / cfg.blockSize * cfg.blockSize + cfg.blockSize :=
    ⟨le_max_left _ _, max_lt (by omega) (by omega)⟩
  refine hclear px py (by omega) (by omega) (by omega) (by omega) (cell_unique hbs hpx)
    (cell_unique hbs hpy) zone hzone ⟨le_max_right _ _, ?_, le_max_right _ _, ?_⟩
  · exact max_lt (by omega) hzx
  · exact max_lt (by omega) hzy

/-- The exact coverage: a pixel whose cell holds no excluded pixel is observed if and only if
the cell ends inside the frame and no degenerate zone passes the overlap test with it. -/
theorem observes_iff_of_cellClear (cfg : Config) (x y : ℤ) (hw : 0 < cfg.frameWidth)
    (hh : 0 < cfg.frameHeight) (hbs : 0 < cfg.blockSize)
    (hx0 : 0 ≤ x) (hx : x < cfg.frameWidth) (hy0 : 0 ≤ y) (hy : y < cfg.frameHeight)
    (hclear : CellClear cfg x y) :
    Observes cfg x y ↔ CellInside cfg x y ∧ ∀ zone ∈ cfg.excludeZones, zone.Degenerate →
      overlaps cfg.blockSize (x / cfg.blockSize) (y / cfg.blockSize) zone = false := by
  obtain ⟨d, hnew⟩ := newMacroblockDetector_isSome cfg hw hh
  have hd := (newMacroblockDetector_configured hnew).1
  have hcell := hd.cell_mem_blocks hbs hx0 hx hy0 hy
  constructor
  · intro hobs
    by_contra hcond
    refine not_observes_of_not_watched hnew hx0 hx ?_ hobs
    intro b hb hp
    rw [hd.cell_of_pixel hbs hp, mem_watched, hcell] at hb
    obtain ⟨hin, hmask⟩ := hb
    refine hcond ⟨hin, fun zone hzone _ => ?_⟩
    rw [maskedBlock, effectiveBlockSize_of_pos hbs, List.any_eq_false] at hmask
    simpa using hmask zone hzone
  · rintro ⟨hin, hdeg⟩
    have hwatched : (x / cfg.blockSize, y / cfg.blockSize) ∈ watched cfg d := by
      rw [mem_watched]
      refine ⟨hcell.mpr hin, ?_⟩
      rw [maskedBlock, effectiveBlockSize_of_pos hbs, List.any_eq_false]
      intro zone hzone hover
      have hzdeg := degenerate_of_overlaps hbs hx0 hy0 hclear hin hzone hover
      rw [hdeg zone hzone hzdeg] at hover
      exact Bool.false_ne_true hover
    exact observes_of_watched hnew hwatched (hd.mem_cell hbs)

end Coverage

/-- The configuration of `LoadConfig` with no environment variable set: 1920x1080, blocks of 32. -/
def shippedConfig : Config := {}

lemma shippedConfig_cellClear (x y : ℤ) : CellClear shippedConfig x y := by
  intro px py _ _ _ _ _ _ zone hzone
  simp [shippedConfig] at hzone

theorem observes_iff_of_cellClear_shipped : Observes shippedConfig 5 7 :=
  (observes_iff_of_cellClear shippedConfig 5 7 (by decide) (by decide) (by decide) (by decide)
    (by decide) (by decide) (by decide) (shippedConfig_cellClear 5 7)).mpr
    ⟨by decide, by simp [shippedConfig]⟩

/-- The last 24 rows of the shipped frame belong to no block: 1080 is not a multiple of 32. -/
theorem bottom_row_not_observed :
    CellClear shippedConfig 0 1079 ∧ ¬ Observes shippedConfig 0 1079 := by
  refine ⟨shippedConfig_cellClear 0 1079, ?_⟩
  obtain ⟨d, hnew⟩ := newMacroblockDetector_isSome shippedConfig (by decide) (by decide)
  have hd := (newMacroblockDetector_configured hnew).1
  refine not_observes_of_not_watched hnew (by decide) (by decide) ?_
  intro b hb hp
  rw [mem_watched, hd.cell_of_pixel (by decide) hp,
    hd.cell_mem_blocks (by decide) (by decide) (by decide) (by decide) (by decide)] at hb
  exact absurd hb.1 (by decide)

end IntruderWatch.Proofs
