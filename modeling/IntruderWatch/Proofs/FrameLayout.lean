import IntruderWatch.Capture
import IntruderWatch.Snapshot
import IntruderWatch.Proofs.MotionScan

/-!
# Frame layout

The buffers of the capturer against the frames that the capture process emits: sizes, reads,
plane slices and chroma indices. The sizes halve by truncation where the emitted planes round
up, so they agree exactly when width and height are even.
-/

namespace IntruderWatch.Proofs

variable {cfg : Config}

/-! ### Halving -/

lemma half_up_of_even {n : ℤ} (hn : 0 < n) (h : n % 2 = 0) : (n + 1) / 2 = n.tdiv 2 := by
  rw [Int.tdiv_eq_ediv_of_nonneg hn.le]
  omega

lemma half_up_of_odd {n : ℤ} (hn : 0 < n) (h : n % 2 = 1) : (n + 1) / 2 = n.tdiv 2 + 1 := by
  rw [Int.tdiv_eq_ediv_of_nonneg hn.le]
  omega

lemma half_le_half_up {n : ℤ} (hn : 0 < n) : 0 ≤ n.tdiv 2 ∧ n.tdiv 2 ≤ (n + 1) / 2 := by
  rw [Int.tdiv_eq_ediv_of_nonneg hn.le]
  omega

/-- One odd side already makes an emitted chroma plane larger than the slice for it. -/
lemma cSize_lt_of_odd (hW : 0 < cfg.frameWidth) (hH : 0 < cfg.frameHeight)
    (hodd : cfg.frameWidth % 2 = 1 ∨ cfg.frameHeight % 2 = 1) :
    cfg.cSize < chromaPlaneSize cfg.frameWidth cfg.frameHeight := by
  have hw := half_le_half_up hW
  have hh := half_le_half_up hH
  have hw1 : 1 ≤ (cfg.frameWidth + 1) / 2 := by omega
  have hh1 : 1 ≤ (cfg.frameHeight + 1) / 2 := by omega
  rw [Config.cSize, chromaPlaneSize]
  rcases hodd with h | h
  · rw [half_up_of_odd hW h]
    nlinarith
  · rw [half_up_of_odd hH h]
    nlinarith

/-- Both sides are even. -/
def EvenSides (cfg : Config) : Prop := cfg.frameWidth % 2 = 0 ∧ cfg.frameHeight % 2 = 0

lemma chromaPlaneSize_eq_iff (hW : 0 < cfg.frameWidth) (hH : 0 < cfg.frameHeight) :
    chromaPlaneSize cfg.frameWidth cfg.frameHeight = cfg.cSize ↔ EvenSides cfg := by
  constructor
  · intro h
    by_contra hodd
    have hlt := cSize_lt_of_odd hW hH (by rw [EvenSides] at hodd; omega)
    omega
  · rintro ⟨hw, hh⟩
    rw [chromaPlaneSize, Config.cSize, half_up_of_even hW hw, half_up_of_even hH hh]

lemma bufferSize_eq_iff (hW : 0 < cfg.frameWidth) (hH : 0 < cfg.frameHeight) :
    cfg.bufferSize = yuv420pSize cfg.frameWidth cfg.frameHeight ↔ EvenSides cfg := by
  rw [← chromaPlaneSize_eq_iff hW hH, Config.bufferSize_eq, Config.frameSize, Config.ySize,
    yuv420pSize]
  omega

lemma bufferSize_pos (hW : 0 < cfg.frameWidth) (hH : 0 < cfg.frameHeight) : 0 < cfg.bufferSize := by
  have hy : 0 < cfg.ySize := mul_pos hW hH
  have hc : 0 ≤ cfg.cSize := mul_nonneg (half_le_half_up hW).1 (half_le_half_up hH).1
  rw [Config.bufferSize_eq, Config.frameSize]
  omega

/-! ### Reads -/

/-- A read that the rest of the pipe cannot fill. -/
lemma readFrame_short {c : StreamCapturer} {call : ReadCall} {stdout : List Bytes}
    (hstdout : c.stdout = some stdout) (hlt : stdout.flatten.length < call.buf.length) :
    ∃ buf err, c.readFrame call = ({ c with stdout := some [] }, buf, some (.read err)) := by
  obtain ⟨buf, err, hread⟩ := Go.readFull_of_lt hlt
  refine ⟨buf, err, ?_⟩
  rw [StreamCapturer.readFrame, hstdout]
  simp [hread]

/-- A read that takes one block off the pipe. -/
lemma readFrame_block {c : StreamCapturer} {call : ReadCall} {stdout : List Bytes} {block : Bytes}
    {blocks : List Bytes} (hstdout : c.stdout = some stdout) (hlen : call.buf.length = block.length)
    (hle : block.length ≤ stdout.flatten.length) (hstarts : stdout.flatten <+: (block :: blocks).flatten) :
    ∃ rest, c.readFrame call =
        ({ c with stdout := some rest, lastFrameTime := call.now }, block, none) ∧
      rest.flatten = stdout.flatten.drop block.length ∧ rest.flatten <+: blocks.flatten := by
  obtain ⟨rest, hread, hrest⟩ := Go.readFull_of_le (hlen ▸ hle)
  rw [hlen] at hread hrest
  obtain ⟨tail, htail⟩ := hstarts
  rw [List.flatten_cons] at htail
  have hfirst : stdout.flatten.take block.length = block := by
    have htake := congrArg (List.take block.length) htail
    rwa [List.take_append_of_le_length hle, List.take_left] at htake
  refine ⟨rest, ?_, hrest, tail, ?_⟩
  · rw [StreamCapturer.readFrame, hstdout]
    simp [hread, hfirst]
  · have hdrop := congrArg (List.drop block.length) htail
    rwa [List.drop_append_of_le_length hle, List.drop_left, ← hrest] at hdrop

lemma framesRead_closed (c : StreamCapturer) (calls : List ReadCall) {n : ℕ} (hn : 0 < n)
    (hbuf : ∀ call ∈ calls, call.buf.length = n) (hempty : c.stdout = some []) :
    c.framesRead calls = [] := by
  induction calls generalizing c with
  | nil => rfl
  | cons call calls ih =>
    have hlen : ([] : List Bytes).flatten.length < call.buf.length := by
      rw [hbuf call List.mem_cons_self]
      exact hn
    obtain ⟨buf, err, hcall⟩ := readFrame_short hempty hlen
    rw [StreamCapturer.framesRead, hcall]
    exact ih _ (fun call hmem => hbuf call (List.mem_cons_of_mem _ hmem)) rfl

/-- Reads into buffers of the block size take the blocks of the pipe one by one, until less
than a block is left. -/
theorem framesRead_blocks {n : ℕ} (hn : 0 < n) (calls : List ReadCall)
    (hbuf : ∀ call ∈ calls, call.buf.length = n) (c : StreamCapturer) (stdout : List Bytes)
    (hstdout : c.stdout = some stdout) (blocks : List Bytes)
    (hblocks : ∀ block ∈ blocks, block.length = n) (hstarts : stdout.flatten <+: blocks.flatten) :
    c.framesRead calls = blocks.take (min calls.length (stdout.flatten.length / n)) := by
  induction calls generalizing c stdout blocks with
  | nil => simp [StreamCapturer.framesRead]
  | cons call calls ih =>
    have hcall : call.buf.length = n := hbuf call List.mem_cons_self
    have hcalls : ∀ call ∈ calls, call.buf.length = n :=
      fun call hmem => hbuf call (List.mem_cons_of_mem _ hmem)
    by_cases hle : n ≤ stdout.flatten.length
    · cases blocks with
      | nil =>
        have hzero := hstarts.length_le
        simp only [List.flatten_nil, List.length_nil] at hzero
        omega
      | cons block blocks =>
        have hblock : block.length = n := hblocks block List.mem_cons_self
        obtain ⟨rest, hstep, hrest, hlater⟩ :=
          readFrame_block hstdout (hcall.trans hblock.symm) (hblock.symm ▸ hle) hstarts
        have hdiv : stdout.flatten.length / n = rest.flatten.length / n + 1 := by
          rw [hrest, hblock, List.length_drop, Nat.div_eq_sub_div hn hle]
        rw [StreamCapturer.framesRead, hstep, List.length_cons, hdiv, Nat.succ_min_succ,
          List.take_succ_cons]
        exact congrArg _ (ih hcalls _ rest rfl blocks
          (fun block hmem => hblocks block (List.mem_cons_of_mem _ hmem)) hlater)
    · have hlt : stdout.flatten.length < n := Nat.lt_of_not_le hle
      obtain ⟨buf, err, hstep⟩ := readFrame_short hstdout (hcall.symm ▸ hlt)
      rw [StreamCapturer.framesRead, hstep, Nat.div_eq_of_lt hlt, Nat.min_zero, List.take_zero]
      exact framesRead_closed _ calls hn hcalls rfl

/-! ### Planes -/

lemma ycbcrImage_emitted (h : EvenSides cfg) (hW : 0 < cfg.frameWidth) (hH : 0 < cfg.frameHeight)
    (f : Yuv420p cfg.frameWidth cfg.frameHeight) :
    ycbcrImage cfg.frameWidth cfg.frameHeight cfg.ySize cfg.cSize f.emitted = some f.image := by
  have hsize := (chromaPlaneSize_eq_iff hW hH).mpr h
  have hy : (f.y.length : ℤ) = cfg.ySize := f.length_y
  have hu : (f.u.length : ℤ) = cfg.cSize := f.length_u.trans hsize
  have hv : (f.v.length : ℤ) = cfg.cSize := f.length_v.trans hsize
  have hfirst : Go.slice f.emitted 0 cfg.ySize = some f.y := by
    rw [Yuv420p.emitted, List.append_assoc]
    exact Go.slice_middle [] f.y (f.u ++ f.v) rfl (by simpa using hy)
  have hsecond : Go.slice f.emitted cfg.ySize (cfg.ySize + cfg.cSize) = some f.u :=
    Go.slice_middle f.y f.u f.v hy (by omega)
  have hthird : Go.slice f.emitted (cfg.ySize + cfg.cSize) f.emitted.length = some f.v := by
    have hslice := Go.slice_middle (f.y ++ f.u) f.v []
      (show ((f.y ++ f.u).length : ℤ) = cfg.ySize + cfg.cSize by
        rw [List.length_append, Nat.cast_add, hy, hu]) rfl
    rw [List.append_nil] at hslice
    have hlen : (f.emitted.length : ℤ) = (f.y ++ f.u).length + f.v.length := by
      rw [Yuv420p.emitted, List.length_append, Nat.cast_add]
    rw [hlen]
    exact hslice
  rw [ycbcrImage, hfirst, hsecond, hthird]
  rfl

/-! ### Snapshots -/

/-- What a manager keeps from its construction on. -/
structure SnapshotLayout (cfg : Config) (s : SnapshotManager) : Prop where
  frameW : s.frameW = cfg.frameWidth
  frameH : s.frameH = cfg.frameHeight
  ySize : s.ySize = cfg.ySize
  cSize : s.cSize = cfg.cSize
  full : FullFrame cfg s.rawFrame

variable {s s' : SnapshotManager} {encode : YCbCr → Except String Bytes}

lemma newSnapshotManager_layout (h : newSnapshotManager cfg = some s) : SnapshotLayout cfg s := by
  simp only [newSnapshotManager, Option.bind_eq_bind, Option.bind_eq_some_iff,
    Option.some.injEq] at h
  obtain ⟨rawFrame, hmake, rfl⟩ := h
  obtain ⟨hsize, rfl⟩ := Go.make_eq_some_iff.mp hmake
  exact ⟨rfl, rfl, rfl, rfl, by simp [FullFrame, hsize]⟩

lemma SnapshotLayout.updateRaw (h : SnapshotLayout cfg s) (raw : Bytes) (now : Time) :
    SnapshotLayout cfg (s.updateRaw raw now) where
  frameW := h.frameW
  frameH := h.frameH
  ySize := h.ySize
  cSize := h.cSize
  full := by simpa [FullFrame, SnapshotManager.updateRaw] using h.full

lemma SnapshotLayout.step {e : SnapshotEvent × Option SnapshotAnswer} (h : SnapshotLayout cfg s)
    (hstep : Transition.Steps (snapshotStep encode) s e s') : SnapshotLayout cfg s' := by
  obtain ⟨⟨now, call⟩, answer⟩ := e
  cases call with
  | updateRaw raw =>
    simp only [Transition.Steps, snapshotStep, Option.some.injEq, Prod.mk.injEq] at hstep
    obtain ⟨rfl, -⟩ := hstep
    exact h.updateRaw raw now
  | updateJPEG jpegBytes =>
    simp only [Transition.Steps, snapshotStep, Option.some.injEq, Prod.mk.injEq] at hstep
    obtain ⟨rfl, -⟩ := hstep
    exact ⟨h.frameW, h.frameH, h.ySize, h.cSize, h.full⟩
  | getSnapshot withGrid =>
    simp only [Transition.Steps, snapshotStep, Option.map_eq_some_iff, Prod.mk.injEq] at hstep
    obtain ⟨answer, -, rfl, -⟩ := hstep
    exact h

/-- A manager after some calls on it. -/
def ManagerOf (cfg : Config) (encode : YCbCr → Except String Bytes) (s : SnapshotManager) : Prop :=
  ∃ s₀ events answers, newSnapshotManager cfg = some s₀ ∧
    Transition.exec (snapshotStep encode) s₀ events = some (s, answers)

lemma ManagerOf.layout (h : ManagerOf cfg encode s) : SnapshotLayout cfg s := by
  obtain ⟨s₀, events, answers, hnew, hexec⟩ := h
  apply Transition.Run.stateInvariant (SnapshotLayout cfg) (newSnapshotManager_layout hnew)
    (fun s e s' hs hstep => hs.step hstep) (Transition.exec_run hexec)

/-- The picture of an image, or the error that `GetSnapshot` makes of it. -/
def snapshotOf (encode : YCbCr → Except String Bytes) (img : YCbCr) (snapTime : Time) :
    SnapshotAnswer :=
  match encode img with
  | .error err => .error ("snapshot encode failed: " ++ err)
  | .ok buf => .ok (buf, snapTime)

/-- Where the manager does not serve its cached JPEG. -/
def ColdPath (s : SnapshotManager) (withGrid : Bool) (now : Time) : Prop :=
  withGrid = true ∨ s.jpegBytes = [] ∨ SnapshotManager.cacheWindow ≤ now - s.updatedAt

lemma SnapshotLayout.getSnapshot_cold (h : SnapshotLayout cfg s) {withGrid : Bool} {now : Time}
    (hraw : 0 < s.updatedAt) (hcold : ColdPath s withGrid now) {raw : Bytes}
    (hdraw : (if withGrid then s.drawVisualOverlay s.rawFrame else some s.rawFrame) = some raw)
    {img : YCbCr}
    (himg : ycbcrImage cfg.frameWidth cfg.frameHeight cfg.ySize cfg.cSize raw = some img) :
    s.getSnapshot encode withGrid now = some (snapshotOf encode img s.updatedAt) := by
  have hmake : Go.make (s.rawFrame.length : ℤ) (0 : UInt8) =
      some (List.replicate s.rawFrame.length 0) := by simp [Go.make]
  have hcopy : Go.copy (List.replicate s.rawFrame.length 0) s.rawFrame = s.rawFrame :=
    Go.copy_of_length_eq (by simp)
  have hmiss : (!withGrid && decide (0 < s.jpegBytes.length) &&
      decide (now - s.updatedAt < SnapshotManager.cacheWindow)) = false := by
    rcases hcold with rfl | hjpeg | hage
    · rfl
    · simp [hjpeg]
    · simp [hage]
  rw [← h.frameW, ← h.frameH, ← h.ySize, ← h.cSize] at himg
  simp only [SnapshotManager.getSnapshot, hmake, Option.bind_eq_bind, Option.bind_some, hcopy, hmiss,
    hraw, decide_true, Bool.not_true, Bool.false_eq_true, if_false]
  cases withGrid with
  | false =>
    obtain rfl : s.rawFrame = raw := by simpa using hdraw
    cases henc : encode img with
    | error err => simp [himg, snapshotOf, henc]
    | ok buf => simp [himg, snapshotOf, henc]
  | true =>
    have hdraw' : s.drawVisualOverlay s.rawFrame = some raw := by simpa using hdraw
    cases henc : encode img with
    | error err => simp [hdraw', himg, snapshotOf, henc]
    | ok buf => simp [hdraw', himg, snapshotOf, henc]

/-! ### Chroma indices -/

lemma planesOf_length (hW : 0 < cfg.frameWidth) (hH : 0 < cfg.frameHeight) {raw : Bytes}
    (hfull : FullFrame cfg raw) :
    ((planesOf cfg raw).cb.length : ℤ) = cfg.cSize ∧
      ((planesOf cfg raw).cr.length : ℤ) = cfg.cSize := by
  have hy : 0 < cfg.ySize := mul_pos hW hH
  have hc : 0 ≤ cfg.cSize := mul_nonneg (half_le_half_up hW).1 (half_le_half_up hH).1
  rw [FullFrame, Config.frameSize] at hfull
  simp only [planesOf, List.length_take, List.length_drop]
  omega

lemma chromaIndex_lt (h : EvenSides cfg) {x y : ℤ} (hx0 : 0 ≤ x) (hx : x < cfg.frameWidth)
    (hy0 : 0 ≤ y) (hy : y < cfg.frameHeight) :
    0 ≤ y.tdiv 2 * cfg.frameWidth.tdiv 2 + x.tdiv 2 ∧
      y.tdiv 2 * cfg.frameWidth.tdiv 2 + x.tdiv 2 < cfg.cSize := by
  obtain ⟨hw, hh⟩ := h
  have hW : 0 ≤ cfg.frameWidth := by omega
  have hH : 0 ≤ cfg.frameHeight := by omega
  rw [Config.cSize, Int.tdiv_eq_ediv_of_nonneg hx0, Int.tdiv_eq_ediv_of_nonneg hy0,
    Int.tdiv_eq_ediv_of_nonneg hW, Int.tdiv_eq_ediv_of_nonneg hH]
  have hyhalf : y / 2 + 1 ≤ cfg.frameHeight / 2 := by omega
  have hxhalf : x / 2 + 1 ≤ cfg.frameWidth / 2 := by omega
  have hy0' : 0 ≤ y / 2 := by omega
  have hx0' : 0 ≤ x / 2 := by omega
  constructor
  · nlinarith
  · nlinarith

/-- With an odd side, the last pixel's index is past both chroma planes. -/
lemma le_lastChromaIndex (hW : 0 < cfg.frameWidth) (hH : 0 < cfg.frameHeight)
    (hodd : ¬ EvenSides cfg) :
    cfg.cSize ≤
      (cfg.frameHeight - 1).tdiv 2 * cfg.frameWidth.tdiv 2 + (cfg.frameWidth - 1).tdiv 2 := by
  have hW1 : 0 ≤ cfg.frameWidth - 1 := by omega
  have hH1 : 0 ≤ cfg.frameHeight - 1 := by omega
  rw [Config.cSize, Int.tdiv_eq_ediv_of_nonneg hW1, Int.tdiv_eq_ediv_of_nonneg hH1,
    Int.tdiv_eq_ediv_of_nonneg hW.le, Int.tdiv_eq_ediv_of_nonneg hH.le]
  have hw0 : 0 ≤ cfg.frameWidth / 2 := by omega
  by_cases hh : cfg.frameHeight % 2 = 0
  · have hw : cfg.frameWidth % 2 = 1 := by
      by_contra hw
      exact hodd ⟨by omega, hh⟩
    have hx : (cfg.frameWidth - 1) / 2 = cfg.frameWidth / 2 := by omega
    have hy : (cfg.frameHeight - 1) / 2 = cfg.frameHeight / 2 - 1 := by omega
    rw [hx, hy]
    nlinarith
  · have hy : (cfg.frameHeight - 1) / 2 = cfg.frameHeight / 2 := by omega
    have hx : 0 ≤ (cfg.frameWidth - 1) / 2 := by omega
    rw [hy]
    nlinarith

/-- A picture of odd width or height sends the encoder out of the chroma planes. -/
theorem chroma_outside_of_odd (hW : 0 < cfg.frameWidth) (hH : 0 < cfg.frameHeight)
    (hodd : ¬ EvenSides cfg) {raw : Bytes} (hfull : FullFrame cfg raw) {img : YCbCr}
    (himg : ycbcrImage cfg.frameWidth cfg.frameHeight cfg.ySize cfg.cSize raw = some img) :
    Go.index img.cb (img.chromaIndex (img.width - 1) (img.height - 1)) = none := by
  obtain rfl := ycbcrImage_eq_planesOf himg
  have hlen := (planesOf_length hW hH hfull).1
  have hlast := le_lastChromaIndex hW hH hodd
  have hc : 0 ≤ cfg.cSize := mul_nonneg (half_le_half_up hW).1 (half_le_half_up hH).1
  have hindex : (planesOf cfg raw).chromaIndex ((planesOf cfg raw).width - 1)
      ((planesOf cfg raw).height - 1) =
      (cfg.frameHeight - 1).tdiv 2 * cfg.frameWidth.tdiv 2 + (cfg.frameWidth - 1).tdiv 2 := rfl
  rw [hindex, Go.index_eq_getElem? (hc.trans hlast), List.getElem?_eq_none_iff]
  omega

/-! ### Agreement -/

/-- The layout of the buffers is the layout of the frames emitted: their size, what successive
reads return, the planes of the pipeline's and the snapshot's images, and the chroma planes
that an encoder indexes. -/
structure FrameLayoutAgrees (cfg : Config) : Prop where
  size : cfg.bufferSize = yuv420pSize cfg.frameWidth cfg.frameHeight
  reads : ∀ (c : StreamCapturer) (stdout : List Bytes)
    (frames : List (Yuv420p cfg.frameWidth cfg.frameHeight)) (calls : List ReadCall),
    c.stdout = some stdout → stdout.flatten <+: (frames.map Yuv420p.emitted).flatten →
    (∀ call ∈ calls, (call.buf.length : ℤ) = cfg.bufferSize) →
    c.framesRead calls = (frames.map Yuv420p.emitted).take
      (min calls.length (stdout.flatten.length / cfg.bufferSize.toNat))
  planes : ∀ f : Yuv420p cfg.frameWidth cfg.frameHeight,
    ycbcrImage cfg.frameWidth cfg.frameHeight cfg.ySize cfg.cSize f.emitted = some f.image
  snapshot : ∀ (encode : YCbCr → Except String Bytes) (s : SnapshotManager)
    (f g : Yuv420p cfg.frameWidth cfg.frameHeight) (withGrid : Bool) (stored : Clock) (now : Time),
    ManagerOf cfg encode s → ColdPath (s.updateRaw f.emitted stored) withGrid now →
    (if withGrid then (s.updateRaw f.emitted stored).drawVisualOverlay f.emitted
      else some f.emitted) = some g.emitted →
    (s.updateRaw f.emitted stored).getSnapshot encode withGrid now =
      some (snapshotOf encode g.image stored)
  chroma : ∀ (raw : Bytes) (img : YCbCr), (raw.length : ℤ) = cfg.bufferSize →
    ycbcrImage cfg.frameWidth cfg.frameHeight cfg.ySize cfg.cSize raw = some img →
    ∀ x y : ℤ, 0 ≤ x → x < img.width → 0 ≤ y → y < img.height →
      (∃ v, Go.index img.cb (img.chromaIndex x y) = some v) ∧
        (∃ v, Go.index img.cr (img.chromaIndex x y) = some v)

lemma framesRead_emitted (hW : 0 < cfg.frameWidth) (hH : 0 < cfg.frameHeight)
    (hsize : cfg.bufferSize = yuv420pSize cfg.frameWidth cfg.frameHeight) {c : StreamCapturer}
    {stdout : List Bytes} {frames : List (Yuv420p cfg.frameWidth cfg.frameHeight)}
    {calls : List ReadCall} (hstdout : c.stdout = some stdout)
    (hstarts : stdout.flatten <+: (frames.map Yuv420p.emitted).flatten)
    (hbuf : ∀ call ∈ calls, (call.buf.length : ℤ) = cfg.bufferSize) :
    c.framesRead calls = (frames.map Yuv420p.emitted).take
      (min calls.length (stdout.flatten.length / cfg.bufferSize.toNat)) := by
  have hpos := bufferSize_pos hW hH
  apply framesRead_blocks (by omega) calls
  · intro call hmem
    have := hbuf call hmem
    omega
  · exact hstdout
  · intro block hmem
    obtain ⟨f, -, rfl⟩ := List.mem_map.mp hmem
    have := f.length_emitted
    omega
  · exact hstarts

lemma frameLayout_of_even (hW : 0 < cfg.frameWidth) (hH : 0 < cfg.frameHeight)
    (h : EvenSides cfg) : FrameLayoutAgrees cfg where
  size := (bufferSize_eq_iff hW hH).mpr h
  reads := fun _ _ _ _ => framesRead_emitted hW hH ((bufferSize_eq_iff hW hH).mpr h)
  planes := ycbcrImage_emitted h hW hH
  snapshot := by
    intro encode s f g withGrid stored now hs hcold hdraw
    have hlayout := hs.layout
    have hfull : f.emitted.length = s.rawFrame.length := by
      have := f.length_emitted
      have := hlayout.full
      rw [← (bufferSize_eq_iff hW hH).mpr h, Config.bufferSize_eq] at *
      rw [FullFrame] at *
      omega
    have hraw : (s.updateRaw f.emitted stored).rawFrame = f.emitted := Go.copy_of_length_eq hfull
    exact (hlayout.updateRaw f.emitted stored).getSnapshot_cold stored.2 hcold (by rwa [hraw])
      (ycbcrImage_emitted h hW hH g)
  chroma := by
    intro raw img hfull himg x y hx0 hx hy0 hy
    obtain rfl := ycbcrImage_eq_planesOf himg
    rw [Config.bufferSize_eq] at hfull
    obtain ⟨hcb, hcr⟩ := planesOf_length hW hH hfull
    obtain ⟨hge, hlt⟩ := chromaIndex_lt h hx0 hx hy0 hy
    exact ⟨Go.index_isSome hge (hcb.symm ▸ hlt), Go.index_isSome hge (hcr.symm ▸ hlt)⟩

/-- Buffers are laid out as frames are emitted exactly when both sides are even. -/
theorem frame_layout_agrees_iff (cfg : Config) (hW : 0 < cfg.frameWidth)
    (hH : 0 < cfg.frameHeight) :
    FrameLayoutAgrees cfg ↔ cfg.frameWidth % 2 = 0 ∧ cfg.frameHeight % 2 = 0 :=
  ⟨fun h => (bufferSize_eq_iff hW hH).mp h.size, frameLayout_of_even hW hH⟩

theorem frame_layout_agrees_iff_fullHD :
    FrameLayoutAgrees { channel := 1 } ↔ (1920 : ℤ) % 2 = 0 ∧ (1080 : ℤ) % 2 = 0 :=
  frame_layout_agrees_iff { channel := 1 } (by decide) (by decide)

def oddConfig : Config where
  frameWidth := 3
  frameHeight := 3

/-- A frame of 3 by 3 pixels whose planes hold one value each. -/
def flatFrame (y u v : UInt8) : Yuv420p 3 3 where
  y := List.replicate 9 y
  u := List.replicate 4 u
  v := List.replicate 4 v
  length_y := by simp
  length_u := by simp [chromaPlaneSize]
  length_v := by simp [chromaPlaneSize]

/-- The buffer is 6 bytes short of a frame, so the second read starts inside the first frame. -/
theorem odd_frames_shifted :
    oddConfig.bufferSize = 11 ∧ yuv420pSize 3 3 = 17 ∧
      (StreamCapturer.mk (some [(flatFrame 1 2 3).emitted, (flatFrame 4 5 6).emitted]) 0).framesRead
          [⟨List.replicate 11 0, ⟨5, by decide⟩⟩, ⟨List.replicate 11 0, ⟨6, by decide⟩⟩] =
        [[1, 1, 1, 1, 1, 1, 1, 1, 1, 2, 2], [2, 2, 3, 3, 3, 3, 4, 4, 4, 4, 4]] ∧
      ¬ FrameLayoutAgrees oddConfig := by
  have hsizes : oddConfig.bufferSize = 11 ∧ yuv420pSize 3 3 = 17 := by decide
  refine ⟨hsizes.1, hsizes.2, by decide, ?_⟩
  intro h
  have hsize : (11 : ℤ) = 17 := hsizes.1.symm.trans (h.size.trans hsizes.2)
  omega

end IntruderWatch.Proofs
