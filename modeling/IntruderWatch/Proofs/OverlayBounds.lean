import IntruderWatch.Proofs.OverlayTrace
import IntruderWatch.Proofs.ZoneBounds

/-!
# Where the overlay writes

The zones of numeric tuples never begin left of or above the frame, and such zones are drawn
inside it unless a side is so far out that a sum of the overlay wraps. A preset begins outside
a frame that has no room for it, and then its first corner is already written outside.
-/

namespace IntruderWatch.Proofs

variable {s : SnapshotManager} {text : Go.Str} {raw : Bytes} {zone : Zone} {token : Go.Str}

/-- Every write of the overlay addresses a pixel of the frame, by an index of the luminance
plane; the overlay does not panic and the bytes behind that plane are unchanged. -/
structure OverlaySafe (s : SnapshotManager) (raw : Bytes) : Prop where
  inFrame : ∀ p ∈ overlayPixels s, InFrame s p.x p.y
  inLuma : ∀ p ∈ overlayPixels s, 0 ≤ p.index s ∧ p.index s < s.frameW * s.frameH
  runs : ∃ raw', s.drawVisualOverlay raw = some raw' ∧ raw'.length = raw.length ∧
    ∀ i, s.frameW * s.frameH ≤ i → Go.index raw' i = Go.index raw i

lemma overlaySafe_iff_inFrame (hfit : FrameFits s.frameW s.frameH)
    (hlen : s.frameW * s.frameH ≤ raw.length) :
    OverlaySafe s raw ↔ ∀ p ∈ overlayPixels s, InFrame s p.x p.y := by
  constructor
  · exact fun h => h.inFrame
  · intro h
    exact ⟨h, fun p hp => index_bounds hfit (h p hp), overlay_of_inFrame hfit h hlen⟩

/-- The overlay stays in the frame if and only if the drawing of every zone does. -/
lemma inFrame_iff_zones : (∀ p ∈ overlayPixels s, InFrame s p.x p.y) ↔
    ∀ zone ∈ s.zones, ∀ p ∈ zonePixels s zone, InFrame s p.x p.y := by
  constructor
  · intro h zone hzone p hp
    exact h p (mem_overlayPixels_iff.mpr (.inr ⟨zone, hzone, hp⟩))
  · intro h p hp
    rcases mem_overlayPixels_iff.mp hp with ⟨-, hin, -⟩ | ⟨zone, hzone, hp⟩
    · exact hin
    · exact h zone hzone p hp

/-- A store before the buffer makes every overlay panic. -/
lemma overlay_panics {p : PixelWrite} (hp : p ∈ overlayPixels s) (hindex : p.index s < 0)
    (raw : Bytes) : s.drawVisualOverlay raw = none := by
  rw [Option.eq_none_iff_forall_ne_some]
  intro raw' hraw
  have hrange := overlay_isSome_iff.mp ⟨raw', hraw⟩ p hp
  omega

/-! ### Presets -/

/-- The preset of the token, if it is one, begins inside the frame. -/
structure PresetStarts (frameW frameH : ℤ) (token : Go.Str) : Prop where
  topRight : token = Go.lit "top-right-clock" → 448 ≤ frameW
  bottomLeft : token = Go.lit "bottom-left-clock" → 96 ≤ frameH
  bottomRight : token = Go.lit "bottom-right-clock" → 480 ≤ frameW ∧ 96 ≤ frameH

lemma presetStarts_of_notMem {frameW frameH : ℤ} (h : token ∉ presetNames) :
    PresetStarts frameW frameH token := by
  constructor
  · rintro rfl
    exact absurd (by decide) h
  · rintro rfl
    exact absurd (by decide) h
  · rintro rfl
    exact absurd (by decide) h

lemma presetZone_start_iff {frameW frameH : ℤ} (h : presetZone token frameW frameH = some zone) :
    (0 ≤ zone.x1 ∧ 0 ≤ zone.y1) ↔ PresetStarts frameW frameH token := by
  have hnames : Go.lit "top-left-clock" ≠ Go.lit "top-right-clock" ∧
      Go.lit "top-left-clock" ≠ Go.lit "bottom-left-clock" ∧
      Go.lit "top-left-clock" ≠ Go.lit "bottom-right-clock" ∧
      Go.lit "top-right-clock" ≠ Go.lit "bottom-left-clock" ∧
      Go.lit "top-right-clock" ≠ Go.lit "bottom-right-clock" ∧
      Go.lit "bottom-left-clock" ≠ Go.lit "bottom-right-clock" := by decide
  obtain ⟨h12, h13, h14, h23, h24, h34⟩ := hnames
  unfold presetZone at h
  split_ifs at h with h1 h2 h3 h4
  · obtain rfl := Option.some.inj h
    subst h1
    exact ⟨fun _ => ⟨fun he => absurd he h12, fun he => absurd he h13, fun he => absurd he h14⟩,
      fun _ => ⟨le_rfl, le_rfl⟩⟩
  · obtain rfl := Option.some.inj h
    subst h2
    constructor
    · intro hstart
      exact ⟨fun _ => by linarith [hstart.1], fun he => absurd he h23, fun he => absurd he h24⟩
    · intro hroom
      exact ⟨by linarith [hroom.topRight rfl], le_rfl⟩
  · obtain rfl := Option.some.inj h
    subst h3
    constructor
    · intro hstart
      exact ⟨fun he => absurd he.symm h23, fun _ => by linarith [hstart.2],
        fun he => absurd he h34⟩
    · intro hroom
      exact ⟨le_rfl, by linarith [hroom.bottomLeft rfl]⟩
  · obtain rfl := Option.some.inj h
    subst h4
    constructor
    · intro hstart
      exact ⟨fun he => absurd he.symm h24, fun he => absurd he.symm h34,
        fun _ => ⟨by linarith [hstart.1], by linarith [hstart.2]⟩⟩
    · intro hroom
      obtain ⟨hw, hh⟩ := hroom.bottomRight rfl
      exact ⟨by linarith, by linarith⟩

/-- The rectangle of a preset is not empty, also after the overlay has cut it to the frame. -/
lemma presetZone_proper (hfit : FrameFits s.frameW s.frameH)
    (h : presetZone token s.frameW s.frameH = some zone) :
    (zone.x1 < cut s.frameW zone.x2 ∧ zone.x1 < s.frameW) ∧
      (zone.y1 < cut s.frameH zone.y2 ∧ zone.y1 < s.frameH) ∧ -96 ≤ zone.y1 := by
  have hw := hfit.width
  have hh := hfit.height
  unfold presetZone at h
  unfold cut
  split_ifs at h with h1 h2 h3 h4
  all_goals
    obtain rfl := Option.some.inj h
    dsimp only
    split_ifs <;> omega

/-- The first corner of a zone with pixels is written, wherever it is. -/
lemma corner_mem (hfit : FrameFits s.frameW s.frameH) (hx : zone.x1 < cut s.frameW zone.x2)
    (hy0 : -2 ^ 63 ≤ zone.y1) (hy : zone.y1 < s.frameH) :
    ⟨zone.x1, zone.y1, 255⟩ ∈ zonePixels s zone := by
  have htop : Go.wrap64 (zone.y1 + 0) = zone.y1 := by
    rw [add_zero, Go.wrap64_eq_self hy0 (by linarith [hfit.height_le])]
  unfold zonePixels borderPixels
  apply List.mem_append_left
  refine List.mem_flatMap.mpr ⟨0, Go.mem_range.mpr (by norm_num), ?_⟩
  apply List.mem_append_left
  refine List.mem_flatMap.mpr ⟨zone.x1, Go.mem_range.mpr ⟨le_rfl, hx⟩, ?_⟩
  rw [htop, if_pos hy]
  simp

/-- A preset that begins inside the frame is drawn inside the frame. -/
lemma preset_inFrame (hfit : FrameFits s.frameW s.frameH)
    (h : presetZone token s.frameW s.frameH = some zone) (hstart : 0 ≤ zone.x1 ∧ 0 ≤ zone.y1) :
    ∀ p ∈ zonePixels s zone, InFrame s p.x p.y := by
  obtain ⟨⟨hx, hxw⟩, ⟨hy, hyh⟩, -⟩ := presetZone_proper hfit h
  have hw := hfit.width_le
  have hh := hfit.height_le
  have hcut : cut s.frameW zone.x2 ≤ s.frameW ∧ cut s.frameH zone.y2 ≤ s.frameH := by
    unfold cut
    split_ifs <;> omega
  have hxs : Sides s.frameW zone.x1 (cut s.frameW zone.x2) :=
    ⟨by omega, by omega, fun _ => by omega⟩
  have hys : Sides s.frameH zone.y1 (cut s.frameH zone.y2) :=
    ⟨by omega, by omega, fun _ => by omega⟩
  apply (drawing_inFrame_iff hfit hxs hys).mpr
  unfold RunsOff HatchLeaves Far
  omega

/-! ### The zones of a string -/

namespace Marks

variable (t : ZoneTuple) (frameW frameH : ℤ)

def left : ℤ := max (min t.x1 t.x2) 0

def top : ℤ := max (min t.y1 t.y2) 0

def right : ℤ := min (max t.x1 t.x2) frameW

def bottom : ℤ := min (max t.y1 t.y2) frameH

end Marks

open Marks

/-- The numeric tuples of a string. -/
def zoneTuples (text : Go.Str) : List ZoneTuple :=
  (zoneItems text).filterMap (fun item => numericTuple (zoneToken item))

/-- The zone that the parser makes of a tuple. -/
abbrev tupleZone (s : SnapshotManager) (t : ZoneTuple) : Zone :=
  (t.ordered.clamped s.frameW s.frameH).zone

section Tuples

variable {t : ZoneTuple}

lemma tupleZone_x1 : (tupleZone s t).x1 = left t := zone_x1 t

lemma tupleZone_y1 : (tupleZone s t).y1 = top t := zone_y1 t

lemma cut_x2 : cut s.frameW (tupleZone s t).x2 = right t s.frameW := by
  rw [zone_x2, cut, right]
  split_ifs <;> omega

lemma cut_y2 : cut s.frameH (tupleZone s t).y2 = bottom t s.frameH := by
  rw [zone_y2, cut, bottom]
  split_ifs <;> omega

/-- The coordinates of a tuple are of type `int`. -/
structure IntTuple (t : ZoneTuple) : Prop where
  x1 : -2 ^ 63 ≤ t.x1 ∧ t.x1 < 2 ^ 63
  y1 : -2 ^ 63 ≤ t.y1 ∧ t.y1 < 2 ^ 63
  x2 : -2 ^ 63 ≤ t.x2 ∧ t.x2 < 2 ^ 63
  y2 : -2 ^ 63 ≤ t.y2 ∧ t.y2 < 2 ^ 63

lemma numericTuple_ints (h : numericTuple token = some t) : IntTuple t := by
  unfold numericTuple at h
  split at h
  · split at h
    · next h1 h2 h3 h4 =>
      obtain rfl := Option.some.inj h
      exact ⟨(Go.atoi_eq_ok_iff.mp h1).2, (Go.atoi_eq_ok_iff.mp h2).2,
        (Go.atoi_eq_ok_iff.mp h3).2, (Go.atoi_eq_ok_iff.mp h4).2⟩
    · cases h
  · cases h

lemma sides_x (hfit : FrameFits s.frameW s.frameH) (ht : IntTuple t) :
    Sides s.frameW (left t) (right t s.frameW) := by
  have hw := hfit.width
  obtain ⟨h1, -, h2, -⟩ := ht
  unfold left right
  exact ⟨by omega, by omega, by omega⟩

lemma sides_y (hfit : FrameFits s.frameW s.frameH) (ht : IntTuple t) :
    Sides s.frameH (top t) (bottom t s.frameH) := by
  have hh := hfit.height
  obtain ⟨-, h1, -, h2⟩ := ht
  unfold top bottom
  exact ⟨by omega, by omega, by omega⟩

lemma zonePixels_tuple : zonePixels s (tupleZone s t) =
    (Go.range 0 4).flatMap (borderPixels s (left t) (top t) (right t s.frameW) (bottom t s.frameH)) ++
      crosshatchPixels (left t) (top t) (right t s.frameW) (bottom t s.frameH) := by
  unfold zonePixels
  rw [cut_x2, cut_y2, tupleZone_x1, tupleZone_y1]

/-- The tuple is drawn inside the frame if and only if its clamped rectangle does not run off. -/
lemma tuple_inFrame_iff (hfit : FrameFits s.frameW s.frameH) (ht : IntTuple t) :
    (∀ p ∈ zonePixels s (tupleZone s t), InFrame s p.x p.y) ↔
      ¬ RunsOff (left t) (top t) (right t s.frameW) (bottom t s.frameH) := by
  rw [zonePixels_tuple]
  exact drawing_inFrame_iff hfit (sides_x hfit ht) (sides_y hfit ht)

/-- A column that wraps is stored before the buffer. -/
lemma wrapped_column_outside (hfit : FrameFits s.frameW s.frameH) (ht : IntTuple t)
    (hrows : top t < bottom t s.frameH) (hcol : 2 ^ 63 ≤ left t + 3) :
    ∃ p ∈ zonePixels s (tupleZone s t), p.index s < 0 := by
  have hmem := (mem_border_iff (x := -2 ^ 63) (y := top t) hfit (sides_x hfit ht)
    (sides_y hfit ht)).mpr ⟨rfl, .inr (.inr ⟨⟨le_rfl, hrows⟩, le_rfl, by omega⟩)⟩
  refine ⟨⟨-2 ^ 63, top t, 255⟩, ?_, ?_⟩
  · rw [zonePixels_tuple]
    exact List.mem_append_left _ hmem
  · have hside := (sides_y hfit ht).high
    have htop : 0 ≤ top t * s.frameW := mul_nonneg (sides_y hfit ht).low.1 hfit.width.le
    have hlast : top t * s.frameW ≤ s.frameH * s.frameW :=
      mul_le_mul_of_nonneg_right (by omega) hfit.width.le
    rw [mul_comm s.frameH] at hlast
    have hsize := hfit.size_le
    unfold PixelWrite.index
    dsimp only
    rw [Go.wrap64_eq_self (by omega) (by omega)]
    omega

end Tuples

/-- The drawing of an item stays in the frame. -/
structure ItemStays (frameW frameH : ℤ) (item : Go.Str) : Prop where
  preset : PresetStarts frameW frameH (zoneToken item)
  tuple : ∀ t ∈ numericTuple (zoneToken item),
    ¬ RunsOff (left t) (top t) (right t frameW) (bottom t frameH)

lemma itemStays_iff (hfit : FrameFits s.frameW s.frameH) (item : Go.Str) :
    (∀ zone, parseItem s.frameW s.frameH item = some zone →
      ∀ p ∈ zonePixels s zone, InFrame s p.x p.y) ↔ ItemStays s.frameW s.frameH item := by
  constructor
  · intro hin
    constructor
    · by_cases hmem : zoneToken item ∈ presetNames
      · obtain ⟨zone, hzone⟩ := presetZone_isSome_iff.mpr hmem
        apply (presetZone_start_iff hzone).mp
        obtain ⟨⟨hx, -⟩, ⟨-, hy⟩, hy0⟩ := presetZone_proper hfit hzone
        have hcorner := hin zone (parseItem_eq_some_iff.mpr (.inl hzone)) _
          (corner_mem hfit hx (by omega) hy)
        exact ⟨hcorner.1.1, hcorner.2.1⟩
      · exact presetStarts_of_notMem hmem
    · intro t ht
      apply (tuple_inFrame_iff hfit (numericTuple_ints ht)).mp
      exact hin _ (parseItem_eq_some_iff.mpr (.inr ⟨t, ht, rfl⟩))
  · rintro hstays zone hzone
    rcases parseItem_eq_some_iff.mp hzone with hpreset | ⟨t, ht, rfl⟩
    · exact preset_inFrame hfit hpreset ((presetZone_start_iff hpreset).mpr hstays.preset)
    · exact (tuple_inFrame_iff hfit (numericTuple_ints ht)).mpr (hstays.tuple t ht)

/-- For every string, frame size and buffer, the overlay is safe if and only if every preset of
the string begins inside the frame and no tuple runs off. -/
theorem overlay_safe_iff (s : SnapshotManager) (text : Go.Str) (raw : Bytes)
    (hfit : FrameFits s.frameW s.frameH)
    (hzones : s.zones = parseExcludeZones text s.frameW s.frameH)
    (hlen : s.frameW * s.frameH ≤ raw.length) :
    OverlaySafe s raw ↔ ∀ item ∈ zoneItems text, ItemStays s.frameW s.frameH item := by
  rw [overlaySafe_iff_inFrame hfit hlen, inFrame_iff_zones, hzones]
  constructor
  · intro hin item hitem
    apply (itemStays_iff hfit item).mp
    intro zone hzone
    exact hin zone (mem_parseExcludeZones.mpr ⟨item, hitem, hzone⟩)
  · intro hstays zone hzone
    obtain ⟨item, hitem, hparse⟩ := mem_parseExcludeZones.mp hzone
    exact (itemStays_iff hfit item).mpr (hstays item hitem) zone hparse

/-- The overlay of a frame size and a zone string. -/
def overlayManager (frameW frameH : ℤ) (text : Go.Str) : SnapshotManager where
  jpegBytes := []
  rawFrame := []
  updatedAt := 0
  frameW := frameW
  frameH := frameH
  ySize := frameW * frameH
  cSize := frameW.tdiv 2 * frameH.tdiv 2
  zones := parseExcludeZones text frameW frameH

lemma overlayManager_fits {frameW frameH : ℤ} {text : Go.Str} (hw : 0 < frameW) (hh : 0 < frameH)
    (hsize : frameW * frameH ≤ Go.maxAlloc) :
    FrameFits (overlayManager frameW frameH text).frameW
      (overlayManager frameW frameH text).frameH :=
  ⟨hw, hh, hsize⟩

theorem overlay_safe_iff_fullHD :
    OverlaySafe (overlayManager 1920 1080 threeZones) (List.replicate 3110400 0) := by
  apply (overlay_safe_iff (overlayManager 1920 1080 threeZones) threeZones
    (List.replicate 3110400 0) (overlayManager_fits (by decide) (by decide) (by decide)) rfl
    (by rw [List.length_replicate]; decide)).mpr
  intro item hitem
  constructor
  · exact ⟨fun _ => by decide, fun _ => by decide, fun _ => by decide⟩
  · revert item
    unfold RunsOff HatchLeaves Far
    decide

/-- A rectangle at the end of the range of `int`. -/
def farTuple : ZoneTuple := ⟨2 ^ 63 - 1, 0, 2 ^ 63 - 1, 50⟩

def farText : Go.Str := Go.lit "9223372036854775807,0,9223372036854775807,50"

/-- On a sub-stream of 352x288 the preset of the default deployment makes every overlay panic,
and `bottom-right-clock` writes a pixel left of the frame into the row above. The column of a
tuple at the end of the range of `int` wraps round, and every overlay panics, too. -/
theorem overlay_leaves_subStream :
    (∀ raw, (overlayManager 352 288 (Go.lit "top-right-clock")).drawVisualOverlay raw = none) ∧
      (∃ p ∈ overlayPixels (overlayManager 352 288 (Go.lit "bottom-right-clock")),
        p.x < 0 ∧ 0 ≤ p.y * 352 + p.x ∧ p.y * 352 + p.x < 352 * 288) ∧
      ∀ raw, (overlayManager 352 288 farText).drawVisualOverlay raw = none := by
  have hfit : ∀ text, FrameFits (overlayManager 352 288 text).frameW
      (overlayManager 352 288 text).frameH :=
    fun text => overlayManager_fits (by decide) (by decide) (by decide)
  refine ⟨?_, ?_, ?_⟩
  · intro raw
    have hzone : ⟨"top-right-clock", -96, 0, 352, 96⟩ ∈
        (overlayManager 352 288 (Go.lit "top-right-clock")).zones := by decide
    have hcorner := @corner_mem (overlayManager 352 288 (Go.lit "top-right-clock"))
      ⟨"top-right-clock", -96, 0, 352, 96⟩ (hfit _) (by decide) (by decide) (by decide)
    exact overlay_panics (mem_overlayPixels_iff.mpr (.inr ⟨_, hzone, hcorner⟩)) (by decide) raw
  · have hzone : ⟨"bottom-right-clock", -128, 192, 352, 288⟩ ∈
        (overlayManager 352 288 (Go.lit "bottom-right-clock")).zones := by decide
    have hcorner := @corner_mem (overlayManager 352 288 (Go.lit "bottom-right-clock"))
      ⟨"bottom-right-clock", -128, 192, 352, 288⟩ (hfit _) (by decide) (by decide) (by decide)
    exact ⟨_, mem_overlayPixels_iff.mpr (.inr ⟨_, hzone, hcorner⟩), by decide, by decide, by decide⟩
  · intro raw
    have hparsed : numericTuple farText = some farTuple := by decide
    have hzone : tupleZone (overlayManager 352 288 farText) farTuple ∈
        (overlayManager 352 288 farText).zones := by decide
    obtain ⟨p, hp, hindex⟩ := @wrapped_column_outside (overlayManager 352 288 farText) farTuple
      (hfit _) (numericTuple_ints hparsed) (by decide) (by decide)
    exact overlay_panics (mem_overlayPixels_iff.mpr (.inr ⟨_, hzone, hp⟩)) hindex raw

end IntruderWatch.Proofs
