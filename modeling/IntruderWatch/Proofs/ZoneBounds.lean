import IntruderWatch.Zones

/-!
# Zones and the frame

Which zones of `parseExcludeZones` are ordered and lie in the frame. The presets have fixed
sizes and are not clamped, and the clamps of the numeric tuples turn a rectangle beside the
frame into an inverted one, so the answer depends on the items of the string.
-/

namespace IntruderWatch.Proofs

variable {frameW frameH : ℤ}

/-- The zone is ordered and lies in the frame. -/
def InsideFrame (frameW frameH : ℤ) (zone : Zone) : Prop :=
  (0 ≤ zone.x1 ∧ zone.x1 ≤ zone.x2 ∧ zone.x2 ≤ frameW) ∧
    0 ≤ zone.y1 ∧ zone.y1 ≤ zone.y2 ∧ zone.y2 ≤ frameH

instance (zone : Zone) : Decidable (InsideFrame frameW frameH zone) := by
  unfold InsideFrame
  infer_instance

def presetNames : List Go.Str :=
  [Go.lit "top-left-clock", Go.lit "top-right-clock", Go.lit "bottom-left-clock",
    Go.lit "bottom-right-clock"]

/-- A frame that has room for the preset with the given name, if it is one. -/
structure PresetFits (frameW frameH : ℤ) (token : Go.Str) : Prop where
  width : token ∈ presetNames → (if token = Go.lit "top-right-clock" then 448 else 480) ≤ frameW
  height : token ∈ presetNames → 96 ≤ frameH

/-- The rectangle of the tuple has a point of the closed frame. -/
def TupleMeets (frameW frameH : ℤ) (t : ZoneTuple) : Prop :=
  (0 ≤ max t.x1 t.x2 ∧ min t.x1 t.x2 ≤ frameW) ∧ 0 ≤ max t.y1 t.y2 ∧ min t.y1 t.y2 ≤ frameH

structure ItemFits (frameW frameH : ℤ) (item : Go.Str) : Prop where
  preset : PresetFits frameW frameH (zoneToken item)
  tuple : ∀ t ∈ numericTuple (zoneToken item), TupleMeets frameW frameH t

/-! ### The two kinds of items -/

lemma presetZone_isSome_iff {token : Go.Str} :
    (∃ zone, presetZone token frameW frameH = some zone) ↔ token ∈ presetNames := by
  unfold presetZone presetNames
  simp only [List.mem_cons, List.not_mem_nil, or_false]
  split_ifs with h1 h2 h3 h4 <;> simp [*]

lemma numericTuple_preset {token : Go.Str} (h : token ∈ presetNames) : numericTuple token = none := by
  revert token
  decide

/-- The zone of a preset is inside exactly the frames that have room for it. -/
lemma presetZone_inside_iff {token : Go.Str} {zone : Zone}
    (h : presetZone token frameW frameH = some zone) :
    InsideFrame frameW frameH zone ↔ PresetFits frameW frameH token := by
  have hmem : token ∈ presetNames := presetZone_isSome_iff.mp ⟨zone, h⟩
  have hfits : PresetFits frameW frameH token ↔
      (if token = Go.lit "top-right-clock" then (448 : ℤ) else 480) ≤ frameW ∧ 96 ≤ frameH :=
    ⟨fun hf => ⟨hf.width hmem, hf.height hmem⟩, fun hf => ⟨fun _ => hf.1, fun _ => hf.2⟩⟩
  rw [hfits]
  have hleft : Go.lit "top-left-clock" ≠ Go.lit "top-right-clock" := by decide
  have hbottom : Go.lit "bottom-left-clock" ≠ Go.lit "top-right-clock" := by decide
  have hright : Go.lit "bottom-right-clock" ≠ Go.lit "top-right-clock" := by decide
  unfold presetZone at h
  unfold InsideFrame
  split_ifs at h with h1 h2 h3 h4
  · obtain rfl := Option.some.inj h
    rw [h1, if_neg hleft]
    dsimp only
    omega
  · obtain rfl := Option.some.inj h
    rw [if_pos h2]
    dsimp only
    omega
  · obtain rfl := Option.some.inj h
    rw [h3, if_neg hbottom]
    dsimp only
    omega
  · obtain rfl := Option.some.inj h
    rw [h4, if_neg hright]
    dsimp only
    omega

section Tuples

variable (t : ZoneTuple)

lemma zone_x1 : (t.ordered.clamped frameW frameH).zone.x1 = max (min t.x1 t.x2) 0 := by
  simp only [ZoneTuple.zone, ZoneTuple.clamped, ZoneTuple.ordered]
  split_ifs <;> omega

lemma zone_y1 : (t.ordered.clamped frameW frameH).zone.y1 = max (min t.y1 t.y2) 0 := by
  simp only [ZoneTuple.zone, ZoneTuple.clamped, ZoneTuple.ordered]
  split_ifs <;> omega

lemma zone_x2 : (t.ordered.clamped frameW frameH).zone.x2 = min (max t.x1 t.x2) frameW := by
  simp only [ZoneTuple.zone, ZoneTuple.clamped, ZoneTuple.ordered]
  split_ifs <;> omega

lemma zone_y2 : (t.ordered.clamped frameW frameH).zone.y2 = min (max t.y1 t.y2) frameH := by
  simp only [ZoneTuple.zone, ZoneTuple.clamped, ZoneTuple.ordered]
  split_ifs <;> omega

lemma tupleZone_inside_iff (hw : 0 < frameW) (hh : 0 < frameH) :
    InsideFrame frameW frameH (t.ordered.clamped frameW frameH).zone ↔ TupleMeets frameW frameH t := by
  unfold InsideFrame TupleMeets
  rw [zone_x1, zone_y1, zone_x2, zone_y2]
  omega

end Tuples

/-- An item yields the zone of its preset or of its tuple. -/
lemma parseItem_eq_some_iff {item : Go.Str} {zone : Zone} :
    parseItem frameW frameH item = some zone ↔
      presetZone (zoneToken item) frameW frameH = some zone ∨
        ∃ t ∈ numericTuple (zoneToken item), (t.ordered.clamped frameW frameH).zone = zone := by
  unfold parseItem
  by_cases hempty : zoneToken item = []
  · have hpreset : presetZone [] frameW frameH = none := rfl
    have htuple : numericTuple [] = none := rfl
    simp [hempty, hpreset, htuple]
  · simp only [hempty, if_false]
    cases hpreset : presetZone (zoneToken item) frameW frameH with
    | none => simp
    | some z =>
      have htuple := numericTuple_preset (presetZone_isSome_iff.mp ⟨z, hpreset⟩)
      simp [htuple]

/-- The zones of an item are inside the frame if and only if the item fits. -/
lemma itemFits_iff (hw : 0 < frameW) (hh : 0 < frameH) (item : Go.Str) :
    (∀ zone, parseItem frameW frameH item = some zone → InsideFrame frameW frameH zone) ↔
      ItemFits frameW frameH item := by
  constructor
  · intro h
    constructor
    · by_cases hmem : zoneToken item ∈ presetNames
      · obtain ⟨zone, hzone⟩ := presetZone_isSome_iff.mpr hmem
        exact (presetZone_inside_iff hzone).mp (h zone (parseItem_eq_some_iff.mpr (.inl hzone)))
      · exact ⟨fun hm => absurd hm hmem, fun hm => absurd hm hmem⟩
    · intro t ht
      apply (tupleZone_inside_iff t hw hh).mp
      exact h _ (parseItem_eq_some_iff.mpr (.inr ⟨t, ht, rfl⟩))
  · rintro hfits zone hzone
    rcases parseItem_eq_some_iff.mp hzone with hpreset | ⟨t, ht, rfl⟩
    · exact (presetZone_inside_iff hpreset).mpr hfits.preset
    · exact (tupleZone_inside_iff t hw hh).mpr (hfits.tuple t ht)

/-- For every string and every frame size, all zones are ordered and inside the frame if and
only if every preset in the string has room and every tuple meets the frame. -/
theorem zones_inside_iff (raw : Go.Str) (hw : 0 < frameW) (hh : 0 < frameH) :
    (∀ zone ∈ parseExcludeZones raw frameW frameH, InsideFrame frameW frameH zone) ↔
      ∀ item ∈ zoneItems raw, ItemFits frameW frameH item := by
  constructor
  · intro h item hitem
    apply (itemFits_iff hw hh item).mp
    intro zone hzone
    exact h zone (mem_parseExcludeZones.mpr ⟨item, hitem, hzone⟩)
  · intro h zone hzone
    obtain ⟨item, hitem, hparse⟩ := mem_parseExcludeZones.mp hzone
    exact (itemFits_iff hw hh item).mpr (h item hitem) zone hparse

/-- Two presets and a tuple at full resolution. -/
def threeZones : Go.Str := Go.lit "top-left-clock; 100,200,400,500; bottom-right-clock"

theorem zones_inside_iff_fullHD :
    (∀ zone ∈ parseExcludeZones threeZones 1920 1080, InsideFrame 1920 1080 zone) ∧
      ∀ item ∈ zoneItems threeZones, ItemFits 1920 1080 item := by
  have hinside : ∀ zone ∈ parseExcludeZones threeZones 1920 1080, InsideFrame 1920 1080 zone := by
    decide
  exact ⟨hinside, (zones_inside_iff threeZones (by decide) (by decide)).mp hinside⟩

/-- The preset of the default deployment on a sub-stream of 352x288: the zone begins left of the
frame. A tuple right of the frame gives an inverted zone. -/
theorem zones_outside_of_subStream :
    ¬ (∀ zone ∈ parseExcludeZones (Go.lit "top-right-clock") 352 288, InsideFrame 352 288 zone) ∧
      ¬ (∀ zone ∈ parseExcludeZones (Go.lit "2000,0,3000,50") 1920 1080,
        InsideFrame 1920 1080 zone) := by
  decide

end IntruderWatch.Proofs
