import IntruderWatch.Config
import IntruderWatch.Library.GoText

/-!
# Exclusion zones

`parseExcludeZones`: the items of `EXCLUDE_ZONES` are the names of presets or numeric tuples
`x1,y1,x2,y2`; every other item is ignored.
-/

namespace IntruderWatch

/-- A numeric tuple as it is written. -/
structure ZoneTuple where
  x1 : ℤ
  y1 : ℤ
  x2 : ℤ
  y2 : ℤ
deriving DecidableEq

/-- The bytes `;` and `,`. -/
def itemSeparator : UInt8 := 59

def fieldSeparator : UInt8 := 44

/-- The cases of the `switch` statement. -/
def presetZone (token : Go.Str) (frameW frameH : ℤ) : Option Zone :=
  if token = Go.lit "top-left-clock" then some ⟨"top-left-clock", 0, 0, 480, 96⟩
  else if token = Go.lit "top-right-clock" then some ⟨"top-right-clock", frameW - 448, 0, frameW, 96⟩
  else if token = Go.lit "bottom-left-clock" then
    some ⟨"bottom-left-clock", 0, frameH - 96, 480, frameH⟩
  else if token = Go.lit "bottom-right-clock" then
    some ⟨"bottom-right-clock", frameW - 480, frameH - 96, frameW, frameH⟩
  else none

def numericTuple (token : Go.Str) : Option ZoneTuple :=
  match Go.split token fieldSeparator with
  | [p1, p2, p3, p4] =>
    match Go.atoi (Go.trimSpace p1), Go.atoi (Go.trimSpace p2), Go.atoi (Go.trimSpace p3),
      Go.atoi (Go.trimSpace p4) with
    | .ok x1, .ok y1, .ok x2, .ok y2 => some ⟨x1, y1, x2, y2⟩
    | _, _, _, _ => none
  | _ => none

namespace ZoneTuple

variable (t : ZoneTuple)

/-- The swaps of the first two `if` statements. -/
def ordered : ZoneTuple where
  x1 := if t.x2 < t.x1 then t.x2 else t.x1
  y1 := if t.y2 < t.y1 then t.y2 else t.y1
  x2 := if t.x2 < t.x1 then t.x1 else t.x2
  y2 := if t.y2 < t.y1 then t.y1 else t.y2

/-- Each side is checked at one end of its axis. -/
def clamped (frameW frameH : ℤ) : ZoneTuple where
  x1 := if t.x1 < 0 then 0 else t.x1
  y1 := if t.y1 < 0 then 0 else t.y1
  x2 := if frameW < t.x2 then frameW else t.x2
  y2 := if frameH < t.y2 then frameH else t.y2

def zone : Zone where
  name := "[" ++ toString t.x1 ++ "," ++ toString t.y1 ++ "," ++ toString t.x2 ++ "," ++
    toString t.y2 ++ "]"
  x1 := t.x1
  y1 := t.y1
  x2 := t.x2
  y2 := t.y2

end ZoneTuple

/-- The token of an item. -/
def zoneToken (item : Go.Str) : Go.Str := Go.trimSpace (Go.toLower item)

/-- The body of the loop over the items. -/
def parseItem (frameW frameH : ℤ) (item : Go.Str) : Option Zone :=
  let token := zoneToken item
  if token = [] then none
  else
    match presetZone token frameW frameH with
    | some zone => some zone
    | none => (numericTuple token).map (fun t => (t.ordered.clamped frameW frameH).zone)

/-- The items that the loop visits. -/
def zoneItems (raw : Go.Str) : List Go.Str := Go.split (Go.trimSpace raw) itemSeparator

def parseExcludeZones (raw : Go.Str) (frameW frameH : ℤ) : List Zone :=
  if Go.trimSpace raw = [] then [] else (zoneItems raw).filterMap (parseItem frameW frameH)

/-- The zones are those of the items, also for a blank string. -/
lemma mem_parseExcludeZones {raw : Go.Str} {frameW frameH : ℤ} {zone : Zone} :
    zone ∈ parseExcludeZones raw frameW frameH ↔
      ∃ item ∈ zoneItems raw, parseItem frameW frameH item = some zone := by
  unfold parseExcludeZones
  split_ifs with hblank
  · have hitems : zoneItems raw = [[]] := by
      rw [zoneItems, hblank]
      rfl
    have hnone : parseItem frameW frameH [] = none := rfl
    simp [hitems, hnone]
  · rw [List.mem_filterMap]

end IntruderWatch
