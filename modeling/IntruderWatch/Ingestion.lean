import IntruderWatch.Loop
import IntruderWatch.Schedule

/-!
# The ingestion loop and its blocking calls

An iteration of the inner loop of `main.go` reads the clock once, as `now`. `Start` and
`ReadFrame` come after that reading and may block, so the frame is complete at an instant of
its own, `readAt`; everything `main` decides about the frame it decides by `now`.
-/

namespace IntruderWatch

/-- How `Start` and `ReadFrame` end in an iteration that reaches them; `Submit` would return
`submitOk` for the frame. -/
inductive CaptureResult
  | startError
  | readError
  | frame (readAt : Clock) (yPlane : Bytes) (submitOk : Bool)

/-- The receive from `notifyClose`, or an iteration. Outside the schedule an iteration captures
nothing. -/
inductive IngestionEvent
  | disconnected
  | iteration (now : Clock) (capture : CaptureResult)

/-- The instants of an event, in the order in which they pass. -/
def IngestionEvent.instants : IngestionEvent → List Time
  | .disconnected => []
  | .iteration now (.frame readAt _ _) => [now, readAt]
  | .iteration now .startError => [now]
  | .iteration now .readError => [now]

/-- What the loop did with a frame that was complete at `readAt`. -/
structure ReadReport where
  readAt : Time
  report : Report
deriving DecidableEq

def ingestionStep (cfg : Config) (schedule : TimeFrame) (loc : Location) (minInterval : Duration)
    (st : LoopState) : IngestionEvent → Option (LoopState × Option ReadReport)
  | .disconnected => some (st.resetDetector, none)
  | .iteration now capture =>
    if schedule.isWithinTimeFrame loc now then
      match capture with
      | .startError => some (st, none)
      | .readError => some (st.resetDetector, none)
      | .frame readAt yPlane submitOk =>
        (ingestFrame cfg minInterval st now yPlane submitOk).map
          (fun p => (p.1, some ⟨readAt, p.2⟩))
    else some (st.resetDetector, none)

/-- An event of a run with what the loop reported for it. -/
abbrev IngestionLabel := IngestionEvent × Option ReadReport

def readReports (labels : List IngestionLabel) : List ReadReport :=
  labels.filterMap Prod.snd

end IntruderWatch
