import IntruderWatch.Motion

/-!
# Dispatch decisions of the ingestion loop

The part of the main loop between a successful `ReadFrame` and the end of the iteration:
rate limit, motion analysis, lighting shift, post-roll, and the bookkeeping after
`Submit`. The loop time `now` is read before the frame, as in the source. The interval
`minInterval` is the local variable that `main` computes once from the frame rate.
-/

namespace IntruderWatch

/-- The `reason` labels of `framesSkipped`. -/
inductive SkipReason
  | rateLimit
  | lightingShift
  | duplicate
  | backpressure
deriving DecidableEq

/-- What the loop writes into a `FrameItem` before `Submit`. -/
structure FrameStamp where
  timestamp : Time
  sequence : ℕ
  isPostRoll : Bool
  motionBox : Option Box
deriving DecidableEq

/-- The branch taken for a captured frame. -/
inductive Verdict
  | skip (reason : SkipReason)
  | dispatch (stamp : FrameStamp)
deriving DecidableEq

/-- The detector and the mutable variables of the loop. -/
structure LoopState where
  detector : MacroblockDetector
  lastSentTime : Time
  lastMotionTime : Time
  lastMotionBox : Option Box
  seqCounter : ℕ

namespace LoopState

def start (detector : MacroblockDetector) : LoopState where
  detector := detector
  lastSentTime := 0
  lastMotionTime := 0
  lastMotionBox := none
  seqCounter := 0

variable (cfg : Config) (minInterval : Duration) (st : LoopState) (now : Time)

def rateLimited : Bool :=
  !decide (st.lastSentTime = 0) && decide (now - st.lastSentTime < minInterval)

/-- The motion variables after an analysed frame that is no lighting shift. -/
def noteMotion (motion : MotionResult) : LoopState :=
  if motion.hasMotion then { st with lastMotionTime := now, lastMotionBox := motion.motionBox }
  else st

def inPostRoll (motion : MotionResult) : Bool :=
  !motion.hasMotion && !decide (st.lastMotionTime = 0) &&
    decide (now - st.lastMotionTime ≤ cfg.postRollDuration)

/-- The branches after `Analyze`. -/
def judgeMotion (motion : MotionResult) : LoopState × Verdict :=
  if motion.isLightingShift then ({ st with lastSentTime := now }, .skip .lightingShift)
  else
    let st := st.noteMotion now motion
    let inPostRoll := st.inPostRoll cfg now motion
    let shouldDispatch := motion.hasMotion || inPostRoll
    if !shouldDispatch then ({ st with lastSentTime := now }, .skip .duplicate)
    else
      let seqCounter := st.seqCounter + 1
      ({ st with seqCounter := seqCounter },
        .dispatch {
          timestamp := now
          sequence := seqCounter
          isPostRoll := inPostRoll
          motionBox := if motion.motionBox.isSome then motion.motionBox else st.lastMotionBox })

/-- From the rate limit to the point before `Submit`; the analysis result is returned for a
frame that is analysed. -/
def judge (yPlane : Bytes) : Option (LoopState × Option MotionResult × Verdict) :=
  if st.rateLimited minInterval now then some (st, none, .skip .rateLimit)
  else do
    let (detector, motion) ← st.detector.analyze yPlane
    let (st, verdict) := { st with detector := detector }.judgeMotion cfg now motion
    some (st, some motion, verdict)

/-- After `Submit` returned `ok`. -/
def afterSubmit (ok : Bool) : LoopState :=
  if ok then { st with lastSentTime := now } else st

/-- `detector.Reset()` on reconnection, read error or schedule change. -/
def resetDetector : LoopState :=
  { st with detector := st.detector.reset }

end LoopState

/-! ### Iterations over successfully read frames -/

/-- An iteration that reads a frame, whose `Submit` would return `submitOk`, or a reset. -/
inductive LoopEvent
  | frame (now : Clock) (yPlane : Bytes) (submitOk : Bool)
  | reset

def LoopEvent.time? : LoopEvent → Option Time
  | .frame now _ _ => some now
  | .reset => none

def LoopEvent.isFrame (e : LoopEvent) : Bool :=
  e.time?.isSome

/-- What an iteration did with its frame: the analysis result if it was analysed, the stamp
if it was handed to `Submit`, and whether `Submit` accepted it. -/
structure Report where
  now : Time
  motion : Option MotionResult
  handed : Option FrameStamp
  accepted : Bool
deriving DecidableEq

def ingestFrame (cfg : Config) (minInterval : Duration) (st : LoopState) (now : Time)
    (yPlane : Bytes) (submitOk : Bool) : Option (LoopState × Report) := do
  let (st, motion, verdict) ← st.judge cfg minInterval now yPlane
  match verdict with
  | .skip _ => some (st, ⟨now, motion, none, false⟩)
  | .dispatch stamp => some (st.afterSubmit now submitOk, ⟨now, motion, some stamp, submitOk⟩)

def loopStep (cfg : Config) (minInterval : Duration) (st : LoopState) :
    LoopEvent → Option (LoopState × Option Report)
  | .frame now yPlane submitOk =>
    (ingestFrame cfg minInterval st now yPlane submitOk).map (fun p => (p.1, some p.2))
  | .reset => some (st.resetDetector, none)

/-- The reports of a run of the loop, one for each frame. -/
def loopReports (cfg : Config) (minInterval : Duration) (d : MacroblockDetector)
    (events : List LoopEvent) : Option (List Report) := do
  let (_, outputs) ← Transition.exec (loopStep cfg minInterval) (LoopState.start d) events
  some (outputs.filterMap id)

end IntruderWatch
