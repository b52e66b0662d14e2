import IntruderWatch.Capture
import IntruderWatch.Schedule

/-!
# Supervision and health of the capture process

`Start`, `Stop` and `IsHealthy` of `capture.go` around the `ReadFrame` of the reader, and the
`/healthz` handler of `main.go`. The one time stamp of the capturer is written by `ReadFrame`,
when a frame is complete, and by `Start`, when the process is launched.
-/

namespace IntruderWatch

/-- The capturer with the flag that `Start` and `Stop` keep. -/
structure CaptureProcess extends StreamCapturer where
  isRunning : Bool

inductive StartError
  | pipe (err : String)
  | spawn (err : String)
deriving DecidableEq

def StartError.text : StartError → String
  | .pipe err => "failed to open stdout pipe: " ++ err
  | .spawn err => "failed to spawn ffmpeg: " ++ err

/-- The ways in which `Start` ends; the first two return no error. -/
inductive StartResult
  | alreadyRunning
  | launched
  | failed (err : StartError)
deriving DecidableEq

def newStreamCapturer : CaptureProcess where
  stdout := none
  lastFrameTime := 0
  isRunning := false

namespace CaptureProcess

variable (c : CaptureProcess)

/-- `launch` is what the system makes of the command: its standard output, or an error. -/
def start (launch : Except StartError (List Bytes)) (now : Clock) : CaptureProcess × StartResult :=
  if c.isRunning then (c, .alreadyRunning)
  else match launch with
    | .error err => (c, .failed err)
    | .ok stdout =>
      ({ c with stdout := some stdout, isRunning := true, lastFrameTime := now }, .launched)

def readFrame (call : ReadCall) : CaptureProcess × Bytes × Option ReadFrameError :=
  let (reader, buf, err) := c.toStreamCapturer.readFrame call
  ({ c with toStreamCapturer := reader }, buf, err)

def stop : CaptureProcess :=
  if !c.isRunning then c
  else { c with stdout := none, isRunning := false }

def isHealthy (now : Time) : Bool :=
  c.isRunning && decide (now - c.lastFrameTime < 15 * 1000000000)

end CaptureProcess

/-! ### Calls at their times -/

inductive CaptureCall
  | start (launch : Except StartError (List Bytes)) (now : Clock)
  | readFrame (call : ReadCall)
  | stop (now : Clock)

def CaptureCall.time : CaptureCall → Time
  | .start _ now => now
  | .readFrame call => call.now
  | .stop now => now

inductive CaptureOutcome
  | started (result : StartResult)
  | read (err : Option ReadFrameError)
  | stopped
deriving DecidableEq

def captureStep (c : CaptureProcess) : CaptureCall → CaptureProcess × CaptureOutcome
  | .start launch now => ((c.start launch now).1, .started (c.start launch now).2)
  | .readFrame call => ((c.readFrame call).1, .read (c.readFrame call).2.2)
  | .stop _ => (c.stop, .stopped)

abbrev CaptureLabel := CaptureCall × CaptureOutcome

/-- One call of a run, labelled by its outcome. -/
def CaptureStep (c : CaptureProcess) (label : CaptureLabel) (c' : CaptureProcess) : Prop :=
  captureStep c label.1 = (c', label.2)

/-! ### The healthcheck endpoint -/

inductive HealthReply
  | sleeping
  | healthy
  | unhealthy
deriving DecidableEq

def HealthReply.status : HealthReply → ℕ
  | .sleeping => 200
  | .healthy => 200
  | .unhealthy => 503

/-- The handler of `/healthz`, which reads the clock for the schedule and again for the age of
the last frame. -/
def healthz (schedule : TimeFrame) (loc : Location) (c : CaptureProcess) (now checkedAt : Clock) :
    HealthReply :=
  if !schedule.isWithinTimeFrame loc now then .sleeping
  else if c.isHealthy checkedAt then .healthy
  else .unhealthy

end IntruderWatch
