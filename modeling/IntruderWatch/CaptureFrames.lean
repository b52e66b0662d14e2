import IntruderWatch.AlertService
import IntruderWatch.Detector
import IntruderWatch.Library.PyTime

/-!
# Main loop of the Python capturer

`capture_frames` with its two nested loops: a session has a broker connection and, within the hours
that `is_within_time_frame` admits, an `ffmpeg` process whose output is read frame by frame. The broker, the process,
OpenCV, the clock and the counters are calls, so that every outcome of each of them is a run.
-/

namespace IntruderWatch.PyCapturer
open Py Interaction

/-! ### The hours of the schedule -/

/-- `os.getenv(key, default)`. -/
def getenv (environ : String → Option Str) (key defaultVal : String) : Str :=
  (environ key).getD (lit defaultVal)

/-- `start_time` and `end_time` of `capture_frames`. -/
def readSchedule (environ : String → Option Str) : Except Exn (ClockTime × ClockTime) := do
  let startTime ← strptime (getenv environ "START_TIME" "00:00:00")
  let endTime ← strptime (getenv environ "END_TIME" "23:59:59")
  .ok (startTime, endTime)

/-- The test for the time `datetime.now().time()`. -/
def isWithinTimeFrame (startTime endTime now : ClockTime) : Bool :=
  if startTime.le endTime then startTime.le now && now.le endTime
  else startTime.le now || now.le endTime

/-! ### Settings and calls -/

/-- The module constants and arguments; `minInterval` is the value of `(1.0 / FPS) * 0.9`. -/
structure CapturerEnv where
  startTime : ClockTime
  endTime : ClockTime
  frameHeight : ℤ
  frameWidth : ℤ
  channel : Integer
  queueName : Str
  minInterval : Binary64
  motionThreshold : Binary64
  jpegQuality : ℤ
  sha256 : List UInt8 → List UInt8

def CapturerEnv.frameSize (env : CapturerEnv) : ℤ := env.frameWidth * env.frameHeight * 3

/-- `meanSquaredError` stands for the two calls of `cv2.resize` and `np.mean`. -/
inductive CapCall (Image Gray : Type)
  | connectRabbitmq (queueName : Str)
  | clockTime
  | popen
  | read (pipe size : ℕ)
  | kill (pipe : ℕ)
  | wait (pipe : ℕ)
  | terminate (pipe : ℕ)
  | framesCaptured
  | framesSent
  | framesSkipped (reason : String)
  | captureErrors (errorType : String)
  | logHeartbeat (framesSent framesCaptured : ℕ)
  | now
  | reshape (rawFrame : List UInt8)
  | cvtColor (frame : Image)
  | meanSquaredError (frameGray lastFrameGray : Gray)
  | imencode (frame : Image) (quality : ℤ)
  | basicPublish (channel : ℕ) (routingKey : Str) (body : List UInt8)
  | sleepFrame
  | sleep (seconds : ℕ)
  | closeConnection (connection : ℕ)

/-- A read returns at most as many bytes as it was asked for. -/
def CapAns {Image Gray : Type} : CapCall Image Gray → Type
  | .connectRabbitmq _ => Except Exn (ℕ × ℕ)
  | .clockTime => ClockTime
  | .popen => Except Exn ℕ
  | .read _ size => Except Exn {chunk : List UInt8 // chunk.length ≤ size}
  | .kill _ => Except Exn Unit
  | .wait _ => Except Exn Unit
  | .terminate _ => Except Exn Unit
  | .now => WallTime
  | .reshape _ => Except Exn Image
  | .cvtColor _ => Except Exn Gray
  | .meanSquaredError _ _ => Except Exn Binary64
  | .imencode _ _ => Except Exn (Option (List UInt8))
  | .basicPublish _ _ _ => Except Exn Unit
  | .sleepFrame => Except Exn Unit
  | .closeConnection _ => Except Exn Unit
  | _ => Unit

/-- The local variables that outlive a loop body. -/
structure CapturerState (Gray : Type) where
  lastSentTime : WallTime
  lastFrameGray : Option Gray
  framesCaptured : ℕ
  framesSent : ℕ
  pipe : Option ℕ
  ffmpegRunning : Bool

def CapturerState.start (Gray : Type) : CapturerState Gray := ⟨.zero, none, 0, 0, none, false⟩

abbrev CapProc (Image Gray : Type) := Proc (CapturerState Gray) (CapCall Image Gray) CapAns Exn

abbrev CapEvent (Image Gray : Type) := (op : CapCall Image Gray) × CapAns op

abbrev CapTrace (Image Gray : Type) := Trace (CapCall Image Gray) CapAns

section Calls

variable {Image Gray : Type}

abbrev connectRabbitmq (queueName : Str) : CapProc Image Gray (Except Exn (ℕ × ℕ)) :=
  perform (CapCall.connectRabbitmq queueName)

abbrev clockTime : CapProc Image Gray ClockTime := perform CapCall.clockTime

abbrev popen : CapProc Image Gray (Except Exn ℕ) := perform CapCall.popen

abbrev read (pipe size : ℕ) :
    CapProc Image Gray (Except Exn {chunk : List UInt8 // chunk.length ≤ size}) :=
  perform (CapCall.read pipe size)

abbrev kill (pipe : ℕ) : CapProc Image Gray (Except Exn Unit) := perform (CapCall.kill pipe)

abbrev wait (pipe : ℕ) : CapProc Image Gray (Except Exn Unit) := perform (CapCall.wait pipe)

abbrev terminate (pipe : ℕ) : CapProc Image Gray (Except Exn Unit) :=
  perform (CapCall.terminate pipe)

abbrev countCaptured : CapProc Image Gray Unit := perform CapCall.framesCaptured

abbrev countSent : CapProc Image Gray Unit := perform CapCall.framesSent

abbrev countSkipped (reason : String) : CapProc Image Gray Unit :=
  perform (CapCall.framesSkipped reason)

abbrev countError (errorType : String) : CapProc Image Gray Unit :=
  perform (CapCall.captureErrors errorType)

abbrev logHeartbeat (framesSent framesCaptured : ℕ) : CapProc Image Gray Unit :=
  perform (CapCall.logHeartbeat framesSent framesCaptured)

abbrev timeTime : CapProc Image Gray WallTime := perform CapCall.now

abbrev reshape (rawFrame : List UInt8) : CapProc Image Gray (Except Exn Image) :=
  perform (CapCall.reshape rawFrame)

abbrev cvtColor (frame : Image) : CapProc Image Gray (Except Exn Gray) :=
  perform (CapCall.cvtColor frame)

abbrev meanSquaredError (frameGray lastFrameGray : Gray) : CapProc Image Gray (Except Exn Binary64) :=
  perform (CapCall.meanSquaredError frameGray lastFrameGray)

abbrev imencode (frame : Image) (quality : ℤ) :
    CapProc Image Gray (Except Exn (Option (List UInt8))) :=
  perform (CapCall.imencode frame quality)

abbrev basicPublish (channel : ℕ) (routingKey : Str) (body : List UInt8) :
    CapProc Image Gray (Except Exn Unit) :=
  perform (CapCall.basicPublish channel routingKey body)

abbrev sleepFrame : CapProc Image Gray (Except Exn Unit) := perform CapCall.sleepFrame

abbrev sleepSeconds (seconds : ℕ) : CapProc Image Gray Unit := perform (CapCall.sleep seconds)

abbrev closeConnection (connection : ℕ) : CapProc Image Gray (Except Exn Unit) :=
  perform (CapCall.closeConnection connection)

/-! ### The process -/

/-- `if not ffmpeg_running`. -/
def startFfmpeg : CapProc Image Gray Unit := do
  let s ← get
  if !s.ffmpegRunning then
    let pipe ← evaluate (← popen)
    modify (fun s => { s with pipe := some pipe, ffmpegRunning := true })

/-- `pipe.stdout.read(size)`. -/
def readChunk (size : ℕ) : CapProc Image Gray (List UInt8) := do
  match (← get).pipe with
  | none => throw .attributeError
  | some pipe => do
    let chunk ← evaluate (← read pipe size)
    pure chunk.val

/-- The loop around the reads, with `left` runs of its body to go. -/
def readLoop (frameSize : ℕ) : ℕ → List UInt8 → CapProc Image Gray (List UInt8)
  | 0, rawFrame => pure rawFrame
  | left + 1, rawFrame =>
    if rawFrame.length < frameSize then do
      let chunk ← readChunk (frameSize - rawFrame.length)
      if chunk = [] then pure rawFrame else readLoop frameSize left (rawFrame ++ chunk)
    else pure rawFrame

/-- Each run but the last brings a byte, so `frameSize` runs are enough. -/
def readFrame (frameSize : ℕ) : CapProc Image Gray (List UInt8) :=
  readLoop frameSize frameSize []

/-- `pipe.kill()` and `pipe.wait(timeout=1)`. -/
def signalFfmpeg : CapProc Image Gray Unit := do
  match (← get).pipe with
  | none => throw .attributeError
  | some pipe => do
    evaluate (← kill pipe)
    evaluate (← wait pipe)

/-- Whatever the two calls raise, the process counts as gone. -/
def killFfmpeg : CapProc Image Gray Unit := do
  tryCatch signalFfmpeg (fun _ => pure ())
  modify (fun s => { s with pipe := none, ffmpegRunning := false })

/-! ### One frame -/

/-- Whether the frame passes the motion filter; the first one does. -/
def hasMoved (env : CapturerEnv) (frameGray : Gray) : Option Gray → CapProc Image Gray Bool
  | none => pure true
  | some lastFrameGray => do
    let mse ← evaluate (← meanSquaredError frameGray lastFrameGray)
    pure !(env.motionThreshold.gt mse)

namespace CapturerEnv

variable (env : CapturerEnv)

def payload (byteData : List UInt8) : Json :=
  .obj [(lit "camera", .int env.channel), (lit "hash", .str (asciiText (hexEncode (env.sha256 byteData)))),
    (lit "image", .str (asciiText (Base64.encode byteData)))]

/-- The branch for an encoded image. -/
def publishFrame (mqChannel : ℕ) (byteData : List UInt8) (nowTs : WallTime) : CapProc Image Gray Unit := do
  let body ← evaluate (encode (dumps (env.payload byteData)))
  evaluate (← basicPublish mqChannel env.queueName body)
  modify (fun s => { s with lastSentTime := nowTs, framesSent := s.framesSent + 1 })
  countSent

/-- Behind the motion filter. -/
def sendFrame (mqChannel : ℕ) (frame : Image) (frameGray : Gray) (nowTs : WallTime) :
    CapProc Image Gray Unit := do
  modify (fun s => { s with lastFrameGray := some frameGray })
  match ← evaluate (← imencode frame env.jpegQuality) with
  | none => countError "encoding_failed"
  | some byteData => env.publishFrame mqChannel byteData nowTs
  evaluate (← sleepFrame)

def filterFrame (mqChannel : ℕ) (rawFrame : List UInt8) (nowTs : WallTime) : CapProc Image Gray Unit := do
  let frame ← evaluate (← reshape rawFrame)
  let frameGray ← evaluate (← cvtColor frame)
  let s ← get
  if ← hasMoved env frameGray s.lastFrameGray then env.sendFrame mqChannel frame frameGray nowTs
  else
    countSkipped "duplicate"
    modify (fun s => { s with lastSentTime := nowTs })

def countFrame : CapProc Image Gray Unit := do
  modify (fun s => { s with framesCaptured := s.framesCaptured + 1 })
  countCaptured
  let s ← get
  if s.framesCaptured % 100 = 0 then logHeartbeat s.framesSent s.framesCaptured

def handleFrame (mqChannel : ℕ) (rawFrame : List UInt8) : CapProc Image Gray Unit := do
  countFrame
  let nowTs ← timeTime
  let s ← get
  if env.minInterval.gt (nowTs.elapsed s.lastSentTime) then countSkipped "rate_limit"
  else env.filterFrame mqChannel rawFrame nowTs

/-! ### The loops -/

/-- The body of the inner loop; the answer is whether it goes on. -/
def iteration (mqChannel : ℕ) : CapProc Image Gray Bool := do
  let now ← clockTime
  if isWithinTimeFrame env.startTime env.endTime now then
    startFfmpeg
    let rawFrame ← readFrame env.frameSize.toNat
    if (rawFrame.length : ℤ) ≠ env.frameSize then
      countError "network_sync_lost"
      killFfmpeg
      pure false
    else
      env.handleFrame mqChannel rawFrame
      pure true
  else
    let s ← get
    if s.ffmpegRunning then killFfmpeg
    sleepSeconds 60
    pure true

/-- The start of the outer loop's body, up to the inner loop. -/
def openSession : CapProc Image Gray (ℕ × ℕ) := do
  modify (fun s => { s with pipe := none, ffmpegRunning := false })
  evaluate (← connectRabbitmq env.queueName)

/-- `if pipe`. -/
def terminateFfmpeg : CapProc Image Gray Unit := do
  match (← get).pipe with
  | none => pure ()
  | some pipe => do evaluate (← terminate pipe)

/-- `if mq_connection`. -/
def disconnect : Option ℕ → CapProc Image Gray Unit
  | none => pure ()
  | some connection => tryCatch (do evaluate (← closeConnection connection)) (fun _ => pure ())

/-- The `finally` branch. -/
def cleanUp (mqConnection : Option ℕ) : CapProc Image Gray Unit := do
  terminateFfmpeg
  disconnect mqConnection

/-- The end of a session, with the pause of the `except` branch after a failure. -/
def closeSession (failed : Bool) (mqConnection : Option ℕ) : CapProc Image Gray Unit :=
  if failed then do
    sleepSeconds 10
    cleanUp mqConnection
  else cleanUp mqConnection

end CapturerEnv

end Calls

/-- Between two sessions, in one, or after an exception of the `finally` branch. -/
inductive CapturerPhase
  | idle
  | connected (mqConnection mqChannel : ℕ)
  | ended

structure Capturer (Gray : Type) where
  state : CapturerState Gray
  phase : CapturerPhase

def Capturer.start (Gray : Type) : Capturer Gray := ⟨.start Gray, .idle⟩

/-- The phase behind a session, by the end of its `finally` branch. -/
def phaseAfter (result : Except Exn Unit) : CapturerPhase :=
  if result.isOk then .idle else .ended

section Machine

variable {Image Gray : Type} (env : CapturerEnv) (c : Capturer Gray)

/-- A step opens a session, or is one run of the inner loop's body, with the end of the session if it
comes to that; the label holds the calls. -/
inductive CapturerStep : CapTrace Image Gray → Capturer Gray → Prop
  | opened {calls : CapTrace Image Gray} {connection channel : ℕ} {s' : CapturerState Gray} :
      c.phase = .idle → Exec env.openSession c.state calls (.ok (connection, channel)) s' →
      CapturerStep calls ⟨s', .connected connection channel⟩
  | refused {calls closing : CapTrace Image Gray} {e : Exn} {s₁ s₂ : CapturerState Gray}
      {result : Except Exn Unit} :
      c.phase = .idle → Exec env.openSession c.state calls (.error e) s₁ →
      Exec (CapturerEnv.closeSession true none) s₁ closing result s₂ →
      CapturerStep (calls ++ closing) ⟨s₂, phaseAfter result⟩
  | looped {calls : CapTrace Image Gray} {connection channel : ℕ} {s' : CapturerState Gray} :
      c.phase = .connected connection channel →
      Exec (env.iteration channel) c.state calls (.ok true) s' →
      CapturerStep calls ⟨s', .connected connection channel⟩
  | left {calls closing : CapTrace Image Gray} {connection channel : ℕ}
      {s₁ s₂ : CapturerState Gray} {result : Except Exn Unit} :
      c.phase = .connected connection channel →
      Exec (env.iteration channel) c.state calls (.ok false) s₁ →
      Exec (CapturerEnv.closeSession false (some connection)) s₁ closing result s₂ →
      CapturerStep (calls ++ closing) ⟨s₂, phaseAfter result⟩
  | failed {calls closing : CapTrace Image Gray} {connection channel : ℕ} {e : Exn}
      {s₁ s₂ : CapturerState Gray} {result : Except Exn Unit} :
      c.phase = .connected connection channel →
      Exec (env.iteration channel) c.state calls (.error e) s₁ →
      Exec (CapturerEnv.closeSession true (some connection)) s₁ closing result s₂ →
      CapturerStep (calls ++ closing) ⟨s₂, phaseAfter result⟩

end Machine

abbrev CapturerRun {Image Gray : Type} (env : CapturerEnv) :=
  Transition.Run (@CapturerStep Image Gray env) (Capturer.start Gray)

end IntruderWatch.PyCapturer
