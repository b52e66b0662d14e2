import IntruderWatch.AlertService
import IntruderWatch.Detector
import IntruderWatch.Library.Watchers

/-!
# The monolith

`capture_stream`, the single-process predecessor of the services: one loop that reads the stream within
the hours of the schedule, looks for persons with MobileNet-SSD, calls the phone numbers and saves the
picture. Each call of a library answers or raises; an interrupt is raised by the call that it hits.
-/

namespace IntruderWatch.Monolith
open Py Interaction

/-! ### Settings and calls -/

/-- The arguments of `capture_stream`. The rows of the network's answer are read by `confident`, for
`confidence > 0.8`, and `classId`; `rectangle` scales a row's box to the frame and draws it. -/
structure MonolithEnv (Image Row : Type) where
  channel : Integer
  alertCooldown : Integer
  startTime : ℤ
  endTime : ℤ
  toPhoneNumbers : Str
  confident : Row → Bool
  classId : Row → ℤ
  rectangle : Image → Row → Image

inductive MonolithCall (Image : Type)
  | exists (path : Str)
  | makedirs (path : Str)
  | videoCapture
  | isOpened (cap : ℕ)
  | loadModel
  | now
  | read (cap : ℕ)
  | forward (frame : Image)
  | time
  | nowText
  | client
  | callsCreate (number : Str)
  | imwrite (filename : Str) (picture : Image)
  | logWaiting
  | sleep (seconds : ℕ)
  | release (cap : ℕ)

def MonolithReply (Image Row : Type) : MonolithCall Image → Type
  | .exists _ => Bool
  | .videoCapture => ℕ
  | .isOpened _ => Bool
  | .now => DateTime
  | .read _ => Option Image
  | .forward _ => List Row
  | .time => WallTime
  | .nowText => DateTime
  | .imwrite _ _ => Bool
  | _ => Unit

abbrev MonolithAns (Image Row : Type) (op : MonolithCall Image) : Type :=
  Except Exn (MonolithReply Image Row op)

/-- The local variables that outlive a loop body; `filename` is unbound at first. -/
structure MonolithState where
  cap : ℕ
  lastAlertTime : WallTime
  lastLogTime : WallTime
  filename : Option Str

def MonolithState.start (cap : ℕ) : MonolithState := ⟨cap, .zero, .zero, none⟩

abbrev MonolithProc (Image Row : Type) :=
  Proc MonolithState (MonolithCall Image) (MonolithAns Image Row) Exn

abbrev MonolithEvent (Image Row : Type) := (op : MonolithCall Image) × MonolithAns Image Row op

abbrev MonolithTrace (Image Row : Type) := Trace (MonolithCall Image) (MonolithAns Image Row)

def keyboardInterrupt : Exn := .foreign "KeyboardInterrupt"

/-- Reading an unbound local variable. -/
def unboundLocalError : Exn := .other

/-- `strftime("%Y-%m-%d %H:%M:%S")`. -/
def timestampText (t : DateTime) : Str :=
  t.dateText ++ ofChar ' ' :: (padded 2 t.hour ++ ofChar ':' :: padded 2 t.minute ++ ofChar ':' ::
    padded 2 t.second)

def halfHour : Binary64 := .ofNat 1800 (by norm_num)

section Calls

variable {σ Image Row : Type}

/-- One call of a library. -/
abbrev ask (op : MonolithCall Image) :
    Proc σ (MonolithCall Image) (MonolithAns Image Row) Exn (MonolithReply Image Row op) :=
  request (MonolithReply Image Row) op

abbrev videoCapture : Proc σ (MonolithCall Image) (MonolithAns Image Row) Exn ℕ := ask .videoCapture

abbrev pathExists (path : Str) : Proc σ (MonolithCall Image) (MonolithAns Image Row) Exn Bool :=
  ask (.exists path)

abbrev datetimeNow : MonolithProc Image Row DateTime := ask .now

abbrev nowText : MonolithProc Image Row DateTime := ask .nowText

abbrev timeTime : MonolithProc Image Row WallTime := ask .time

abbrev readFrame (cap : ℕ) : MonolithProc Image Row (Option Image) := ask (.read cap)

abbrev forward (frame : Image) : MonolithProc Image Row (List Row) := ask (.forward frame)

abbrev sleep (seconds : ℕ) : MonolithProc Image Row Unit := ask (.sleep seconds)

end Calls

namespace MonolithEnv

variable {Image Row : Type} (env : MonolithEnv Image Row)

/-! ### Detection -/

/-- Class 15 is a person. -/
def isPerson (row : Row) : Bool := env.confident row && env.classId row = 15

/-- `detect_human_mobilenet_ssd` behind the network. -/
def detectHuman (detections : List Row) (frame : Image) : Bool × Image :=
  detections.foldl (fun found row =>
    if env.isPerson row then (true, env.rectangle found.2 row) else found) (false, frame)

/-! ### The loop body -/

def isActive (currentHour : ℕ) : Bool :=
  if env.startTime ≤ env.endTime then env.startTime ≤ currentHour && (currentHour : ℤ) < env.endTime
  else env.startTime ≤ currentHour || (currentHour : ℤ) < env.endTime

def numbers : List Str := split (ofChar ':') env.toPhoneNumbers

def callAlert (number : Str) : MonolithProc Image Row Unit := do
  ask .client
  ask (.callsCreate number)

def callAll : List Str → MonolithProc Image Row Unit
  | [] => pure ()
  | number :: numbers => do
    callAlert number
    callAll numbers

def dateDirectory (timestamp : Str) : Except Exn Str :=
  match (words timestamp).head? with
  | none => .error .other
  | some dateOnly => .ok (pathJoin (lit "captures") dateOnly)

def detectionFile (timestamp : Str) (dateDirectory : Str) : Str :=
  dateDirectory ++ lit "/detection_" ++ decimal env.channel.val ++ ofChar '_' :: timestamp ++ lit ".jpg"

/-- The branch that sends an alert. -/
def sendAlert (currentTime : WallTime) : MonolithProc Image Row Unit := do
  let now ← nowText
  let timestamp := timestampText now
  callAll env.numbers
  modify (fun s => { s with lastAlertTime := currentTime })
  let dateDirectory ← evaluate (dateDirectory timestamp)
  if !(← pathExists dateDirectory) then
    ask (.makedirs dateDirectory)
  modify (fun s => { s with filename := some (env.detectionFile timestamp dateDirectory) })

def savePicture (picture : Image) : MonolithProc Image Row Unit := do
  match (← get).filename with
  | none => throw unboundLocalError
  | some filename => do
    let _ ← ask (.imwrite filename picture)

def watchFrame (frame : Image) : MonolithProc Image Row Unit := do
  let detections ← forward frame
  let (detected, processedFrame) := env.detectHuman detections frame
  let currentTime ← timeTime
  let s ← get
  if detected && currentTime.cooledDown env.alertCooldown s.lastAlertTime then
    env.sendAlert currentTime
  if detected then savePicture processedFrame

def reconnect : MonolithProc Image Row Unit := do
  let cap ← videoCapture
  modify (fun s => { s with cap := cap })
  let _ ← ask (.isOpened cap)
  sleep 1

def waitOutside : MonolithProc Image Row Unit := do
  let currentTime ← timeTime
  let s ← get
  if !halfHour.gt (currentTime.elapsed s.lastLogTime) then
    ask .logWaiting
    modify (fun s => { s with lastLogTime := currentTime })
  sleep 60

def iteration : MonolithProc Image Row Unit := do
  let currentTime ← datetimeNow
  if env.isActive currentTime.hour then
    match ← readFrame (← get).cap with
    | some frame => env.watchFrame frame
    | none => reconnect
  else waitOutside

/-! ### Before and after the loop -/

def captures : Str := lit "captures"

def openStream : Proc Unit (MonolithCall Image) (MonolithAns Image Row) Exn ℕ := do
  if !(← pathExists captures) then
    ask (.makedirs captures)
  let cap ← videoCapture
  let _ ← ask (.isOpened cap)
  ask .loadModel
  pure cap

/-- `except KeyboardInterrupt` and `finally`. -/
def closeStream (e : Exn) : MonolithProc Image Row Unit :=
  withFinally (if e = keyboardInterrupt then pure () else throw e) (do
    ask (.release (← get).cap))

end MonolithEnv

/-! ### The program -/

inductive Phase
  | starting
  | watching (s : MonolithState)
  | ended (result : Except Exn Unit)

inductive MonolithStep {Image Row : Type} (env : MonolithEnv Image Row) :
    Phase → MonolithTrace Image Row → Phase → Prop
  | opened {calls : MonolithTrace Image Row} {cap : ℕ} :
      Exec MonolithEnv.openStream () calls (.ok cap) () →
      MonolithStep env .starting calls (.watching (.start cap))
  | refused {calls : MonolithTrace Image Row} {e : Exn} :
      Exec MonolithEnv.openStream () calls (.error e) () →
      MonolithStep env .starting calls (.ended (.error e))
  | looped {s s' : MonolithState} {calls : MonolithTrace Image Row} :
      Exec env.iteration s calls (.ok ()) s' → MonolithStep env (.watching s) calls (.watching s')
  | stopped {s s₁ s₂ : MonolithState} {calls closing : MonolithTrace Image Row} {e : Exn}
      {result : Except Exn Unit} : Exec env.iteration s calls (.error e) s₁ →
      Exec (MonolithEnv.closeStream e) s₁ closing result s₂ →
      MonolithStep env (.watching s) (calls ++ closing) (.ended result)

abbrev MonolithRun {Image Row : Type} (env : MonolithEnv Image Row) :=
  Transition.Run (MonolithStep env) Phase.starting

end IntruderWatch.Monolith
