import IntruderWatch.Library.Interaction
import IntruderWatch.Library.PyRepr
import IntruderWatch.Library.Runs

/-!
# Alert service

The consumer of the alert queue: the callback with its two cooldowns, `send_ntfy_photo`, which
runs in a thread of its own for every dispatched photo alert, and the service as a machine in
which deliveries and the calls of the sender threads interleave. Logging, metrics, the start of
a thread and `basic_ack` are calls without a result; the POST answers with a status or raises.
-/

namespace IntruderWatch
open Py Interaction

/-! ### Clock and constants -/

/-- A reading of `time.time()`, which comes from a signed 64-bit count of nanoseconds. -/
structure WallTime where
  neg : Bool
  seconds : Magnitude
  bound : seconds.val ≤ 2 ^ 34

namespace WallTime

def toFloat (t : WallTime) : Binary64 := .finite t.neg t.seconds

/-- The initial stamp `0`. -/
def zero : WallTime := ⟨false, ⟨(0 : ℕ), isMagnitude_natCast (by norm_num)⟩, by norm_num⟩

/-- `now - last`. -/
def elapsed (now last : WallTime) : Binary64 := now.toFloat.sub last.toFloat

/-- `now - last > cooldown`. -/
def cooledDown (cooldown : Integer) (now last : WallTime) : Bool :=
  (now.elapsed last).gtInt cooldown.val

/-- `int(cooldown - (now - last))`. -/
def remaining (cooldown : Integer) (now last : WallTime) : Except Exn Integer := do
  let c ← Binary64.ofInteger cooldown.val
  (c.sub (now.elapsed last)).toInteger

end WallTime

/-- The module constants, and what the interpreter brings: the depth of nesting at which
`json.loads` and `repr` reach the recursion limit, and the printable characters. -/
structure AlertEnv where
  alertCooldown : Integer
  ntfyCooldown : Integer
  enableCallAlerts : Bool
  ntfyInternalUrl : Str
  viewerPublicUrl : Str
  imageAccessCode : Str
  loadsLimit : ℕ
  reprLimit : ℕ
  printable : CodePoint → Bool

/-- The defaults, with three numbers for the interpreter. -/
def defaultAlertEnv : AlertEnv where
  alertCooldown := smallInteger 90 (by norm_num [maxStrDigits])
  ntfyCooldown := smallInteger 60 (by norm_num [maxStrDigits])
  enableCallAlerts := false
  ntfyInternalUrl := lit "http://ntfy"
  viewerPublicUrl := lit "https://watch.yourdomain.com"
  imageAccessCode := []
  loadsLimit := 1000
  reprLimit := 1000
  printable := fun c => decide (32 ≤ c.val ∧ c.val < 127)

/-- The local variables that the callback takes from the body. -/
structure Alert where
  cameraId : Json
  timestamp : Json
  filename : Json
  humanCount : Integer
  maxConfidence : Binary64

/-! ### Reading the body -/

def unknown : Json := .str (lit "unknown")

def oneInteger : Integer := boolInteger true

def zeroFloat : Binary64 := .ofNat 0 (by norm_num)

def fallbackAlert : Alert where
  cameraId := unknown
  timestamp := unknown
  filename := .str []
  humanCount := oneInteger
  maxConfidence := zeroFloat

def readCamera (data : List (Str × Json)) : Json :=
  (getField (lit "camera") data).getD unknown

def readTimestamp (data : List (Str × Json)) : Json :=
  (getField (lit "timestamp") data).getD unknown

def readCount (data : List (Str × Json)) : Except Exn Integer :=
  match getField (lit "human_count") data with
  | none | some .null => .ok oneInteger
  | some rawCount => rawCount.toInteger

def readConfidence (data : List (Str × Json)) : Except Exn Binary64 :=
  match getField (lit "max_confidence") data with
  | none | some .null => .ok zeroFloat
  | some rawConf => rawConf.toFloat

/-- The classes of the `except` clause; the other three are `ValueError`s. -/
def malformed (e : Exn) : Bool :=
  e.isValueError || e = .typeError

/-- The lines with `data.get`, which only a dictionary has. -/
def readFields : Json → Except Exn Alert
  | .obj data => do
    let humanCount ← readCount data
    let maxConfidence ← readConfidence data
    .ok {
      cameraId := readCamera data
      timestamp := readTimestamp data
      filename := (getField (lit "filename") data).getD (.str [])
      humanCount := humanCount
      maxConfidence := maxConfidence }
  | _ => .error .attributeError

namespace AlertEnv

variable (env : AlertEnv)

/-- The body of the `try` statement. -/
def readAlert (body : List UInt8) : Except Exn Alert := do
  let text ← decode body
  let data ← loads env.loadsLimit text
  readFields data

def parseAlert (body : List UInt8) : Except Exn Alert :=
  match env.readAlert body with
  | .ok alert => .ok alert
  | .error e => if malformed e then .ok fallbackAlert else .error e

def text (v : Json) : Except Exn Str := v.toStr env.printable env.reprLimit

end AlertEnv

/-! ### The callback -/

/-- The calls of the callback. The log lines that matter here carry their fields. -/
inductive AlertCall
  | alertsTotal (camera : Json)
  | logAlert (camera : Str) (humanCount : Integer) (maxConfidence : Binary64) (timestamp : Str)
  | startNtfy (alert : Alert)
  | logNtfySuppressed (remaining : Integer) (camera : Json)
  | startCalls
  | logCallSuppressed (remaining : Integer) (camera : Json)
  | alertsSuppressed (camera : Json)
  | basicAck

/-- `last_call_time` and `last_ntfy_times`. -/
structure AlertState where
  lastCallTime : WallTime
  lastNtfyTimes : Key → Option WallTime

def AlertState.start : AlertState := ⟨.zero, fun _ => none⟩

/-- `last_ntfy_times.get(camera_id, 0)`. -/
def AlertState.lastCamNtfy (s : AlertState) (key : Key) : WallTime :=
  (s.lastNtfyTimes key).getD .zero

abbrev AlertProc := Proc AlertState AlertCall (fun _ => Unit) Exn

abbrev AlertTrace := Trace AlertCall (fun _ => Unit)

namespace AlertEnv

variable (env : AlertEnv)

/-- The photo alert with its cooldown per camera. -/
def dispatchNtfy (alert : Alert) (now : WallTime) : AlertProc Unit := do
  let key ← evaluate alert.cameraId.toKey
  let s ← get
  if now.cooledDown env.ntfyCooldown (s.lastCamNtfy key) then
    modify (fun s => { s with lastNtfyTimes := Function.update s.lastNtfyTimes key (some now) })
    perform (.startNtfy alert)
  else
    let remaining ← evaluate (now.remaining env.ntfyCooldown (s.lastCamNtfy key))
    perform (.logNtfySuppressed remaining alert.cameraId)
    perform (.alertsSuppressed alert.cameraId)

/-- The voice call with its single cooldown. -/
def dispatchCall (alert : Alert) (now : WallTime) : AlertProc Unit := do
  let s ← get
  if env.enableCallAlerts then
    if now.cooledDown env.alertCooldown s.lastCallTime then
      modify (fun s => { s with lastCallTime := now })
      perform .startCalls
    else
      let remaining ← evaluate (now.remaining env.alertCooldown s.lastCallTime)
      perform (.logCallSuppressed remaining alert.cameraId)
      perform (.alertsSuppressed alert.cameraId)
  else pure ()

def callback (body : List UInt8) (now : WallTime) : AlertProc Unit := do
  let alert ← evaluate (env.parseAlert body)
  perform (.alertsTotal alert.cameraId)
  let camera ← evaluate (env.text alert.cameraId)
  let timestamp ← evaluate (env.text alert.timestamp)
  perform (.logAlert camera alert.humanCount alert.maxConfidence timestamp)
  env.dispatchNtfy alert now
  env.dispatchCall alert now
  perform .basicAck

end AlertEnv

/-! ### The photo alert -/

/-- The calls of a sender thread; the POST has a URL, a body and headers. -/
inductive SendCall
  | post (url : Str) (data : List UInt8) (headers : List (Str × Str))
  | notificationsSent (camera : Json)
  | notificationErrors (camera : Json) (error : Exn)

/-- The POST answers with a status or raises. -/
def SendAns : SendCall → Type
  | .post _ _ _ => Except Exn ℕ
  | _ => Unit

abbrev SendProc := Proc Unit SendCall SendAns Exn

def httpPost (url : Str) (data : List UInt8) (headers : List (Str × Str)) :
    SendProc (Except Exn ℕ) :=
  perform (SendCall.post url data headers)

def countSent (camera : Json) : SendProc Unit :=
  perform (SendCall.notificationsSent camera)

def countError (camera : Json) (error : Exn) : SendProc Unit :=
  perform (SendCall.notificationErrors camera error)

def dot : CodePoint := ofChar '.'

/-- `timestamp.split(".")[0] if "." in timestamp else timestamp`. -/
def cleanTimestamp : Json → Except Exn Json
  | .str s => .ok (.str (if s.contains dot then (split dot s).headD [] else s))
  | .arr items =>
    if items.any (fun v => match v with | .str s => s = [dot] | _ => false) then
      .error .attributeError
    else .ok (.arr items)
  | .obj data => if (getField [dot] data).isSome then .error .attributeError else .ok (.obj data)
  | _ => .error .typeError

/-- `response.raise_for_status()`; its exception is an `OSError`. -/
def raiseForStatus (status : ℕ) : Except Exn Unit :=
  if 400 ≤ status ∧ status < 600 then .error .osError else .ok ()

namespace AlertEnv

variable (env : AlertEnv)

/-- The image URL, if the path has at least four parts. -/
def imageUrl (filename : Str) : Option Str :=
  let parts := split slash filename
  if 4 ≤ parts.length then
    match parts.reverse with
    | fileName :: dateFolder :: camFolder :: _ =>
      let url := env.viewerPublicUrl ++ lit "/images/" ++ camFolder ++ slash :: dateFolder ++
        slash :: fileName
      some (if env.imageAccessCode = [] then url else url ++ lit "?token=" ++ env.imageAccessCode)
    | _ => none
  else none

def confStr (maxConfidence : Binary64) : Except Exn Str :=
  if maxConfidence.gtInt 0 then do
    let percent ← (maxConfidence.mul (.ofNat 100 (by norm_num))).toInteger
    .ok (lit " (" ++ decimal percent.val ++ lit "% conf)")
  else .ok []

/-- Title, message and tags. -/
def ntfyText (alert : Alert) (clean : Json) : Except Exn (Str × Str × Str) := do
  let conf ← confStr alert.maxConfidence
  let camera ← env.text alert.cameraId
  let time ← env.text clean
  let count := decimal alert.humanCount.val
  if 1 < alert.humanCount.val then
    .ok (lit "INTRUDER: Camera " ++ camera ++ lit " (" ++ count ++ lit " Persons)",
      count ++ lit " persons detected" ++ conf ++ lit " at " ++ time,
      lit "rotating_light,warning,camera")
  else
    .ok (lit "Intruder: Camera " ++ camera, lit "Person detected" ++ conf ++ lit " at " ++ time,
      lit "rotating_light,camera")

def Json.asFilename : Json → Except Exn Str
  | .str s => .ok s
  | _ => .error .attributeError

/-- The `try` statement up to the metric; a path that is too short returns early. -/
def postPhoto (alert : Alert) (clean : Json) : SendProc Unit := do
  let filename ← evaluate (Json.asFilename alert.filename)
  match env.imageUrl filename with
  | none => pure ()
  | some url =>
    let (title, message, tags) ← evaluate (env.ntfyText alert clean)
    let data ← evaluate (encode message)
    let headers := [(lit "Title", title), (lit "Priority", lit "5"), (lit "Tags", tags),
      (lit "Attach", url)]
    let reply ← httpPost (env.ntfyInternalUrl ++ lit "/intruder-alerts") data headers
    let status ← evaluate reply
    evaluate (raiseForStatus status)
    countSent alert.cameraId

def sendNtfyPhoto (alert : Alert) : SendProc Unit := do
  let clean ← evaluate (cleanTimestamp alert.timestamp)
  tryCatch (env.postPhoto alert clean) (countError alert.cameraId)

end AlertEnv

/-! ### The service -/

/-- A sender thread: its alert, when it was started, its calls so far and what is left. -/
structure Sender where
  alert : Alert
  started : WallTime
  past : Trace SendCall SendAns
  rest : Prog SendCall SendAns (Except Exn Unit × Unit)

namespace Sender

def start (env : AlertEnv) (now : WallTime) (alert : Alert) : Sender :=
  ⟨alert, now, [], (env.sendNtfyPhoto alert).start ()⟩

def InProgress (sender : Sender) : Prop :=
  ∃ op k, sender.rest = .call op k

def Succeeded (sender : Sender) : Prop :=
  ¬ sender.InProgress ∧ ⟨.notificationsSent sender.alert.cameraId, ()⟩ ∈ sender.past

end Sender

def AlertCall.ntfyAlert? : AlertCall → Option Alert
  | .startNtfy alert => some alert
  | _ => none

/-- The alerts whose photo a callback dispatched. -/
def startedAlerts (calls : AlertTrace) : List Alert :=
  calls.filterMap (fun call => call.1.ntfyAlert?)

/-- The consumer with its tables and all sender threads; an exception of the callback ends it. -/
structure AlertService where
  state : AlertState
  running : Bool
  senders : List Sender

def AlertService.start : AlertService := ⟨.start, true, []⟩

/-- What happens: a delivery with the calls of its callback, or a call of a sender thread. -/
inductive ServiceLabel
  | delivered (body : List UInt8) (now : WallTime) (calls : AlertTrace)
  | replied (i : ℕ) (call : (op : SendCall) × SendAns op)

inductive ServiceStep (env : AlertEnv) (s : AlertService) : ServiceLabel → AlertService → Prop
  | deliver {body : List UInt8} {now : WallTime} {calls : AlertTrace} {result : Except Exn Unit}
      {state : AlertState} : s.running = true →
      Exec (env.callback body now) s.state calls result state →
      ServiceStep env s (.delivered body now calls)
        { state := state
          running := result.isOk
          senders := s.senders ++ (startedAlerts calls).map (Sender.start env now) }
  | reply {i : ℕ} {sender : Sender} {op : SendCall} {answer : SendAns op}
      {k : SendAns op → Prog SendCall SendAns (Except Exn Unit × Unit)} :
      s.senders[i]? = some sender → sender.rest = .call op k →
      ServiceStep env s (.replied i ⟨op, answer⟩)
        { s with
          senders := s.senders.set i
            { sender with past := sender.past ++ [⟨op, answer⟩], rest := k answer } }

abbrev ServiceRun (env : AlertEnv) := Transition.Run (ServiceStep env) AlertService.start

end IntruderWatch
