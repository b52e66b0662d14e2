import IntruderWatch.Dispatcher
import IntruderWatch.Frame
import IntruderWatch.Library.JsonText
import IntruderWatch.Library.PyOps

/-!
# Human detector

The callback for frame messages with its two tables per camera, and the messages that the frame
capturer publishes. OpenCV and the model are parameters that may raise; the submission of an
alert, the counters, the clock and `basic_ack` are calls. Log lines only format their fields.
-/

namespace IntruderWatch
open Py Interaction

/-! ### OpenCV and the model -/

/-- A box of `results.boxes` with its confidence. -/
structure Detection where
  x1 : Integer
  y1 : Integer
  x2 : Integer
  y2 : Integer
  conf : Binary64

/-- The model keeps at most `max_det=300` boxes. -/
abbrev Detections := {boxes : List Detection // boxes.length ≤ 300}

structure DetectorEnv (Image : Type) where
  instanceId : Str
  loadsLimit : ℕ
  reprLimit : ℕ
  eqLimit : ℕ
  printable : CodePoint → Bool
  imdecode : List UInt8 → Except Exn (Option Image)
  model : Image → Except Exn Detections
  rectangle : Image → Detection → Image
  putText : Image → Str → ℤ × ℤ → Image

/-! ### State and calls -/

/-- `camera_warmup`, `last_saved_hashes` and `state.frame_counter`. -/
structure DetectorState where
  cameraWarmup : Key → Option ℕ
  lastSavedHashes : Key → Option Json
  frameCounter : ℕ

namespace DetectorState

def start : DetectorState := ⟨fun _ => none, fun _ => none, 0⟩

variable (s : DetectorState)

/-- `camera_warmup.get(camera_id, 0)`. -/
def warmupCount (key : Key) : ℕ := (s.cameraWarmup key).getD 0

def warmUp (key : Key) : DetectorState :=
  { s with cameraWarmup := Function.update s.cameraWarmup key (some (s.warmupCount key + 1)) }

def countFrame : DetectorState := { s with frameCounter := s.frameCounter + 1 }

def remember (key : Key) (hash : Json) : DetectorState :=
  { s with lastSavedHashes := Function.update s.lastSavedHashes key (some hash) }

@[simp] lemma warmUp_lastSavedHashes (key : Key) :
    (s.warmUp key).lastSavedHashes = s.lastSavedHashes := rfl

@[simp] lemma countFrame_lastSavedHashes : s.countFrame.lastSavedHashes = s.lastSavedHashes := rfl

@[simp] lemma countFrame_warmupCount (key : Key) :
    s.countFrame.warmupCount key = s.warmupCount key := rfl

@[simp] lemma remember_warmupCount (key key' : Key) (hash : Json) :
    (s.remember key hash).warmupCount key' = s.warmupCount key' := rfl

end DetectorState

inductive DetectCall (Image : Type)
  | heartbeat (frames : ℕ)
  | now
  | submit (item : AlertItem Image)
  | humansDetected (camera : Json) (count : ℕ)
  | framesProcessed (camera : Json)
  | errorsTotal (camera : Json) (errorType : String)
  | basicAck

def DetectAns {Image : Type} : DetectCall Image → Type
  | .now => DateTime
  | .basicAck => Except Exn Unit
  | _ => Unit

abbrev DetectProc (Image : Type) := Proc DetectorState (DetectCall Image) DetectAns Exn

abbrev DetectTrace (Image : Type) := Trace (DetectCall Image) DetectAns

section Calls

variable {Image : Type}

abbrev heartbeat (frames : ℕ) : DetectProc Image Unit := perform (DetectCall.heartbeat frames)

abbrev datetimeNow : DetectProc Image DateTime := perform DetectCall.now

abbrev submit (item : AlertItem Image) : DetectProc Image Unit := perform (DetectCall.submit item)

abbrev humansDetected (camera : Json) (count : ℕ) : DetectProc Image Unit :=
  perform (DetectCall.humansDetected camera count)

abbrev framesProcessed (camera : Json) : DetectProc Image Unit :=
  perform (DetectCall.framesProcessed camera)

abbrev errorsTotal (camera : Json) (errorType : String) : DetectProc Image Unit :=
  perform (DetectCall.errorsTotal camera errorType)

abbrev basicAck : DetectProc Image (Except Exn Unit) := perform DetectCall.basicAck

def acknowledge : DetectProc Image Unit := do
  evaluate (← basicAck)

end Calls

/-! ### The callback -/

/-- The local variables of the callback; `camera_id` has served as a dictionary key. -/
structure FrameLocals where
  cameraId : Json
  key : Key
  keyed : cameraId.toKey = .ok key
  expectedHash : Json
  payload : List (Str × Json)

def warmupLimit : ℕ := 30

namespace DetectorEnv

variable {Image : Type} (env : DetectorEnv Image)

def text (v : Json) : Except Exn Str := v.toStr env.printable env.reprLimit

/-- `payload = json.loads(body.decode("utf-8"))`, with the `get` that only a dictionary has. -/
def readPayload (body : List UInt8) : Except Exn (List (Str × Json)) := do
  let text ← decode body
  match ← loads env.loadsLimit text with
  | .obj payload => .ok payload
  | _ => .error .attributeError

/-- The text of `expected_hash[:8]` in an f-string. -/
def hashPrefix (expectedHash : Json) : Except Exn Str := do
  env.text (← expectedHash.takeSlice 8)

/-- `expected_hash and last_saved_hashes.get(camera_id) == expected_hash`. -/
def isDuplicate (s : DetectorState) (m : FrameLocals) : Except Exn Bool :=
  if m.expectedHash.truthy then
    match s.lastSavedHashes m.key with
    | none => .ok false
    | some saved => saved.eqAt env.eqLimit m.expectedHash
  else .ok false

lemma hundred_lt_two_pow : 100 < 2 ^ 53 := by
  norm_num

/-- The loop body over the boxes. -/
def drawBox (frame : Image) (b : Detection) : Except Exn Image := do
  let percent ← (b.conf.mul (.ofNat 100 hundred_lt_two_pow)).toInteger
  let label := lit "Person " ++ decimal percent.val ++ lit "%"
  .ok (env.putText (env.rectangle frame b) label (b.x1.val, max (b.y1.val - 6) 15))

def boxData (b : Detection) : List Integer × Binary64 :=
  ([b.x1, b.y1, b.x2, b.y2], b.conf.round 4)

def detectionDir (camera : Str) (timestamp : Str) : Except Exn Str :=
  match (words timestamp).head? with
  | none => .error .other
  | some dateOnly => .ok (pathJoin (lit "/app/captures/camera_" ++ camera) dateOnly)

def detectionFile (m : FrameLocals) (timestamp : Str) : Except Exn Str := do
  let dir ← detectionDir (← env.text m.cameraId) timestamp
  let hash ← env.hashPrefix m.expectedHash
  .ok (dir ++ lit "/det_" ++ timestamp ++ lit "_" ++ hash ++ lit "_" ++ env.instanceId.take 6 ++
    lit ".jpg")

def alertPayload (m : FrameLocals) (timestamp filename : Str) (boxes : Detections) (b : Detection)
    (rest : List Detection) : AlertPayload where
  camera := m.cameraId
  hashable := ⟨m.key, m.keyed⟩
  timestamp := timestamp
  filename := filename
  humanCount := smallInteger boxes.val.length (boxes.2.trans (by norm_num [maxStrDigits]))
  maxConfidence := Binary64.maximum (boxData b).2 (rest.map (fun b => (boxData b).2))
  boxes := boxes.val.map boxData

/-- The branch `if boxes_data`. -/
def raiseAlert (m : FrameLocals) (frame : Image) (boxes : Detections) : DetectProc Image Unit :=
  match boxes.val with
  | [] => pure ()
  | b :: rest => do
    if m.expectedHash.truthy then modify (fun s => s.remember m.key m.expectedHash)
    let timestamp := (← datetimeNow).text
    let filename ← evaluate (env.detectionFile m timestamp)
    submit ⟨frame, filename, alertPayload m timestamp filename boxes b rest⟩
    humansDetected m.cameraId boxes.val.length

/-- From `b64decode` on. -/
def detect (m : FrameLocals) : DetectProc Image Unit := do
  let image ← evaluate (subscript (lit "image") m.payload)
  let byteData ← evaluate (b64decode image)
  match ← evaluate (env.imdecode byteData) with
  | none => do
    let _ ← evaluate (env.text m.cameraId)
    errorsTotal m.cameraId "decode_error"
    acknowledge
  | some frame => do
    let boxes ← evaluate (env.model frame)
    let drawn ← evaluate (boxes.val.foldlM env.drawBox frame)
    env.raiseAlert m drawn boxes
    framesProcessed m.cameraId
    acknowledge

def countHeartbeat : DetectProc Image Unit := do
  modify DetectorState.countFrame
  let s ← get
  if s.frameCounter % 100 = 0 then heartbeat s.frameCounter

def processFrame (m : FrameLocals) : DetectProc Image Unit := do
  let s ← get
  if s.warmupCount m.key < warmupLimit then
    modify (fun s => s.warmUp m.key)
    let _ ← evaluate (env.text m.cameraId)
    acknowledge
  else
    countHeartbeat
    let duplicate ← evaluate (env.isDuplicate s m)
    if duplicate then
      let _ ← evaluate (env.hashPrefix m.expectedHash)
      let _ ← evaluate (env.text m.cameraId)
      acknowledge
    else env.detect m

/-- The `except` branch; a failing `basic_ack` is logged. -/
def onError (cameraId : Json) : DetectProc Image Unit := do
  errorsTotal cameraId "exception"
  let _ ← basicAck
  pure ()

/-- `except` catches every exception of the body; `camera_id` is set once the payload is read. -/
def callback (body : List UInt8) : DetectProc Image Unit :=
  match env.readPayload body with
  | .error _ => onError (.str (lit "unknown"))
  | .ok payload =>
    let cameraId := (getField (lit "camera") payload).getD (.str (lit "unknown"))
    let expectedHash := (getField (lit "hash") payload).getD (.str [])
    match h : cameraId.toKey with
    | .error _ => onError cameraId
    | .ok key =>
      tryCatch (env.processFrame ⟨cameraId, key, h, expectedHash, payload⟩)
        (fun _ => onError cameraId)

end DetectorEnv

/-! ### Frame messages -/

/-- A Go `int`. -/
abbrev GoInt := {n : ℤ // n.natAbs ≤ 2 ^ 63}

/-- What goes into a frame message: the JPEG with its SHA-256 sum, and the fields of the frame. -/
structure CapturedFrame where
  camera : GoInt
  jpegBytes : List UInt8
  digest : List UInt8
  length_digest : digest.length = 32
  motionBox : Option (GoInt × GoInt × GoInt × GoInt)
  isPostRoll : Bool

namespace CapturedFrame

variable (f : CapturedFrame)

def payload : FramePayload where
  camera := f.camera.val
  hash := hexEncode f.digest
  image := Base64.encode f.jpegBytes
  motionBox := f.motionBox.map (fun b => ⟨b.1.val, b.2.1.val, b.2.2.1.val, b.2.2.2.val⟩)
  isPostRoll := f.isPostRoll

end CapturedFrame

/-- The code points of ASCII bytes. -/
def asciiText (b : List UInt8) : Str := b.map (fun c => codePoint c.toNat)

/-- `json.Marshal`: a nil box and a false flag are left out. -/
def marshalText (p : FramePayload) : Str :=
  ofChar '\x7b' :: commaSep (
    [stringText (lit "camera") ++ ofChar ':' :: decimal p.camera,
      stringText (lit "hash") ++ ofChar ':' :: stringText (asciiText p.hash),
      stringText (lit "image") ++ ofChar ':' :: stringText (asciiText p.image)] ++
    (match p.motionBox with
      | none => []
      | some b => [stringText (lit "motion_box") ++ ofChar ':' ::
          (ofChar '[' :: commaSep [decimal b.x1, decimal b.y1, decimal b.x2, decimal b.y2] ++
            [closeBracket])]) ++
    (if p.isPostRoll then [stringText (lit "is_post_roll") ++ ofChar ':' :: lit "true"]
      else [])) ++ [closeBrace]

def marshal (p : FramePayload) : List UInt8 := (marshalText p).map (fun c => UInt8.ofNat c.val)

/-! ### Runs of the callback -/

section Runs

variable {Image : Type}

/-- A frame message with the calls of its callback. -/
structure FrameEvent (Image : Type) where
  frame : CapturedFrame
  calls : DetectTrace Image

def DetectCall.submitted? : DetectCall Image → Option (AlertItem Image)
  | .submit item => some item
  | _ => none

def submittedItems (calls : DetectTrace Image) : List (AlertItem Image) :=
  calls.filterMap (fun call => call.1.submitted?)

def DetectorStep (env : DetectorEnv Image) (s : DetectorState) (e : FrameEvent Image)
    (s' : DetectorState) : Prop :=
  ∃ result, Exec (env.callback (marshal e.frame.payload)) s e.calls result s'

abbrev DetectorRun (env : DetectorEnv Image) :=
  Transition.Run (DetectorStep env) DetectorState.start

end Runs

end IntruderWatch
