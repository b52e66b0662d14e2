import IntruderWatch.Frame
import IntruderWatch.Loop

/-!
# The frame capturer as a state machine

The main loop and the background worker of `pipeline.go`, interleaved at every point where
one of them touches something the other can see: the heap of `FrameItem`s, the pool, the
channel of capacity 2, the metrics. `ReadFrame` writes a buffer piece by piece and
`jpeg.Encode` reads it byte by byte. What the scheduler, the camera, the pool and the broker
decide comes with the event; an event that cannot happen in a state gives `none`. Pointers to
items are natural numbers.
-/

namespace IntruderWatch

/-- Where the main loop is within an iteration, with its local variables `frameItem` and `now`.
`n` bytes of the buffer are read while reading. -/
inductive MainState
  | top
  | reading (item : ℕ) (now : Clock) (n : ℕ)
  | captured (item : ℕ) (now : Clock)
  | submitting (item : ℕ) (now : Clock)
  | releasing (item : ℕ) (readFailed : Bool)
  | stopped

/-- Where the worker is within `processFrame`; `read` are the bytes the encoder has seen. -/
inductive WorkerState
  | idle
  | encoding (item : ℕ) (read : Bytes)
  | building (item : ℕ) (jpegBytes : Bytes)
  | publishing (item : ℕ) (message : Bytes)
  | releasing (item : ℕ)
  | stopped

/-- The `type` labels of `captureErrors`. -/
inductive CaptureError
  | startError
  | networkSyncLost
  | encodingFailed
  | publishFailed
deriving DecidableEq

structure Metrics where
  framesCaptured : ℕ
  framesSent : ℕ
  framesSkipped : SkipReason → ℕ
  captureErrors : CaptureError → ℕ

namespace Metrics

def zero : Metrics where
  framesCaptured := 0
  framesSent := 0
  framesSkipped := fun _ => 0
  captureErrors := fun _ => 0

variable (m : Metrics)

def captured : Metrics := { m with framesCaptured := m.framesCaptured + 1 }

def sent : Metrics := { m with framesSent := m.framesSent + 1 }

def skipped (reason : SkipReason) : Metrics :=
  { m with framesSkipped := Function.update m.framesSkipped reason (m.framesSkipped reason + 1) }

def failed (error : CaptureError) : Metrics :=
  { m with captureErrors := Function.update m.captureErrors error (m.captureErrors error + 1) }

end Metrics

structure Pipeline where
  heap : ℕ → FrameItem
  allocated : ℕ
  framePool : List ℕ
  frameChan : List ℕ
  main : MainState
  worker : WorkerState
  loop : LoopState
  metrics : Metrics
  cancelled : Bool

inductive PipelineEvent
  | startError
  | reset
  | acquire (pooled : Option ℕ) (now : Clock)
  | readChunk (chunk : Bytes)
  | readError
  | frameRead
  | judge
  | submit
  | mainRelease
  | mainStop
  | cancel
  | workerReceive
  | encodeByte
  | encoded
  | build
  | published
  | publishFailed (delivered : Bool)
  | workerRelease
  | workerStop

/-- What a step shows: pool operations, the stamp of a frame worth dispatching, an accepted
`Submit`, a message that reached the broker. -/
inductive Observation
  | silent
  | got (item : ℕ)
  | put (item : ℕ)
  | dispatched (stamp : FrameStamp)
  | submitted
  | published (message : Bytes)
deriving DecidableEq

namespace Pipeline

def emptyItem : FrameItem where
  data := []
  timestamp := 0
  sequence := 0
  motionBox := none
  isPostRoll := false

/-- The state in which the main loop starts; cells of the heap beyond `allocated` do not exist. -/
def start (detector : MacroblockDetector) : Pipeline where
  heap := fun _ => emptyItem
  allocated := 0
  framePool := []
  frameChan := []
  main := .top
  worker := .idle
  loop := LoopState.start detector
  metrics := Metrics.zero
  cancelled := false

/-- The capacity of `frameChan`. -/
def chanCapacity : ℕ := 2

variable (s : Pipeline)

def updateItem (item : ℕ) (f : FrameItem → FrameItem) : Pipeline :=
  { s with heap := Function.update s.heap item (f (s.heap item)) }

/-- `ReleaseFrame`. -/
def releaseFrame (item : ℕ) : Pipeline :=
  let s := s.updateItem item (fun f => { f with motionBox := none })
  { s with framePool := item :: s.framePool }

/-- `AcquireFrame`: `pooled` is the item `Get` takes from the pool, if it takes one. -/
def acquireFrame (cfg : Config) (pooled : Option ℕ) : Option (Pipeline × ℕ) := do
  let (s, item) ←
    match pooled with
    | some item =>
      if item ∈ s.framePool then some ({ s with framePool := s.framePool.erase item }, item) else none
    | none => do
      let data ← Go.make cfg.frameSize 0
      let item := s.allocated
      some ({ s with
        heap := Function.update s.heap item { emptyItem with data := data }
        allocated := s.allocated + 1 }, item)
  some (s.updateItem item (fun f => { f with motionBox := none, isPostRoll := false }), item)

/-- The buffer after `chunk` was read at offset `n`. -/
def readInto (data : Bytes) (n : ℕ) (chunk : Bytes) : Bytes :=
  data.take n ++ chunk ++ data.drop (n + chunk.length)

def stampItem (stamp : FrameStamp) (f : FrameItem) : FrameItem :=
  { f with
    timestamp := stamp.timestamp
    sequence := stamp.sequence
    isPostRoll := stamp.isPostRoll
    motionBox := stamp.motionBox }

/-! ### The main loop -/

def mainStep (cfg : Config) (minInterval : Duration) :
    MainState → PipelineEvent → Option (Pipeline × Observation)
  | .top, .startError => some ({ s with metrics := s.metrics.failed .startError }, .silent)
  | .top, .reset => some ({ s with loop := s.loop.resetDetector }, .silent)
  | .top, .mainStop => if s.cancelled then some ({ s with main := .stopped }, .silent) else none
  | .top, .acquire pooled now => do
    let (s, item) ← s.acquireFrame cfg pooled
    some ({ s with main := .reading item now 0 }, .got item)
  | .reading item now n, .readChunk chunk =>
    if n + chunk.length ≤ (s.heap item).data.length then
      let s := s.updateItem item (fun f => { f with data := readInto f.data n chunk })
      some ({ s with main := .reading item now (n + chunk.length) }, .silent)
    else none
  | .reading item _ n, .readError =>
    if n < (s.heap item).data.length then some ({ s with main := .releasing item true }, .silent)
    else none
  | .reading item now n, .frameRead =>
    if n = (s.heap item).data.length then
      some ({ s with main := .captured item now, metrics := s.metrics.captured }, .silent)
    else none
  | .captured item now, .judge => do
    let yPlane ← Go.slice (s.heap item).data 0 cfg.ySize
    let (loop, _, verdict) ← s.loop.judge cfg minInterval now yPlane
    match verdict with
    | .skip reason =>
      some ({ s with
        loop := loop
        metrics := s.metrics.skipped reason
        main := .releasing item false }, .silent)
    | .dispatch stamp =>
      let s := s.updateItem item (stampItem stamp)
      some ({ s with loop := loop, main := .submitting item now }, .dispatched stamp)
  | .submitting item now, .submit =>
    if s.frameChan.length < chanCapacity then
      some ({ s with
        frameChan := s.frameChan ++ [item]
        loop := s.loop.afterSubmit now true
        main := .top }, .submitted)
    else
      some ({ s with
        metrics := s.metrics.skipped .backpressure
        loop := s.loop.afterSubmit now false
        main := .releasing item false }, .silent)
  | .releasing item readFailed, .mainRelease =>
    let s := s.releaseFrame item
    let s := { s with main := .top }
    if readFailed then
      some ({ s with
        metrics := s.metrics.failed .networkSyncLost
        loop := s.loop.resetDetector }, .put item)
    else some (s, .put item)
  | _, _ => none

/-! ### The worker -/

def workerStep (cfg : Config) (enc : Encoders) :
    WorkerState → PipelineEvent → Option (Pipeline × Observation)
  | .idle, .workerReceive =>
    match s.frameChan with
    | [] => none
    | item :: rest => some ({ s with frameChan := rest, worker := .encoding item [] }, .silent)
  | .idle, .workerStop => if s.cancelled then some ({ s with worker := .stopped }, .silent) else none
  | .encoding item read, .encodeByte => do
    let byte ← (s.heap item).data[read.length]?
    some ({ s with worker := .encoding item (read ++ [byte]) }, .silent)
  | .encoding item read, .encoded =>
    if read.length = (s.heap item).data.length then do
      let img ← ycbcrImage cfg.frameWidth cfg.frameHeight cfg.ySize cfg.cSize read
      match enc.jpeg img with
      | .error _ =>
        some ({ s with
          metrics := s.metrics.failed .encodingFailed
          worker := .releasing item }, .silent)
      | .ok jpegBytes => some ({ s with worker := .building item jpegBytes }, .silent)
    else none
  | .building item jpegBytes, .build =>
    let f := s.heap item
    match enc.marshal (framePayload cfg enc jpegBytes f.motionBox f.isPostRoll) with
    | .error _ => some ({ s with worker := .releasing item }, .silent)
    | .ok message => some ({ s with worker := .publishing item message }, .silent)
  | .publishing item message, .published =>
    some ({ s with metrics := s.metrics.sent, worker := .releasing item }, .published message)
  | .publishing item message, .publishFailed delivered =>
    some ({ s with
      metrics := s.metrics.failed .publishFailed
      worker := .releasing item }, if delivered then .published message else .silent)
  | .releasing item, .workerRelease =>
    let s := s.releaseFrame item
    some ({ s with worker := .idle }, .put item)
  | _, _ => none

/-- A step of the main loop, of the worker, or of the signal handler. -/
def step (cfg : Config) (enc : Encoders) (minInterval : Duration) (e : PipelineEvent) :
    Option (Pipeline × Observation) :=
  match e with
  | .cancel => some ({ s with cancelled := true }, .silent)
  | .workerReceive | .encodeByte | .encoded | .build | .published | .publishFailed _
  | .workerRelease | .workerStop => s.workerStep cfg enc s.worker e
  | _ => s.mainStep cfg minInterval s.main e

end Pipeline

end IntruderWatch
