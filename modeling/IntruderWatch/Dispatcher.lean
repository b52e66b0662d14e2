import IntruderWatch.Library.Interaction
import IntruderWatch.Library.PyRepr
import IntruderWatch.Library.Runs

/-!
# Alert dispatcher

`AlertDispatcher` of the human detector with `connect_rabbitmq`: the queue between the detector
and the worker thread, the worker's loop body, and both threads as a machine. The worker's body
is a program whose calls (disk, broker, sleep, `task_done`) are answered one by one, so that every
outcome of every call and every interleaving with the detector is a run of the machine.
-/

namespace IntruderWatch
open Py Interaction

/-! ### Items -/

/-- The payload that the detector builds; the camera is a dictionary key there. -/
structure AlertPayload where
  camera : Json
  hashable : ∃ key, camera.toKey = .ok key
  timestamp : Str
  filename : Str
  humanCount : Integer
  maxConfidence : Binary64
  boxes : List (List Integer × Binary64)

namespace AlertPayload

def boxJson (b : List Integer × Binary64) : Json :=
  .obj [(lit "box", .arr (b.1.map .int)), (lit "confidence", .float b.2)]

def toJson (p : AlertPayload) : Json :=
  .obj [(lit "camera", p.camera), (lit "timestamp", .str p.timestamp),
    (lit "filename", .str p.filename), (lit "human_count", .int p.humanCount),
    (lit "max_confidence", .float p.maxConfidence), (lit "boxes", .arr (p.boxes.map boxJson))]

end AlertPayload

/-- An element of the queue; `Image` is the type of OpenCV frames. -/
structure AlertItem (Image : Type) where
  frame : Image
  filename : Str
  payload : AlertPayload

/-! ### The calls of the worker -/

/-- Connections and channels are numbered by the broker library. -/
inductive DispatchCall (Image : Type)
  | makedirs (dir : Str)
  | imwrite (filename : Str) (frame : Image) (quality : ℕ)
  | blockingConnection
  | openChannel (connection : ℕ)
  | queueDeclare (channel : ℕ) (queue : Str)
  | connectionIsClosed (connection : ℕ)
  | channelIsClosed (channel : ℕ)
  | closeConnection (connection : ℕ)
  | closeChannel (channel : ℕ)
  | basicPublish (channel : ℕ) (routingKey body : Str)
  | logPublishFailed (attempt : ℕ) (error : Exn)
  | sleep (milliseconds : ℕ)
  | taskDone

def DispatchAns {Image : Type} : DispatchCall Image → Type
  | .makedirs _ => Except Exn Unit
  | .imwrite _ _ _ => Except Exn Bool
  | .blockingConnection => Except Exn ℕ
  | .openChannel _ => Except Exn ℕ
  | .queueDeclare _ _ => Except Exn Unit
  | .connectionIsClosed _ => Bool
  | .channelIsClosed _ => Bool
  | .closeConnection _ => Except Exn Unit
  | .closeChannel _ => Except Exn Unit
  | .basicPublish _ _ _ => Except Exn Unit
  | .logPublishFailed _ _ => Unit
  | .sleep _ => Unit
  | .taskDone => Except Exn Unit

/-- `self.connection` and `self.channel`. -/
structure BrokerLink where
  connection : Option ℕ
  channel : Option ℕ
deriving DecidableEq

abbrev DispatchProc (Image : Type) := Proc BrokerLink (DispatchCall Image) DispatchAns Exn

abbrev DispatchTrace (Image : Type) := Trace (DispatchCall Image) DispatchAns

section Calls

variable {Image : Type}

abbrev makedirs (dir : Str) : DispatchProc Image (Except Exn Unit) :=
  perform (DispatchCall.makedirs dir)

abbrev imwrite (filename : Str) (frame : Image) (quality : ℕ) :
    DispatchProc Image (Except Exn Bool) :=
  perform (DispatchCall.imwrite filename frame quality)

abbrev blockingConnection : DispatchProc Image (Except Exn ℕ) :=
  perform DispatchCall.blockingConnection

abbrev openChannel (connection : ℕ) : DispatchProc Image (Except Exn ℕ) :=
  perform (DispatchCall.openChannel connection)

abbrev queueDeclare (channel : ℕ) (queue : Str) : DispatchProc Image (Except Exn Unit) :=
  perform (DispatchCall.queueDeclare channel queue)

abbrev connectionIsClosed (connection : ℕ) : DispatchProc Image Bool :=
  perform (DispatchCall.connectionIsClosed connection)

abbrev channelIsClosed (channel : ℕ) : DispatchProc Image Bool :=
  perform (DispatchCall.channelIsClosed channel)

abbrev closeConnection (connection : ℕ) : DispatchProc Image (Except Exn Unit) :=
  perform (DispatchCall.closeConnection connection)

abbrev closeChannel (channel : ℕ) : DispatchProc Image (Except Exn Unit) :=
  perform (DispatchCall.closeChannel channel)

abbrev basicPublish (channel : ℕ) (routingKey body : Str) : DispatchProc Image (Except Exn Unit) :=
  perform (DispatchCall.basicPublish channel routingKey body)

abbrev logPublishFailed (attempt : ℕ) (error : Exn) : DispatchProc Image Unit :=
  perform (DispatchCall.logPublishFailed attempt error)

abbrev sleep (milliseconds : ℕ) : DispatchProc Image Unit :=
  perform (DispatchCall.sleep milliseconds)

abbrev taskDone : DispatchProc Image (Except Exn Unit) :=
  perform DispatchCall.taskDone

/-! ### `connect_rabbitmq` -/

/-- The classes of the `except` clause in `connect_rabbitmq`. -/
def notReady (e : Exn) : Bool :=
  e = .foreign "pika.exceptions.AMQPConnectionError" || e = .connectionRefusedError

def declareQueues (channel : ℕ) : List Str → DispatchProc Image Unit
  | [] => pure ()
  | q :: queueNames => do
    evaluate (← queueDeclare channel q)
    declareQueues channel queueNames

def openLink (queueNames : List Str) : DispatchProc Image (ℕ × ℕ) := do
  let connection ← evaluate (← blockingConnection)
  let channel ← evaluate (← openChannel connection)
  declareQueues channel queueNames
  pure (connection, channel)

/-- The loop over the attempts, with `left` of them to go. -/
def connectLoop (queueNames : List Str) (delay : ℕ) : ℕ → DispatchProc Image (ℕ × ℕ)
  | 0 => throw .connectionError
  | left + 1 =>
    tryCatch (openLink queueNames) (fun e =>
      if notReady e then do
        if 0 < left then sleep delay
        connectLoop queueNames delay left
      else throw e)

def connectRabbitmq (queueNames : List Str) : DispatchProc Image (ℕ × ℕ) :=
  connectLoop queueNames 5000 15

/-! ### Publishing -/

def alertQueue : Str := lit "alert_queue"

/-- `try: handle.close() except Exception`, guarded by `handle and not handle.is_closed`. -/
def closeQuietly (handle : Option ℕ) (isClosed : ℕ → DispatchProc Image Bool)
    (close : ℕ → DispatchProc Image (Except Exn Unit)) : DispatchProc Image Unit :=
  tryCatch (match handle with
    | none => pure ()
    | some n => do
      if !(← isClosed n) then evaluate (← close n)) (fun _ => pure ())

def resetChannel : DispatchProc Image Unit := do
  let link ← get
  closeQuietly link.channel channelIsClosed closeChannel
  closeQuietly link.connection connectionIsClosed closeConnection
  modify (fun _ => ⟨none, none⟩)

/-- The condition of `_ensure_channel`. -/
def linkDown : DispatchProc Image Bool := do
  let link ← get
  match link.connection with
  | none => pure true
  | some connection => do
    if ← connectionIsClosed connection then pure true
    else
      match link.channel with
      | none => pure true
      | some channel => channelIsClosed channel

def ensureChannel : DispatchProc Image Unit := do
  if ← linkDown then
    let (connection, channel) ← connectRabbitmq [alertQueue]
    modify (fun _ => ⟨some connection, some channel⟩)

/-- The body of the `try` statement in the retry loop; `None` has no `basic_publish`. -/
def publishOnce (body : Str) : DispatchProc Image Unit := do
  ensureChannel
  match (← get).channel with
  | none => throw .attributeError
  | some channel => do evaluate (← basicPublish channel alertQueue body)

/-- The attempts `attempt`, ..., `attempt + left - 1`. -/
def publishLoop (body : Str) (attempt : ℕ) : ℕ → DispatchProc Image Bool
  | 0 => pure false
  | left + 1 =>
    tryCatch (do
      publishOnce body
      pure true) (fun e => do
      logPublishFailed attempt e
      resetChannel
      if 0 < left then sleep 500
      publishLoop body (attempt + 1) left)

def publishWithRetry (payload : AlertPayload) (retries : ℕ) : DispatchProc Image Bool :=
  publishLoop (dumps payload.toJson) 1 retries

/-- `_publish_with_retry` for payloads of any type, which `json.dumps` may refuse. -/
def publishPayload {P : Type} (dumps : P → Except Exn Str) (payload : P) (retries : ℕ) :
    DispatchProc Image Bool := do
  let body ← evaluate (dumps payload)
  publishLoop body 1 retries

lemma publishWithRetry_eq (payload : AlertPayload) (retries : ℕ) :
    (publishWithRetry payload retries : DispatchProc Image Bool) =
      publishPayload (fun p => .ok (dumps p.toJson)) payload retries := rfl

/-! ### The worker -/

/-- The body of the inner `try` statement. -/
def saveAndPublish (quality : ℕ) (item : AlertItem Image) : DispatchProc Image Unit := do
  evaluate (← makedirs (dirname item.filename))
  let _ ← evaluate (← imwrite item.filename item.frame quality)
  let _ ← publishWithRetry item.payload 3

/-- The loop body of `_worker` after `queue.get`. -/
def workerBody (quality : ℕ) (item : AlertItem Image) : DispatchProc Image Unit :=
  tryCatch
    (withFinally (tryCatch (saveAndPublish quality item) (fun _ => pure ())) (do
      evaluate (← taskDone)))
    (fun _ => sleep 1000)

end Calls

/-! ### The two threads -/

/-- The detector thread in `submit`: at `put_nowait`, at `get_nowait`, or at `task_done`. -/
inductive ProducerState (Image : Type)
  | idle
  | putting (item : AlertItem Image)
  | evicting (item : AlertItem Image)
  | discarding (item : AlertItem Image)

/-- The worker thread: waiting in `get`, or with an item, its calls so far and what is left. -/
inductive WorkerThread (Image : Type)
  | waiting (link : BrokerLink)
  | busy (item : AlertItem Image) (past : DispatchTrace Image)
      (rest : Prog (DispatchCall Image) DispatchAns (Except Exn Unit × BrokerLink))
  | dead

structure AlertDispatcher (Image : Type) where
  queue : List (AlertItem Image)
  unfinished : ℕ
  producer : ProducerState Image
  worker : WorkerThread Image

def AlertDispatcher.start (Image : Type) : AlertDispatcher Image :=
  ⟨[], 0, .idle, .waiting ⟨none, none⟩⟩

inductive DispatchLabel (Image : Type)
  | submit (item : AlertItem Image)
  | put (item : AlertItem Image)
  | full
  | evict (oldest : AlertItem Image)
  | empty
  | discard
  | take (item : AlertItem Image)
  | called (call : (op : DispatchCall Image) × DispatchAns op)
  | returned (item : AlertItem Image) (calls : DispatchTrace Image) (result : Except Exn Unit)

/-- `queue.task_done()`: the answer and the new count. -/
def finishTask : ℕ → Except Exn Unit × ℕ
  | 0 => (.error .valueError, 0)
  | n + 1 => (.ok (), n)

def queueFull {Image : Type} (queueSize : ℤ) (queue : List (AlertItem Image)) : Prop :=
  0 < queueSize ∧ queueSize ≤ queue.length

section Machine

variable {Image : Type} (queueSize : ℤ) (quality : ℕ) (s : AlertDispatcher Image)

inductive DispatchStep : DispatchLabel Image → AlertDispatcher Image → Prop
  | submit {item : AlertItem Image} : s.producer = .idle →
      DispatchStep (.submit item) { s with producer := .putting item }
  | put {item : AlertItem Image} : s.producer = .putting item → ¬ queueFull queueSize s.queue →
      DispatchStep (.put item)
        { s with queue := s.queue ++ [item], unfinished := s.unfinished + 1, producer := .idle }
  | full {item : AlertItem Image} : s.producer = .putting item → queueFull queueSize s.queue →
      DispatchStep .full { s with producer := .evicting item }
  | evict {item oldest : AlertItem Image} {rest : List (AlertItem Image)} :
      s.producer = .evicting item → s.queue = oldest :: rest →
      DispatchStep (.evict oldest) { s with queue := rest, producer := .discarding item }
  | empty {item : AlertItem Image} : s.producer = .evicting item → s.queue = [] →
      DispatchStep .empty { s with producer := .putting item }
  | discard {item : AlertItem Image} : s.producer = .discarding item →
      DispatchStep .discard
        { s with
          unfinished := (finishTask s.unfinished).2
          producer := if (finishTask s.unfinished).1.isOk then .putting item else .idle }
  | take {item : AlertItem Image} {rest : List (AlertItem Image)} {link : BrokerLink} :
      s.worker = .waiting link → s.queue = item :: rest →
      DispatchStep (.take item)
        { s with queue := rest, worker := .busy item [] ((workerBody quality item).start link) }
  | call {item : AlertItem Image} {past : DispatchTrace Image} {op : DispatchCall Image}
      {answer : DispatchAns op}
      {k : DispatchAns op → Prog (DispatchCall Image) DispatchAns (Except Exn Unit × BrokerLink)} :
      s.worker = .busy item past (.call op k) → op ≠ .taskDone →
      DispatchStep (.called ⟨op, answer⟩)
        { s with worker := .busy item (past ++ [⟨op, answer⟩]) (k answer) }
  | taskDone {item : AlertItem Image} {past : DispatchTrace Image}
      {k : Except Exn Unit → Prog (DispatchCall Image) DispatchAns (Except Exn Unit × BrokerLink)} :
      s.worker = .busy item past (.call .taskDone k) →
      DispatchStep (.called ⟨.taskDone, (finishTask s.unfinished).1⟩)
        { s with
          unfinished := (finishTask s.unfinished).2
          worker := .busy item (past ++ [⟨.taskDone, (finishTask s.unfinished).1⟩])
            (k (finishTask s.unfinished).1) }
  | returned {item : AlertItem Image} {past : DispatchTrace Image} {result : Except Exn Unit}
      {link : BrokerLink} : s.worker = .busy item past (.ret (result, link)) →
      DispatchStep (.returned item past result)
        { s with worker := if result.isOk then .waiting link else .dead }

end Machine

abbrev DispatchRun {Image : Type} (queueSize : ℤ) (quality : ℕ) :=
  Transition.Run (@DispatchStep Image queueSize quality) (AlertDispatcher.start Image)

end IntruderWatch
