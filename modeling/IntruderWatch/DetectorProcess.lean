import IntruderWatch.AlertService
import IntruderWatch.Detector
import IntruderWatch.StaggeredStart

/-!
# Process of a detector

`consume_frames` from its beginning to its end, beside the memory manager and the health endpoint, which
read `DetectionState` in threads of their own. These are daemons: they go on as long as the consumer does.
A statement that reads the clock and the state takes two steps, with those of other threads in between.
-/

namespace IntruderWatch
open Py Interaction

/-- What the threads share of `DetectionState`. -/
structure SharedState where
  lastFrameTime : WallTime
  isReady : Bool

/-! ### Health endpoint -/

structure HealthAnswer where
  status : ℕ
  body : Str

/-- `wsgi_app`; other paths are left to the application of Prometheus. -/
def wsgiApp (path : Str) (state : SharedState) : Option HealthAnswer :=
  if path = lit "/healthz" ∨ path = lit "/health" then
    if state.isReady then some ⟨200, lit "OK\n"⟩ else some ⟨503, lit "INITIALIZING\n"⟩
  else none

/-! ### Memory manager -/

/-- The thread of `memory_manager`: it sleeps, or has read the clock. -/
inductive MemoryManager
  | absent
  | sleeping (parked : Bool)
  | measuring (parked : Bool) (now : WallTime)

/-- `idle_duration > 300`. -/
def idle (now lastFrameTime : WallTime) : Bool := (now.elapsed lastFrameTime).gtInt 300

/-! ### Consumer -/

/-- Where `consume_frames` stands. -/
inductive ConsumerPhase
  | starting
  | delayed
  | loading
  | connecting
  | linked (connection channel : ℕ)
  | tuned (connection channel : ℕ)
  | prepared (connection channel : ℕ)
  | subscribing (connection channel : ℕ)
  | consuming (connection : ℕ)
  | stamping (connection : ℕ) (body : List UInt8) (now : WallTime)
  | handling (connection : ℕ) (body : List UInt8)
  | stopping (connection : ℕ)
  | closing (connection : ℕ)
  | ended (result : Except Exn Unit)

namespace ConsumerPhase

/-- Outside the `try` statement an exception ends the function. -/
def proceed {α : Type} (next : α → ConsumerPhase) : Except Exn α → ConsumerPhase
  | .ok a => next a
  | .error e => .ended (.error e)

/-- Inside of it an exception is logged. -/
def proceedOrStop (connection : ℕ) (next : ConsumerPhase) : Except Exn Unit → ConsumerPhase
  | .ok _ => next
  | .error _ => .stopping connection

def isEnded : ConsumerPhase → Bool
  | .ended _ => true
  | _ => false

end ConsumerPhase

structure DetectorProcess where
  shared : SharedState
  detector : DetectorState
  consumer : ConsumerPhase
  manager : MemoryManager

/-- `DetectionState()` reads the clock. -/
def DetectorProcess.start (now : WallTime) : DetectorProcess :=
  ⟨⟨now, false⟩, .start, .starting, .absent⟩

inductive LifeLabel (Image : Type)
  | delayed (calls : Trace StartCall StartAns) (result : Except Exn Unit)
  | managerStarted
  | modelLoaded (answer : Except Exn Unit)
  | connected (calls : DispatchTrace Image) (result : Except Exn (ℕ × ℕ))
  | basicQos (channel : ℕ) (answer : Except Exn Unit)
  | ready
  | captures (present : Bool) (answer : Except Exn Unit)
  | basicConsume (channel : ℕ) (answer : Except Exn Unit)
  | arrived (body : List UInt8) (now : WallTime)
  | stamped
  | handled (calls : DetectTrace Image) (result : Except Exn Unit)
  | consumed (answer : Except Exn Unit)
  | unready
  | closed (connection : ℕ) (answer : Except Exn Unit)
  | measured (now : WallTime)
  | checked (collected : Bool)
  | probed (path : Str) (answer : Option HealthAnswer)

def frameQueue : Str := lit "frame_queue"

section Machine

variable {Image : Type} (env : DetectorEnv Image) (p : DetectorProcess)

inductive LifeStep : LifeLabel Image → DetectorProcess → Prop
  | delayed {calls : Trace StartCall StartAns} {result : Except Exn Unit} : p.consumer = .starting →
      Exec (StaggeredStart.staggeredStart env.instanceId) () calls result () →
      LifeStep (.delayed calls result) { p with consumer := .proceed (fun _ => .delayed) result }
  | managerStarted : p.consumer = .delayed →
      LifeStep .managerStarted { p with consumer := .loading, manager := .sleeping false }
  | modelLoaded {answer : Except Exn Unit} : p.consumer = .loading →
      LifeStep (.modelLoaded answer) { p with consumer := .proceed (fun _ => .connecting) answer }
  | connected {calls : DispatchTrace Image} {result : Except Exn (ℕ × ℕ)} {link : BrokerLink} :
      p.consumer = .connecting →
      Exec (connectRabbitmq [frameQueue, alertQueue]) ⟨none, none⟩ calls result link →
      LifeStep (.connected calls result)
        { p with consumer := .proceed (fun pair => .linked pair.1 pair.2) result }
  | basicQos {connection channel : ℕ} {answer : Except Exn Unit} :
      p.consumer = .linked connection channel →
      LifeStep (.basicQos channel answer)
        { p with consumer := .proceed (fun _ => .tuned connection channel) answer }
  | ready {connection channel : ℕ} : p.consumer = .tuned connection channel →
      LifeStep .ready
        { p with
          shared := { p.shared with isReady := true }
          consumer := .prepared connection channel }
  | captures {connection channel : ℕ} {present : Bool} {answer : Except Exn Unit} :
      p.consumer = .prepared connection channel → (present = true → answer = .ok ()) →
      LifeStep (.captures present answer)
        { p with consumer := .proceed (fun _ => .subscribing connection channel) answer }
  | basicConsume {connection channel : ℕ} {answer : Except Exn Unit} :
      p.consumer = .subscribing connection channel →
      LifeStep (.basicConsume channel answer)
        { p with consumer := .proceedOrStop connection (.consuming connection) answer }
  | arrived {connection : ℕ} {body : List UInt8} {now : WallTime} :
      p.consumer = .consuming connection →
      LifeStep (.arrived body now) { p with consumer := .stamping connection body now }
  | stamped {connection : ℕ} {body : List UInt8} {now : WallTime} :
      p.consumer = .stamping connection body now →
      LifeStep .stamped
        { p with
          shared := { p.shared with lastFrameTime := now }
          consumer := .handling connection body }
  | handled {connection : ℕ} {body : List UInt8} {calls : DetectTrace Image}
      {result : Except Exn Unit} {detector : DetectorState} :
      p.consumer = .handling connection body →
      Exec (env.callback body) p.detector calls result detector →
      LifeStep (.handled calls result)
        { p with
          detector := detector
          consumer := .proceedOrStop connection (.consuming connection) result }
  | consumed {connection : ℕ} {answer : Except Exn Unit} : p.consumer = .consuming connection →
      LifeStep (.consumed answer) { p with consumer := .stopping connection }
  | unready {connection : ℕ} : p.consumer = .stopping connection →
      LifeStep .unready
        { p with shared := { p.shared with isReady := false }, consumer := .closing connection }
  | closed {connection : ℕ} {answer : Except Exn Unit} : p.consumer = .closing connection →
      LifeStep (.closed connection answer) { p with consumer := .ended (.ok ()) }
  | measured {parked : Bool} {now : WallTime} : p.consumer.isEnded = false →
      p.manager = .sleeping parked →
      LifeStep (.measured now) { p with manager := .measuring parked now }
  | checked {parked : Bool} {now : WallTime} : p.consumer.isEnded = false →
      p.manager = .measuring parked now →
      LifeStep (.checked (idle now p.shared.lastFrameTime && !parked))
        { p with manager := .sleeping (idle now p.shared.lastFrameTime) }
  | probed {path : Str} : p.consumer.isEnded = false →
      LifeStep (.probed path (wsgiApp path p.shared)) p

end Machine

abbrev LifeRun {Image : Type} (env : DetectorEnv Image) (now : WallTime) :=
  Transition.Run (LifeStep env) (DetectorProcess.start now)

end IntruderWatch
