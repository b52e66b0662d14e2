import IntruderWatch.Library.Runs
import IntruderWatch.Pipeline

/-!
# Broker and supervision loop

`broker.go` and the loops of `main` around an iteration: connecting with retries, the check of
`notifyClose`, the iterations of the capturer machine, shutdown. The worker's publishing depends on
the broker's channel, and the AMQP server closes channels and connections at any time. A connection
is numbered by its dial, and the program opens one channel on each.
-/

namespace IntruderWatch

/-- `Broker`; a `notifyClose` is known by its connection. -/
structure Broker where
  conn : Option ℕ
  ch : Option ℕ
  notifyClose : Option ℕ

/-- What has been dialled, and what of it is open. -/
structure Network where
  dialed : ℕ
  connectionOpen : ℕ → Bool
  channelOpen : ℕ → Bool

/-- How an attempt of `Connect` ends. -/
inductive DialOutcome
  | dialFailed
  | channelFailed
  | declareFailed
  | connected
deriving DecidableEq

/-- Where `main` is: before `Connect`, in its attempts, in the pause after it failed, at the broker
check, or in the rest of an iteration. -/
inductive Supervisor
  | outer
  | connecting (attempt : ℕ)
  | backoff
  | checking
  | iterating
  | stopped
deriving DecidableEq

structure Capturer where
  pipeline : Pipeline
  broker : Broker
  network : Network
  supervisor : Supervisor

inductive CapturerLabel
  | connect
  | dial (outcome : DialOutcome)
  | retry
  | check (leaves : Bool)
  | innerDone
  | iterate (e : PipelineEvent) (o : Observation)
  | worker (e : PipelineEvent) (o : Observation)
  | cancel
  | closeBroker
  | stop
  | channelClosed (n : ℕ)
  | connectionClosed (n : ℕ)

namespace Network

def start : Network := ⟨0, fun _ => false, fun _ => false⟩

variable (net : Network)

/-- A dial whose connection is closed again by a failing attempt. -/
def dialClosed : Network := { net with dialed := net.dialed + 1 }

def dialOpen : Network where
  dialed := net.dialed + 1
  connectionOpen := Function.update net.connectionOpen net.dialed true
  channelOpen := Function.update net.channelOpen net.dialed true

def closeChannel (n : ℕ) : Network :=
  { net with channelOpen := Function.update net.channelOpen n false }

/-- A connection takes its channel with it. -/
def closeConnection (n : ℕ) : Network :=
  { net with
    connectionOpen := Function.update net.connectionOpen n false
    channelOpen := Function.update net.channelOpen n false }

/-- The network after a failed attempt. -/
def afterFailure : DialOutcome → Network
  | .dialFailed => net
  | _ => net.dialClosed

end Network

namespace Capturer

def start (detector : MacroblockDetector) : Capturer :=
  ⟨Pipeline.start detector, ⟨none, none, none⟩, Network.start, .outer⟩

/-- The attempts of `Connect`. -/
def retries : ℕ := 15

variable (s : Capturer)

/-- `<-notifyClose` is ready: the connection behind it is closed. -/
def notified : Bool :=
  match s.broker.notifyClose with
  | some n => !s.network.connectionOpen n
  | none => false

def channelUp : Bool :=
  match s.broker.ch with
  | some n => s.network.channelOpen n
  | none => false

/-- `Connect` holds the mutex during all of its attempts. -/
def locked : Bool :=
  match s.supervisor with
  | .connecting _ => true
  | _ => false

/-- `Broker.Close`. -/
def closeBroker : Capturer :=
  { s with
    broker := { s.broker with conn := none, ch := none }
    network := match s.broker.conn with
      | some n => s.network.closeConnection n
      | none => s.network }

def resetDetector : Capturer :=
  { s with pipeline := { s.pipeline with loop := s.pipeline.loop.resetDetector } }

end Capturer

/-- The events of the ingestion loop within an iteration. -/
def isLoopEvent : PipelineEvent → Bool
  | .startError | .reset | .acquire _ _ | .readChunk _ | .readError | .frameRead | .judge | .submit
  | .mainRelease => true
  | _ => false

def isWorkerEvent : PipelineEvent → Bool
  | .workerReceive | .encodeByte | .encoded | .build | .published | .publishFailed _
  | .workerRelease | .workerStop => true
  | _ => false

/-- Publishing takes the mutex, and on a closed channel it fails. -/
def publishAllowed (s : Capturer) : PipelineEvent → Prop
  | .published => s.locked = false ∧ s.channelUp = true
  | .publishFailed delivered => s.locked = false ∧ (delivered = true → s.channelUp = true)
  | _ => True

/-- An iteration is over when the machine is back at its top. -/
def afterIteration : MainState → Supervisor
  | .top => .checking
  | _ => .iterating

inductive CapturerStep (cfg : Config) (enc : Encoders) (minInterval : Duration) (s : Capturer) :
    CapturerLabel → Capturer → Prop
  | connect : s.supervisor = .outer → s.pipeline.cancelled = false →
      CapturerStep cfg enc minInterval s .connect { s with supervisor := .connecting 1 }
  | connected {attempt : ℕ} : s.supervisor = .connecting attempt →
      CapturerStep cfg enc minInterval s (.dial .connected)
        { s with
          broker := ⟨some s.network.dialed, some s.network.dialed, some s.network.dialed⟩
          network := s.network.dialOpen
          supervisor := .checking }
  | dialFailed {attempt : ℕ} {outcome : DialOutcome} : s.supervisor = .connecting attempt →
      outcome ≠ .connected →
      CapturerStep cfg enc minInterval s (.dial outcome)
        { s with
          network := s.network.afterFailure outcome
          supervisor := if attempt < Capturer.retries then .connecting (attempt + 1) else .backoff }
  | retry : s.supervisor = .backoff →
      CapturerStep cfg enc minInterval s .retry { s with supervisor := .outer }
  | leave : s.supervisor = .checking → s.pipeline.cancelled = false → s.notified = true →
      CapturerStep cfg enc minInterval s (.check true) { s.resetDetector with supervisor := .outer }
  | stay : s.supervisor = .checking → s.pipeline.cancelled = false → s.notified = false →
      CapturerStep cfg enc minInterval s (.check false) { s with supervisor := .iterating }
  | innerDone : s.supervisor = .checking → s.pipeline.cancelled = true →
      CapturerStep cfg enc minInterval s .innerDone { s.resetDetector with supervisor := .outer }
  | iterate {e : PipelineEvent} {o : Observation} {p : Pipeline} : s.supervisor = .iterating →
      isLoopEvent e = true → s.pipeline.step cfg enc minInterval e = some (p, o) →
      CapturerStep cfg enc minInterval s (.iterate e o)
        { s with pipeline := p, supervisor := afterIteration p.main }
  | worker {e : PipelineEvent} {o : Observation} {p : Pipeline} : isWorkerEvent e = true →
      publishAllowed s e → s.pipeline.step cfg enc minInterval e = some (p, o) →
      CapturerStep cfg enc minInterval s (.worker e o) { s with pipeline := p }
  | cancel : CapturerStep cfg enc minInterval s .cancel
      { s with pipeline := { s.pipeline with cancelled := true } }
  | closeBroker : s.pipeline.cancelled = true → s.locked = false →
      CapturerStep cfg enc minInterval s .closeBroker s.closeBroker
  | stop : s.supervisor = .outer → s.pipeline.cancelled = true →
      CapturerStep cfg enc minInterval s .stop { s.closeBroker with supervisor := .stopped }
  | channelClosed {n : ℕ} : s.network.channelOpen n = true →
      CapturerStep cfg enc minInterval s (.channelClosed n)
        { s with network := s.network.closeChannel n }
  | connectionClosed {n : ℕ} : s.network.connectionOpen n = true →
      CapturerStep cfg enc minInterval s (.connectionClosed n)
        { s with network := s.network.closeConnection n }

abbrev CapturerRun (cfg : Config) (enc : Encoders) (minInterval : Duration)
    (detector : MacroblockDetector) :=
  Transition.Run (CapturerStep cfg enc minInterval) (Capturer.start detector)

end IntruderWatch
