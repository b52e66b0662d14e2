import IntruderWatch.Dispatcher
import IntruderWatch.Supervision

/-!
# The dispatcher and its connections

The alert dispatcher together with the connections that its worker opens. The broker closes channels
and connections between publishes and with a call that fails; a channel is numbered by its
connection, on which the worker opens no other.
-/

namespace IntruderWatch
open Py Interaction

namespace Network

variable (net : Network)

def dial : Network where
  dialed := net.dialed + 1
  connectionOpen := Function.update net.connectionOpen net.dialed true
  channelOpen := net.channelOpen

def openChannel (n : ℕ) : Network :=
  { net with channelOpen := Function.update net.channelOpen n true }

/-- Some channels and connections are closed. -/
inductive Closings : Network → Prop
  | none : Closings net
  | channel {net' : Network} (n : ℕ) : Closings net' → Closings (net'.closeChannel n)
  | connection {net' : Network} (n : ℕ) : Closings net' → Closings (net'.closeConnection n)

end Network

section Links

variable {Image : Type}

/-- Calls of the worker between publishes, and its pauses. -/
def betweenPublishes : DispatchCall Image → Prop
  | .makedirs _ | .imwrite _ _ _ | .sleep _ | .taskDone => True
  | _ => False

/-- A call on a connection or its channel that fails. -/
def answerFails : (op : DispatchCall Image) → DispatchAns op → Prop
  | .openChannel _, r => r.isOk = false
  | .queueDeclare _ _, r => r.isOk = false
  | .closeConnection _, r => r.isOk = false
  | .closeChannel _, r => r.isOk = false
  | .basicPublish _ _ _, r => r.isOk = false
  | _, _ => False

/-- A call of the worker and what becomes of its connections. -/
inductive LinkStep (net : Network) : (op : DispatchCall Image) × DispatchAns op → Network → Prop
  | dialed : LinkStep net ⟨.blockingConnection, Except.ok net.dialed⟩ net.dial
  | notDialed {e : Exn} : LinkStep net ⟨.blockingConnection, Except.error e⟩ net
  | channelOpened {n : ℕ} : net.connectionOpen n = true →
      LinkStep net ⟨.openChannel n, Except.ok n⟩ (net.openChannel n)
  | declared {n : ℕ} {queue : Str} : LinkStep net ⟨.queueDeclare n queue, Except.ok ()⟩ net
  | connectionIsClosed {n : ℕ} : LinkStep net ⟨.connectionIsClosed n, !net.connectionOpen n⟩ net
  | channelIsClosed {n : ℕ} : LinkStep net ⟨.channelIsClosed n, !net.channelOpen n⟩ net
  | connectionClosed {n : ℕ} :
      LinkStep net ⟨.closeConnection n, Except.ok ()⟩ (net.closeConnection n)
  | channelClosed {n : ℕ} : LinkStep net ⟨.closeChannel n, Except.ok ()⟩ (net.closeChannel n)
  | published {n : ℕ} {routingKey body : Str} :
      LinkStep net ⟨.basicPublish n routingKey body, Except.ok ()⟩ net
  | logged {attempt : ℕ} {error : Exn} : LinkStep net ⟨.logPublishFailed attempt error, ()⟩ net
  | failed {op : DispatchCall Image} {answer : DispatchAns op} {net' : Network} :
      answerFails op answer → net.Closings net' → LinkStep net ⟨op, answer⟩ net'
  | meanwhile {op : DispatchCall Image} {answer : DispatchAns op} {net' : Network} :
      betweenPublishes op → net.Closings net' → LinkStep net ⟨op, answer⟩ net'

structure LinkedDispatcher (Image : Type) where
  dispatcher : AlertDispatcher Image
  network : Network

def LinkedDispatcher.start (Image : Type) : LinkedDispatcher Image :=
  ⟨AlertDispatcher.start Image, Network.start⟩

inductive LinkedLabel (Image : Type)
  | step (label : DispatchLabel Image)
  | closings

def DispatchLabel.isCall : DispatchLabel Image → Bool
  | .called _ => true
  | _ => false

/-- The two threads with the broker, which closes what it likes while the worker waits. -/
inductive LinkedStep (queueSize : ℤ) (quality : ℕ) (s : LinkedDispatcher Image) :
    LinkedLabel Image → LinkedDispatcher Image → Prop
  | call {c : (op : DispatchCall Image) × DispatchAns op} {d : AlertDispatcher Image} {net : Network} :
      DispatchStep queueSize quality s.dispatcher (.called c) d → LinkStep s.network c net →
      LinkedStep queueSize quality s (.step (.called c)) ⟨d, net⟩
  | other {label : DispatchLabel Image} {d : AlertDispatcher Image} : label.isCall = false →
      DispatchStep queueSize quality s.dispatcher label d →
      LinkedStep queueSize quality s (.step label) ⟨d, s.network⟩
  | closings {link : BrokerLink} {net : Network} : s.dispatcher.worker = .waiting link →
      s.network.Closings net → LinkedStep queueSize quality s .closings ⟨s.dispatcher, net⟩

abbrev LinkedRun (queueSize : ℤ) (quality : ℕ) :=
  Transition.Run (@LinkedStep Image queueSize quality) (LinkedDispatcher.start Image)

end Links

end IntruderWatch
