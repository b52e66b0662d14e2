import IntruderWatch.Library.Interaction
import IntruderWatch.Supervision

/-!
# Connecting to the broker

`Broker.Connect` down to the calls of the AMQP library. Each of these answers with an error or not;
the errors of closing are dropped. In Go every `:=` declares variables of its own block, so the
loop has an `err` of the dial and an `err` of the two steps inside.
-/

namespace IntruderWatch
open Interaction

/-- The two settings that `Connect` reads. -/
structure BrokerConfig where
  rabbitMQURL : String
  queueName : String

inductive ConnectCall
  | dial (url : String) (heartbeat : Duration)
  | channel (conn : ℕ)
  | queueDeclare (ch : ℕ) (name : String)
  | notifyClose (conn : ℕ)
  | closeChannel (ch : ℕ)
  | closeConn (conn : ℕ)
  | sleep (d : Duration)

def ConnectAns : ConnectCall → Type
  | .dial _ _ => Except String ℕ
  | .channel _ => Except String ℕ
  | .queueDeclare _ _ => Except String Unit
  | .closeChannel _ => Option String
  | .closeConn _ => Option String
  | _ => Unit

abbrev ConnectTrace := Trace ConnectCall ConnectAns

abbrev ConnectProc := Proc Broker ConnectCall ConnectAns Empty

/-- The error that `Connect` returns; `%w` wraps `lastErr`, which may be nil. -/
structure ConnectError where
  attempts : ℕ
  wrapped : Option String
deriving DecidableEq

def ConnectError.text (e : ConnectError) : String :=
  "failed to connect to RabbitMQ after " ++ toString e.attempts ++ " attempts: " ++
    e.wrapped.getD "%!w(<nil>)"

/-- How the loop body ends: in `return nil`, or with the `err` that becomes `lastErr`. -/
inductive AttemptResult
  | connected
  | failed (err : Option String)

namespace Broker

def second : Duration := 1000000000

variable (cfg : BrokerConfig)

/-- The steps behind a dial; whether all of them succeed. -/
def openOn (conn : ℕ) : ConnectProc Bool := do
  match ← perform (ConnectCall.channel conn) with
  | .error _ => pure false
  | .ok ch =>
    match ← perform (ConnectCall.queueDeclare ch cfg.queueName) with
    | .ok _ => do
      modify (fun b => { b with conn := some conn })
      modify (fun b => { b with ch := some ch })
      modify (fun b => { b with notifyClose := some conn })
      perform (ConnectCall.notifyClose conn)
      pure true
    | .error _ => do
      let _ ← perform (ConnectCall.closeChannel ch)
      pure false

def connectAttempt : ConnectProc AttemptResult := do
  match ← perform (ConnectCall.dial cfg.rabbitMQURL (60 * second)) with
  | .error err => pure (.failed (some err))
  | .ok conn =>
    -- the outer `err` is nil from here on
    if ← openOn cfg conn then pure .connected
    else
      let _ ← perform (ConnectCall.closeConn conn)
      pure (.failed none)

/-- The attempts of the loop, with `left` of them to go. -/
def connectAttempts (retries : ℕ) (lastErr : Option String) : ℕ → ConnectProc (Option ConnectError)
  | 0 => pure (some ⟨retries, lastErr⟩)
  | left + 1 => do
    match ← connectAttempt cfg with
    | .connected => pure none
    | .failed err => do
      perform (ConnectCall.sleep (5 * second))
      connectAttempts retries err left

def connect : ConnectProc (Option ConnectError) :=
  connectAttempts cfg Capturer.retries none Capturer.retries

end Broker

end IntruderWatch
