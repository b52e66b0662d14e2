import IntruderWatch.AlertService
import IntruderWatch.Library.PyOps

/-!
# Voice calls of the alert service

The thread that the callback starts for a voice alert: `_dispatch_calls` over `ALERT_RECIPIENTS`, with
`send_call_alert` for each number. What is logged and counted carries the position of a number in the
configuration.
-/

namespace IntruderWatch
open Py Interaction

/-- The calls of a caller thread; the log lines carry their fields. -/
inductive CallerCall
  | callsCreate (url recipient : Str) (sender : Option Str)
  | logSent (destination : Str)
  | notificationsSent (destination : Str)
  | logFailed (destination : Str) (error : Exn)
  | notificationErrors (destination : Str) (error : Exn)

def CallerAns : CallerCall → Type
  | .callsCreate _ _ _ => Except Exn Unit
  | _ => Unit

abbrev CallerProc := Proc Unit CallerCall CallerAns Exn

abbrev CallerTrace := Trace CallerCall CallerAns

def callsCreate (url recipient : Str) (sender : Option Str) : CallerProc (Except Exn Unit) :=
  perform (CallerCall.callsCreate url recipient sender)

def logSent (destination : Str) : CallerProc Unit := perform (CallerCall.logSent destination)

def notificationsSent (destination : Str) : CallerProc Unit :=
  perform (CallerCall.notificationsSent destination)

def logFailed (destination : Str) (error : Exn) : CallerProc Unit :=
  perform (CallerCall.logFailed destination error)

def notificationErrors (destination : Str) (error : Exn) : CallerProc Unit :=
  perform (CallerCall.notificationErrors destination error)

/-- `ALERT_RECIPIENTS` and `TWILIO_FROM`. -/
structure CallerEnv where
  alertRecipients : Str
  twilioFrom : Option Str

/-- `xs.index(x)`. -/
def indexOf (xs : List Str) (x : Str) : Except Exn ℕ :=
  if xs.idxOf x < xs.length then .ok (xs.idxOf x) else .error .valueError

namespace CallerEnv

def voiceUrl : Str := lit "http://demo.twilio.com/docs/voice.xml"

def recipientColon : CodePoint := ofChar ':'

def phone (phoneIdx : ℕ) : Str := lit "phone_" ++ decimal (phoneIdx + 1 : ℕ)

variable (env : CallerEnv)

def recipientList : List Str :=
  ((split recipientColon env.alertRecipients).filter (fun num => strip num ≠ [])).map strip

def phoneId (recipient : Str) : CallerProc Str :=
  tryCatch (do
    let phoneIdx ← evaluate (indexOf env.recipientList recipient)
    pure (phone phoneIdx))
    (fun e => if e.isValueError then pure (lit "configured_phone") else throw e)

def sendCallAlert (recipient : Str) : CallerProc Unit := do
  let phoneId ← env.phoneId recipient
  tryCatch (do
    let reply ← callsCreate voiceUrl recipient env.twilioFrom
    evaluate reply
    logSent phoneId
    notificationsSent phoneId)
    (fun e => do
      logFailed phoneId e
      notificationErrors phoneId e)

/-- The loop over the parts of the setting. -/
def callEach : List Str → CallerProc Unit
  | [] => pure ()
  | recipient :: recipients => do
    if strip recipient ≠ [] then env.sendCallAlert (strip recipient)
    callEach recipients

/-- `_dispatch_calls(twilio_client, ALERT_RECIPIENTS)`. -/
def dispatchCalls : CallerProc Unit :=
  env.callEach (split recipientColon env.alertRecipients)

end CallerEnv

end IntruderWatch
