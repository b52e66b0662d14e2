import IntruderWatch.Library.Interaction
import IntruderWatch.Library.PyInt

/-!
# Staggered start of a detector

The wait at the beginning of `consume_frames`. The number of the instance is guessed from the
hostname, or drawn by `random.randint`. `str.split` always returns a part, so that the index `-1`
raises no `IndexError`.
-/

namespace IntruderWatch
open Py Interaction

inductive StartCall
  | randint (low high : ℤ)
  | logInfo (text : Str)
  | sleep (seconds : ℤ)

def StartAns : StartCall → Type
  | .randint low high => {n : ℤ // low ≤ n ∧ n ≤ high}
  | _ => Unit

abbrev StartProc := Proc Unit StartCall StartAns Exn

namespace StaggeredStart

/-- `s.split(sep)[-1]`. -/
def lastPart (sep : CodePoint) (s : Str) : Str := (split sep s).getLast (split_ne_nil sep s)

def underscore : CodePoint := ofChar '_'

def hyphen : CodePoint := ofChar '-'

/-- `int` of the part after the last separator. -/
def partNumber (sep : CodePoint) (instanceId : Str) : StartProc ℤ :=
  evaluate ((parseInt (lastPart sep instanceId)).map Subtype.val)

/-- `except (ValueError, IndexError)`. -/
def orOnValueError (x y : StartProc ℤ) : StartProc ℤ :=
  tryCatch x (fun e => if e.isValueError then y else throw e)

def drawNumber : StartProc ℤ := do
  let n ← perform (StartCall.randint 1 5)
  pure n.val

def instanceNum (instanceId : Str) : StartProc ℤ :=
  orOnValueError (partNumber underscore instanceId)
    (orOnValueError (partNumber hyphen instanceId) drawNumber)

def initDelay (instanceId : Str) : StartProc ℤ := do
  let instanceNum ← instanceNum instanceId
  pure ((instanceNum - 1) * 3)

def logInfo (text : Str) : StartProc Unit := perform (StartCall.logInfo text)

def sleep (seconds : ℤ) : StartProc Unit := perform (StartCall.sleep seconds)

/-- `time.sleep`: the clock counts nanoseconds in 64 bits and does not run backwards. -/
def timeSleep (seconds : ℤ) : StartProc Unit :=
  if 2 ^ 63 ≤ seconds.natAbs * 10 ^ 9 then throw .overflowError
  else if seconds < 0 then throw .valueError
  else sleep seconds

/-- The beginning of `consume_frames`, up to the model. -/
def staggeredStart (instanceId : Str) : StartProc Unit := do
  let delay ← initDelay instanceId
  let text ← evaluate (intStr delay)
  logInfo (lit "Staggered start: Waiting " ++ text ++ lit "s to initialize GPU...")
  timeSleep delay

end StaggeredStart

end IntruderWatch
