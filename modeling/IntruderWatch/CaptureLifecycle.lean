import IntruderWatch.Health
import IntruderWatch.Library.Monitor

/-!
# The capture process and its two goroutines

`Start`, `Stop` and the two critical sections of `ReadFrame` over the fields that `mu` guards, down
to the calls that open the pipe and spawn, kill and wait for the process; and the goroutines that
call them, the loops of `main` and its signal handler. Conditions that `main` reads elsewhere (the
broker, the schedule, the frame) come out either way.
-/

namespace IntruderWatch
open Interaction

/-! ### The fields under the mutex -/

/-- `exec.Cmd`; its `Start` sets `Process`. -/
structure Cmd where
  process : Option ℕ
deriving DecidableEq

structure GuardedCapturer where
  cmd : Option Cmd
  stdout : Option ℕ
  isRunning : Bool
  lastFrameTime : Time
deriving DecidableEq

def GuardedCapturer.new : GuardedCapturer := ⟨none, none, false, 0⟩

/-- Pipes and processes are numbered by the system; `cmd.Start` spawns. -/
inductive ProcessCall
  | stdoutPipe
  | startCmd
  | closePipe (pipe : ℕ)
  | kill (process : ℕ)
  | wait (process : ℕ)
  | now
deriving DecidableEq

def ProcessAns : ProcessCall → Type
  | .stdoutPipe => Except String ℕ
  | .startCmd => Except String ℕ
  | .now => Clock
  | _ => Option String

abbrev ProcessTrace := Trace ProcessCall ProcessAns

abbrev CaptureProc := Proc GuardedCapturer ProcessCall ProcessAns Empty

abbrev stdoutPipe : CaptureProc (Except String ℕ) := perform ProcessCall.stdoutPipe

abbrev startCmd : CaptureProc (Except String ℕ) := perform ProcessCall.startCmd

abbrev closePipe (pipe : ℕ) : CaptureProc (Option String) := perform (ProcessCall.closePipe pipe)

abbrev kill (process : ℕ) : CaptureProc (Option String) := perform (ProcessCall.kill process)

abbrev wait (process : ℕ) : CaptureProc (Option String) := perform (ProcessCall.wait process)

abbrev timeNow : CaptureProc Clock := perform ProcessCall.now

namespace GuardedCapturer

/-! ### Critical sections -/

def start : CaptureProc (Option StartError) := do
  let c ← get
  if c.isRunning then pure none
  else
    match ← stdoutPipe with
    | .error err => pure (some (.pipe err))
    | .ok stdout =>
      match ← startCmd with
      | .error err => do
        let _ ← closePipe stdout
        pure (some (.spawn err))
      | .ok process => do
        modify (fun c => { c with cmd := some ⟨some process⟩ })
        modify (fun c => { c with stdout := some stdout })
        modify (fun c => { c with isRunning := true })
        let now ← timeNow
        modify (fun c => { c with lastFrameTime := now })
        pure none

/-- The first section of `ReadFrame`. -/
def currentStdout : CaptureProc (Option ℕ) := do
  let c ← get
  pure c.stdout

/-- The section of `ReadFrame` after a complete frame. -/
def stampFrame : CaptureProc Unit := do
  let now ← timeNow
  modify (fun c => { c with lastFrameTime := now })

def closeStdout : CaptureProc Unit := do
  match (← get).stdout with
  | none => pure ()
  | some stdout => do
    let _ ← closePipe stdout
    modify (fun c => { c with stdout := none })

def reapCmd : CaptureProc Unit := do
  match (← get).cmd with
  | some ⟨some process⟩ => do
    let _ ← kill process
    let _ ← wait process
    modify (fun c => { c with cmd := none })
  | _ => pure ()

def stop : CaptureProc Unit := do
  let c ← get
  if !c.isRunning then pure ()
  else
    closeStdout
    reapCmd
    modify (fun c => { c with isRunning := false })

end GuardedCapturer

/-! ### The goroutines -/

inductive Goroutine
  | main
  | signal
deriving DecidableEq

/-- The calls of `Stop` in `main`. -/
inductive StopPlace
  | brokerLost
  | readFailed
  | outsideSchedule
  | innerDone
  | final
deriving DecidableEq

/-- Where `main` is: at the head of a loop, before or in a call, or between two calls. -/
inductive MainPoint
  | outer
  | connecting
  | backoff
  | inner
  | checking
  | scheduling
  | starting
  | startFailed
  | openingFrame
  | reading (stdout : ℕ)
  | stamping
  | readFailed
  | frameRead
  | stopping (place : StopPlace)
  | pausing
  | closing
  | returned
deriving DecidableEq

/-- The goroutine that waits for a signal. -/
inductive SignalPoint
  | waiting
  | stopping
  | closing
  | returned
deriving DecidableEq

structure Goroutines where
  main : MainPoint
  signal : SignalPoint
  cancelled : Bool

def Goroutines.start : Goroutines := ⟨.outer, .waiting, false⟩

/-- What a goroutine does outside of the capturer. -/
inductive GoroutineAction
  | testContext
  | connect (err : Option String)
  | pause
  | checkBroker (lost : Bool)
  | checkSchedule (within : Bool)
  | readFull (err : Option String)
  | releaseFrame
  | processFrame
  | cancel
  | closeBroker

/-- Where `main` goes after `Stop`. -/
def StopPlace.next : StopPlace → MainPoint
  | .brokerLost => .stopping .innerDone
  | .readFailed => .pausing
  | .outsideSchedule => .pausing
  | .innerDone => .outer
  | .final => .closing

inductive MainStep (cancelled : Bool) : MainPoint → GoroutineAction → MainPoint → Prop
  | outer : MainStep cancelled .outer .testContext
      (if cancelled then .stopping .final else .connecting)
  | connected : MainStep cancelled .connecting (.connect none) .inner
  | notConnected {err : String} : MainStep cancelled .connecting (.connect (some err)) .backoff
  | retry : MainStep cancelled .backoff .pause .outer
  | inner : MainStep cancelled .inner .testContext
      (if cancelled then .stopping .innerDone else .checking)
  | check {lost : Bool} : MainStep cancelled .checking (.checkBroker lost)
      (if lost then .stopping .brokerLost else .scheduling)
  | schedule {within : Bool} : MainStep cancelled .scheduling (.checkSchedule within)
      (if within then .starting else .stopping .outsideSchedule)
  | startFailed : MainStep cancelled .startFailed .pause .inner
  | readFull {stdout : ℕ} : MainStep cancelled (.reading stdout) (.readFull none) .stamping
  | readError {stdout : ℕ} {err : String} :
      MainStep cancelled (.reading stdout) (.readFull (some err)) .readFailed
  | release : MainStep cancelled .readFailed .releaseFrame (.stopping .readFailed)
  | frame : MainStep cancelled .frameRead .processFrame .inner
  | pause : MainStep cancelled .pausing .pause .inner
  | close : MainStep cancelled .closing .closeBroker .returned

inductive SignalStep : SignalPoint → GoroutineAction → SignalPoint → Prop
  | cancel : SignalStep .waiting .cancel .stopping
  | close : SignalStep .closing .closeBroker .returned

inductive GoroutineStep (g : Goroutines) : Goroutine → GoroutineAction → Goroutines → Prop
  | main {a : GoroutineAction} {p : MainPoint} : MainStep g.cancelled g.main a p →
      GoroutineStep g .main a { g with main := p }
  | signal {a : GoroutineAction} {p : SignalPoint} : SignalStep g.signal a p →
      GoroutineStep g .signal a { g with signal := p, cancelled := true }

inductive CaptureMethod
  | start
  | currentStdout
  | stampFrame
  | stop

def CaptureMethod.Result : CaptureMethod → Type
  | .start => Option StartError
  | .currentStdout => Option ℕ
  | _ => Unit

def CaptureMethod.body : (m : CaptureMethod) → CaptureProc m.Result
  | .start => GuardedCapturer.start
  | .currentStdout => GuardedCapturer.currentStdout
  | .stampFrame => GuardedCapturer.stampFrame
  | .stop => GuardedCapturer.stop

inductive CaptureCalls (g : Goroutines) : Goroutine → CaptureMethod → Prop
  | start : g.main = .starting → CaptureCalls g .main .start
  | currentStdout : g.main = .openingFrame → CaptureCalls g .main .currentStdout
  | stampFrame : g.main = .stamping → CaptureCalls g .main .stampFrame
  | stop {place : StopPlace} : g.main = .stopping place → CaptureCalls g .main .stop
  | signalStop : g.signal = .stopping → CaptureCalls g .signal .stop

inductive CaptureReturns (g : Goroutines) :
    Goroutine → (m : CaptureMethod) → m.Result → Goroutines → Prop
  | started : g.main = .starting →
      CaptureReturns g .main .start none { g with main := .openingFrame }
  | startFailed {err : StartError} : g.main = .starting →
      CaptureReturns g .main .start (some err) { g with main := .startFailed }
  | noStdout : g.main = .openingFrame →
      CaptureReturns g .main .currentStdout none { g with main := .readFailed }
  | stdout {pipe : ℕ} : g.main = .openingFrame →
      CaptureReturns g .main .currentStdout (some pipe) { g with main := .reading pipe }
  | stamped : g.main = .stamping →
      CaptureReturns g .main .stampFrame () { g with main := .frameRead }
  | stopped {place : StopPlace} : g.main = .stopping place →
      CaptureReturns g .main .stop () { g with main := place.next }
  | signalStopped : g.signal = .stopping →
      CaptureReturns g .signal .stop () { g with signal := .closing }

def captureSystem :
    Monitor.System Goroutines Goroutine GoroutineAction GuardedCapturer ProcessCall ProcessAns where
  Method := CaptureMethod
  Result := CaptureMethod.Result
  body := CaptureMethod.body
  own := GoroutineStep
  calls := CaptureCalls
  returns := CaptureReturns

abbrev CaptureRun := Monitor.Run captureSystem Goroutines.start GuardedCapturer.new

/-! ### Processes -/

/-- A started process; `killed` once `Kill` was called for it. -/
structure StartedProcess where
  process : ℕ
  killed : Bool
deriving DecidableEq

def StartedProcess.after (ps : List StartedProcess) :
    (op : ProcessCall) × ProcessAns op → List StartedProcess
  | ⟨.startCmd, .ok process⟩ => ps ++ [⟨process, false⟩]
  | ⟨.kill process, _⟩ => ps.map (fun p => if p.process = process then { p with killed := true } else p)
  | ⟨.wait process, _⟩ => ps.filter (fun p => !(decide (p.process = process) && p.killed))
  | _ => ps

/-- The processes started so far that have not been killed and waited for. -/
def liveProcesses (t : ProcessTrace) : List StartedProcess := t.foldl StartedProcess.after []

end IntruderWatch
