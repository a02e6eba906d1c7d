import RegisterPlane.Group.Basic
import RegisterPlane.Group.State

/-!
The controller of a launched group. It launches the processes in order, runs until it is asked to stop, a
required process crashes or nothing is alive, and then drains: every process alive is asked to stop, and
after the grace period those still alive are forced to. What happens outside reaches it as events; each
event leads to a new state and to messages for processes.
-/

namespace RegisterPlane

structure Slot where
  process : ResolvedProcess
  state : ProcessState := .pending
  processId : Option Nat := none
  exitCode : Option Nat := none
  crash : Option CrashCause := none
  deriving DecidableEq

inductive StartOutcome where
  | started (processId : Nat)
  | refused (reason : String)
  deriving DecidableEq, Repr

structure ProcessExit where
  index : Nat
  status : Except String ExitStatus

inductive Event where
  /-- One turn of launching: whether a stop has been asked for by then, which exits have been reported,
  and how starting the next process goes, if that is tried. -/
  | turn (stop : Bool) (exits : List ProcessExit) (start : StartOutcome)
  | exited (exit : ProcessExit)
  | stopRequested
  | graceElapsed

structure StopMessage where
  index : Nat
  mode : StopMode
  deriving DecidableEq, Repr

structure ProcessReport where
  name : String
  required : Bool
  state : ProcessState
  processId : Option Nat
  exitCode : Option Nat
  error : Option String
  deriving DecidableEq, Repr

structure GroupReport where
  state : GroupState
  processes : List ProcessReport
  /-- How many lines went into the log; zero until the group has ended. -/
  logLines : Nat
  deriving DecidableEq, Repr

structure Controller where
  slots : List Slot
  state : GroupState := .loaded
  attempted : Nat := 0
  failed : Bool := false
  forced : Bool := false
  /-- What whoever follows the group has been told, from first to last. -/
  published : List GroupReport := []

namespace Slot

def refuse (s : Slot) (reason : String) : Slot :=
  { s with state := .crashed, crash := some (.launch s.process.name reason) }

def start (s : Slot) (processId : Nat) : Slot :=
  { s with state := .running, processId := some processId }

def attempt (s : Slot) : StartOutcome → Slot
  | .started processId => s.start processId
  | .refused reason => s.refuse reason

/-- The process is gone. Success, or any end after it was asked to stop, is a stop; the rest are
crashes. -/
def exit (s : Slot) : Except String ExitStatus → Slot
  | .error reason => { s with state := .crashed, crash := some (.wait reason) }
  | .ok status =>
    if s.state == .stopping || status.isSuccess then
      { s with state := .stopped, exitCode := status.code? }
    else
      { s with
        state := .crashed
        exitCode := status.code?
        crash := some (.exit s.process.name status) }

def fails (s : Slot) : Bool := s.state == .crashed && s.process.required

def askToStop (s : Slot) : Slot := if s.state.isAlive then { s with state := .stopping } else s

def report (s : Slot) : ProcessReport :=
  ⟨s.process.name, s.process.required, s.state, s.processId, s.exitCode,
    s.crash.map CrashCause.message⟩

end Slot

namespace Controller

def report (c : Controller) (logLines : Nat) : GroupReport :=
  ⟨c.state, c.slots.map Slot.report, logLines⟩

def publish (c : Controller) : Controller := { c with published := c.published ++ [c.report 0] }

def ofProcesses (processes : List ResolvedProcess) : Controller :=
  publish { slots := processes.map fun process => { process } }

def isAlive (c : Controller) : Bool := c.slots.any (·.state.isAlive)

def enter (c : Controller) (state : GroupState) : Controller := publish { c with state }

/-- Puts a slot in its place, and notes whether the group has failed with it. -/
def update (c : Controller) (index : Nat) (change : Slot → Slot) : Controller :=
  match c.slots[index]? with
  | none => c
  | some slot =>
    { c with slots := c.slots.set index (change slot), failed := c.failed || (change slot).fails }

def onExit (c : Controller) (e : ProcessExit) : Controller := c.update e.index (·.exit e.status)

/-- An exit taken note of at once; while launching, several are before anything is told. -/
def observe (c : Controller) (e : ProcessExit) : Controller := (c.onExit e).publish

def messages (c : Controller) (mode : StopMode) : List StopMessage :=
  (c.slots.zipIdx.filter fun (slot, _) => slot.state.isAlive).map fun (_, index) => ⟨index, mode⟩

def finishIfDone (c : Controller) : Controller :=
  if c.isAlive then c else c.enter (if c.failed then .failed else .terminated)

def askToStop (c : Controller) : Controller :=
  publish { c with slots := c.slots.map Slot.askToStop }

def drain (c : Controller) : Controller × List StopMessage :=
  ((c.enter .draining).askToStop.finishIfDone, c.messages .graceful)

def drainIfOver (c : Controller) : Controller × List StopMessage :=
  if c.failed || !c.isAlive then c.drain else (c, [])

def proceed (c : Controller) : Controller × List StopMessage :=
  if c.failed then c.drain
  else if c.attempted < c.slots.length then (c, [])
  else (c.enter .running).drainIfOver

def attempt (c : Controller) (start : StartOutcome) : Controller :=
  publish { c.update c.attempted (·.attempt start) with attempted := c.attempted + 1 }

def launch (c : Controller) : Controller × List StopMessage := (c.enter .launching).proceed

/-- One turn of launching: a stop comes first, then reported exits, and the next process is tried only if
neither ends the launch. -/
def turn (c : Controller) (stop : Bool) (exits : List ProcessExit) (start : StartOutcome) :
    Controller × List StopMessage :=
  if stop then c.drain
  else
    let c := exits.foldl onExit c
    if c.failed then c.drain else (c.attempt start).proceed

def force (c : Controller) : Controller × List StopMessage :=
  ({ c with forced := true }, c.messages .force)

/-- One event, where the group's state admits it. A stop asked for while draining changes nothing. -/
def step? (c : Controller) (e : Event) : Option (Controller × List StopMessage) :=
  match c.state, e with
  | .launching, .turn stop exits start => some (c.turn stop exits start)
  | .running, .exited exit => some (c.observe exit).drainIfOver
  | .running, .stopRequested => some c.drain
  | .draining, .exited exit => some ((c.observe exit).finishIfDone, [])
  | .draining, .stopRequested => some (c, [])
  | .draining, .graceElapsed => if c.forced then none else some c.force
  | _, _ => none

def run? (c : Controller) : List Event → Option (Controller × List StopMessage)
  | [] => some (c, [])
  | e :: events => do
    let (c, first) ← c.step? e
    let (c, later) ← run? c events
    return (c, first ++ later)

end Controller

end RegisterPlane
