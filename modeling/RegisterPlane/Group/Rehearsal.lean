import RegisterPlane.Group.Controller
import RegisterPlane.Log.Pump
import RegisterPlane.Program.Start

/-!
A rehearsal of a group: its processes are run by the interpreter of programs in simulated time, under the
controller, with their output going into the combined log. Time passes only while every process pauses,
so that a rehearsal always goes the same way.
-/

namespace RegisterPlane

inductive StopPlan where
  | never
  | beforeLaunch
  | afterLines (count : Nat)
  | whenRunning
  | afterCrashOf (process : String)
  deriving DecidableEq, Repr

structure Actor where
  index : Nat
  shell : Program.Shell
  resumeAt : Nat
  out : Pump := {}
  err : Pump := {}

structure Rehearsal where
  controller : Controller
  plan : StopPlan
  gracePeriod : Nat
  log : Log
  actors : List Actor := []
  now : Nat := 0
  askedIn : Option GroupState := none
  deadline : Option Nat := none

namespace Rehearsal

def stepTime : Nat := 1000

def innerSteps : Nat := 100000

def stepLimit : Nat := 1000000

def processIdOf (index : Nat) : Nat := 1000 * (index + 1)

def deliver (r : Rehearsal) (m : StopMessage) : Rehearsal :=
  let signal := match m.mode with
    | .graceful => Program.termSignal
    | .force => Program.killSignal
  { r with actors := r.actors.map fun actor =>
      if actor.index == m.index then
        let shell := actor.shell.receive signal
        let woken := shell.ended.isSome || (shell.interruptible && !shell.signals.isEmpty)
        { actor with shell, resumeAt := if woken then r.now else actor.resumeAt }
      else actor }

def settle (r : Rehearsal) (answer : Controller × List StopMessage) : Rehearsal :=
  let (controller, messages) := answer
  let r := { r with
    controller
    deadline :=
      if controller.state == .draining && r.deadline.isNone then some (r.now + r.gracePeriod)
      else r.deadline }
  messages.foldl deliver r

def feed (r : Rehearsal) (e : Event) : Rehearsal :=
  match r.controller.step? e with
  | some answer => r.settle answer
  | none => r

def isDue (r : Rehearsal) : Bool :=
  r.askedIn.isNone &&
    match r.plan with
    | .never | .beforeLaunch => false
    | .afterLines count => count ≤ r.log.lines.length
    | .whenRunning => r.controller.state == .running
    | .afterCrashOf name =>
      r.controller.state == .running &&
        r.controller.slots.any fun slot => slot.process.name == name && slot.state == .crashed

def nameOf (r : Rehearsal) (index : Nat) : String :=
  ((r.controller.slots[index]?).map (·.process.name)).getD ""

def sendLine (process : String) (stream : Stream) (log : Log) (text : String) : Bool × Log :=
  log.send ⟨process, stream, text⟩

def pumpWritten (process : String) (actor : Actor) (log : Log) :
    List (Stream × List UInt8) → Actor × Log
  | [] => (actor, log)
  | (stream, octets) :: rest =>
    match stream with
    | .stdout =>
      let (out, log) := actor.out.read (sendLine process .stdout) log octets
      pumpWritten process { actor with out } log rest
    | .stderr =>
      let (err, log) := actor.err.read (sendLine process .stderr) log octets
      pumpWritten process { actor with err } log rest

def pumpRest (process : String) (actor : Actor) (log : Log) : Log :=
  let (_, log) := actor.out.finish (sendLine process .stdout) log
  (actor.err.finish (sendLine process .stderr) log).2

def nextActor? (r : Rehearsal) : Option Actor :=
  r.actors.foldl (fun (best : Option Actor) actor =>
    match best with
    | none => some actor
    | some b => if actor.resumeAt < b.resumeAt then some actor else some b) none

def advance (r : Rehearsal) (actor : Actor) : Rehearsal :=
  let now := max r.now actor.resumeAt
  let process := r.nameOf actor.index
  let fresh := { actor.shell with now, written := [], pause := 0 }
  let shell := if fresh.ended.isSome then fresh else fresh.step innerSteps
  let (stepped, log) := pumpWritten process { actor with shell } r.log shell.written
  let others := r.actors.filter (·.index != actor.index)
  match shell.ended with
  | some status =>
    { r with now, log := pumpRest process stepped log, actors := others }.feed
      (.exited ⟨actor.index, .ok status⟩)
  | none =>
    { r with
      now
      log
      actors := r.actors.map fun other =>
        if other.index == actor.index then
          { stepped with resumeAt := now + stepTime + shell.pause }
        else other }

/-- What happens next: the group is asked to stop, the grace period elapses, or a process goes on. -/
def step (r : Rehearsal) : Rehearsal :=
  if r.isDue then { r with askedIn := some r.controller.state }.feed .stopRequested
  else
    match r.nextActor?, r.deadline with
    | some actor, some deadline =>
      if !r.controller.forced && deadline ≤ actor.resumeAt then
        { r with now := max r.now deadline }.feed .graceElapsed
      else r.advance actor
    | some actor, none => r.advance actor
    | none, _ => r

def tryStart (r : Rehearsal) (around : Program.Surroundings) (index : Nat) (p : ResolvedProcess) :
    Rehearsal :=
  if r.plan == .beforeLaunch then r.feed (.turn true [] (.refused ""))
  else
    let id := processIdOf index
    match Program.start around id p with
    | .ok shell =>
      { r with actors := r.actors ++ [({ index, shell, resumeAt := r.now } : Actor)] }.feed
        (.turn false [] (.started id))
    | .error reason => r.feed (.turn false [] (.refused reason))

def launchFrom (around : Program.Surroundings) (r : Rehearsal) (index : Nat) :
    List ResolvedProcess → Rehearsal
  | [] => r
  | p :: rest =>
    if r.controller.state == .launching then
      launchFrom around (r.tryStart around index p) (index + 1) rest
    else r

def run : Nat → Rehearsal → Rehearsal
  | 0, r => r
  | steps + 1, r => if r.controller.state.isTerminal then r else run steps r.step

def ofGroup (around : Program.Surroundings) (processes : List ResolvedProcess) (gracePeriod : Nat)
    (plan : StopPlan) (log : Log) : Rehearsal :=
  let r : Rehearsal := { controller := .ofProcesses processes, plan, gracePeriod, log }
  run stepLimit (launchFrom around (r.settle r.controller.launch) 0 processes)

def report (r : Rehearsal) : GroupReport := r.controller.report r.log.lines.length

end Rehearsal

end RegisterPlane
