import RegisterPlane.Log.Line
import RegisterPlane.Text.Utf8

/-!
The sink of a combined log. Senders put lines into a bounded queue and wait while it is full; one writer
takes them out, numbers them and writes each whole. The writer ends when the queue is empty and no
sender is left.
-/

namespace RegisterPlane

/-- A sink at work. For each sender that is left, `senders` holds the lines that it has still to send;
`count` is the number of the line written last. -/
structure Sink where
  senders : List (Option (List LogLine))
  queue : List LogLine := []
  count : Nat := 0
  written : List UInt8 := []
  returned : Option Nat := none
  deriving DecidableEq, Repr

namespace Sink

def capacity : Nat := 256

inductive Act where
  | send (sender : Nat)
  | leave (sender : Nat)
  | write
  | finish
  deriving DecidableEq, Repr

def start (programs : List (List LogLine)) : Sink := { senders := programs.map some }

/-- The sink after an act, unless it is not the time for it. -/
def step (sink : Sink) : Act → Option Sink
  | .send sender =>
    match sink.senders[sender]? with
    | some (some (line :: pending)) =>
      if sink.queue.length < capacity then
        some { sink with
          senders := sink.senders.set sender (some pending)
          queue := sink.queue ++ [line] }
      else none
    | _ => none
  | .leave sender =>
    match sink.senders[sender]? with
    | some (some []) => some { sink with senders := sink.senders.set sender none }
    | _ => none
  | .write =>
    match sink.queue with
    | line :: queue =>
      some { sink with
        queue := queue
        count := sink.count + 1
        written := sink.written ++ Text.Utf8.encode (line.render (sink.count + 1)) }
    | [] => none
  | .finish =>
    if sink.queue = [] ∧ (∀ sender ∈ sink.senders, sender = none) ∧ sink.returned = none then
      some { sink with returned := some sink.count }
    else none

def run (sink : Sink) : List Act → Option Sink
  | [] => some sink
  | act :: acts => do run (← sink.step act) acts

end Sink

end RegisterPlane
