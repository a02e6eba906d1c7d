import RegisterPlane.Log.Line
import RegisterPlane.Text.Lines
import RegisterPlane.Text.Utf8

namespace RegisterPlane

def lineText (line : List UInt8) : String := String.ofList (Text.Utf8.decode line)

def outputTexts (output : List UInt8) : List String := (Text.lines 10 13 output).map lineText

/-- The progress of reading one output: the octets after the last line end, and whether lines are still
handed on. -/
structure Pump where
  pending : List UInt8 := []
  forwarding : Bool := true
  deriving DecidableEq, Repr

namespace Pump

variable {σ : Type}

def forward (send : σ → String → Bool × σ) : Bool → σ → List String → Bool × σ
  | forwarding, sink, [] => (forwarding, sink)
  | false, sink, _ => (false, sink)
  | true, sink, text :: texts =>
    let (taken, sink') := send sink text
    forward send taken sink' texts

def read (send : σ → String → Bool × σ) (p : Pump) (sink : σ) (chunk : List UInt8) : Pump × σ :=
  let (lines, rest) := Text.cutLines 10 (p.pending ++ chunk)
  let (forwarding, sink') :=
    forward send p.forwarding sink (lines.map fun line => lineText (Text.dropReturn 13 line))
  (⟨rest, forwarding⟩, sink')

def finish (send : σ → String → Bool × σ) (p : Pump) (sink : σ) : Pump × σ :=
  let texts := if p.pending = [] then [] else [lineText p.pending]
  let (forwarding, sink') := forward send p.forwarding sink texts
  (⟨[], forwarding⟩, sink')

def run (send : σ → String → Bool × σ) (p : Pump) (sink : σ) : List (List UInt8) → Pump × σ
  | [] => p.finish send sink
  | chunk :: chunks =>
    let (p', sink') := p.read send sink chunk
    run send p' sink' chunks

end Pump

end RegisterPlane
