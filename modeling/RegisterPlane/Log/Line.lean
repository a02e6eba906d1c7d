import RegisterPlane.Text.Digits

namespace RegisterPlane

inductive Stream where
  | stdout
  | stderr
  deriving DecidableEq, Repr

def Stream.mark : Stream → Char
  | stdout => '|'
  | stderr => '!'

structure LogLine where
  process : String
  stream : Stream
  text : String
  deriving DecidableEq, Repr

namespace LogLine

def render (number : Nat) (line : LogLine) : String :=
  String.ofList (Text.digits number) ++ " " ++ line.process ++ String.singleton line.stream.mark ++ " " ++
    line.text ++ "\n"

def renderFrom (number : Nat) : List LogLine → List String
  | [] => []
  | line :: lines => line.render number :: renderFrom (number + 1) lines

def renderAll (lines : List LogLine) : String := String.join (renderFrom 1 lines)

end LogLine

/-- Where the lines go. A log that nobody reads takes no line. -/
structure Log where
  isOpen : Bool
  lines : List LogLine := []
  deriving DecidableEq, Repr

namespace Log

def send (log : Log) (line : LogLine) : Bool × Log :=
  if log.isOpen then (true, { log with lines := log.lines ++ [line] }) else (false, log)

end Log

end RegisterPlane
