import RegisterPlane.Node.Error
import RegisterPlane.Text.Lines
import RegisterPlane.Wire.Message

namespace RegisterPlane.Client

open Wire

inductive Reply where
  | notRunning
  /-- Everything that came back until the connection was closed. -/
  | text (received : String)
  deriving DecidableEq, Repr

/-- The response in a reply: its first line, without blanks at the end. -/
def receive (socket : String) : Reply → Except NodeError Response
  | .notRunning => .error (.notRunning socket)
  | .text received =>
    if received = "" then .error (.protocol "node closed connection before responding")
    else
      let line := received.toList.takeWhile (· ≠ '\n')
      match readResponse? (String.ofList (Text.trimEnd line)) with
      | none => .error .json
      | some response => .ok response

def accepted (response : Response) : Except NodeError Response :=
  if response.ok then .ok response
  else
    match response.error with
    | some error => .error (.rejected error response.register)
    | none => .error (.protocol (response.message.getD "unknown node error"))

def listResult (reply : Except NodeError Response) : Except NodeError (List RegisterName) := do
  return (← accepted (← reply)).names.getD []

def nameAtResult (reply : Except NodeError Response) : Except NodeError (Option RegisterName) := do
  return (← accepted (← reply)).name

def accessResult (reply : Except NodeError Response) : Except NodeError Register := do
  match (← accepted (← reply)).register with
  | some register => return register
  | none => throw (.protocol "access response without register")

def waitResult (reply : Except NodeError Response) : Except NodeError Unit := reply.map fun _ => ()

end RegisterPlane.Client
