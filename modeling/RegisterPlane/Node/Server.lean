import RegisterPlane.Files.Basic
import RegisterPlane.Node.Error
import RegisterPlane.Store.Access
import RegisterPlane.Text.Lines
import RegisterPlane.Wire.Message

/-!
Serving a store to connections, line by line: a blank line is passed over, a line that is no request
is answered with a protocol error, and any other is answered from the store.
-/

namespace RegisterPlane.Server

open Wire

variable {σ : Type}

def respond (s : Store σ) (now : Timestamp) : Request → Response × Store σ
  | .list => (.ofNames s.names, s)
  | .nameAt index => (.ofName (s.nameAt? index.toNat), s)
  | .access name value =>
    match s.access now name value with
    | (.ok register, s') => (.ofRegister register, s')
    | (.error refusal, s') => (.rejected refusal.error refusal.current, s')

/-- What the decoder says of a line follows a colon. Where that is not known, the text ends before it. -/
def undecodable (words : Option String) : Response :=
  .protocolError ("invalid request JSON" ++ (words.map (": " ++ ·)).getD "")

def isBlankLine (line : String) : Bool := line.toList.all Text.isBlank

def answer (s : Store σ) (now : Timestamp) (line : String) (words : String → Option String := fun _ => none) :
    Option Response × Store σ :=
  if isBlankLine line then (none, s)
  else
    match readRequest? line with
    | none => (some (undecodable (words line)), s)
    | some request =>
      let (response, s') := respond s now request
      (some response, s')

def answerAll (s : Store σ) (now : Timestamp) (lines : List String)
    (words : String → Option String := fun _ => none) : List Response × Store σ :=
  match lines with
  | [] => ([], s)
  | line :: lines =>
    let (response, s') := answer s now line words
    let (responses, s'') := answerAll s' now lines words
    (response.toList ++ responses, s'')

def receivedLines (sent : String) : List String := (Text.lines '\n' '\r' sent.toList).map String.ofList

def converse (s : Store σ) (now : Timestamp) (sent : String) (words : String → Option String := fun _ => none) :
    List String × Store σ :=
  let (responses, s') := answerAll s now (receivedLines sent) words
  (responses.map writeResponse, s')

def converseAll (s : Store σ) (now : Timestamp) (connections : List String)
    (words : String → Option String := fun _ => none) : List (List String) × Store σ :=
  match connections with
  | [] => ([], s)
  | sent :: rest =>
    let (lines, s') := converse s now sent words
    let (others, s'') := converseAll s' now rest words
    (lines :: others, s'')

def socketLimit : Nat := 107

def socketMode : Nat := 0o600

def bind (fs : Files) (socket : String) : Except NodeError Files :=
  match fs.locate socket with
  | .ok place =>
    if (fs.node? place).isNone ∧ socket.utf8ByteSize ≤ socketLimit then .ok (fs.place place .socket)
    else .error (.io socket)
  | .error _ => .error (.io socket)

/-- A socket is bound first, and made its owner's alone then. -/
def bindPrivately (fs : Files) (socket : String) : Except NodeError Files := do
  match (FileStep.setMode socket socketMode).apply (← bind fs socket) with
  | (.ok (), fs) => .ok fs
  | (.error _, _) => .error (.io socket)

/-- A socket put where it is wanted: its directory is made, something stale in its place is removed,
and a place where somebody listens is left alone. -/
def listen (fs : Files) (inUse : Bool) (socket : String) : Except NodeError Files :=
  let directory := Path.parent socket
  let (made, fs) :=
    if fs.isPresent directory then (.ok (), fs) else (FileStep.makeDirectories directory).apply fs
  match made with
  | .error _ => .error (.io directory)
  | .ok () =>
    if !fs.isPresent socket then bindPrivately fs socket
    else if inUse then .error (.protocol ("node socket already in use: " ++ socket))
    else
      match (FileStep.remove socket).apply fs with
      | (.ok (), fs) => bindPrivately fs socket
      | (.error _, _) => .error (.io socket)

def close (fs : Files) (socket : String) : Files := ((FileStep.remove socket).apply fs).2

end RegisterPlane.Server
