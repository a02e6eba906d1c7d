import RegisterPlane.CommandLine.Basic
import Std.Time.DateTime.Timestamp

/-!
The program. Arguments, variables, the clock and the files that a command names are gathered here, and what the
command leaves is printed. A node talks over its standard input and output, line by line, and the programs of a
launched group are run by the interpreter; no node is reached from outside.
-/

namespace RegisterPlane.CommandLine

def bindingsOfText (text : String) : List (String × String) :=
  (text.splitOn "\x00").filterMap fun entry =>
    match entry.splitOn "=" with
    | name :: part :: parts => some (name, "=".intercalate (part :: parts))
    | _ => none

def readOr (fallback : String) (path : String) : IO String :=
  try IO.FS.readFile path catch _ => return fallback

def clockNow : IO Timestamp := do
  let duration := (← Std.Time.Timestamp.now).val
  return ⟨duration.second.val, duration.nano.val.toNat⟩

def gather (directory : String) (paths : List String) : IO Files := do
  let mut files := Files.startingAt directory
  for path in paths do
    let text ← try some <$> IO.FS.readFile path catch _ => pure none
    files := match text with
      | some text => files.withText path text
      | none => files
  return files

def registerFile? (birth : Birth) : Option String :=
  match Assignment.ofEnvironment birth.bindings with
  | .ok overrides => Node.backingPath? overrides
  | .error _ => none

def filesNamed (birth : Birth) : Command → List String
  | .launch group _ | .env group _ => [group]
  | .node _ => (registerFile? birth).toList
  | .register .. => []

partial def answerLines (input output : IO.FS.Stream) (serving : Serving) : IO Serving := do
  let line ← input.getLine
  if line.isEmpty then return serving
  let (lines, store) := Server.converse serving.node.store (← clockNow) line
  for response in lines do output.putStrLn response
  output.flush
  answerLines input output { serving with node := { serving.node with store } }

def keep (before after : Files) (path : String) : IO Unit := do
  match after.text? path with
  | none => return
  | some text =>
    if before.text? path = some text then return
    if Path.parent path ≠ "" then IO.FS.createDirAll (Path.parent path)
    IO.FS.writeFile (path ++ ".tmp") text
    IO.FS.rename (path ++ ".tmp") path

def serveStandard (setting : Setting) (strict : Bool) : IO Outcome := do
  match Serving.start setting.birth strict setting.inUse setting.files with
  | .error f => return .failure f
  | .ok serving =>
    let serving ← answerLines (← IO.getStdin) (← IO.getStdout) serving
    match registerFile? setting.birth with
    | some path => keep setting.files (serving.finish (← clockNow)) path
    | none => pure ()
    return .success ""

def gatherSetting (invocation : Except UsageFault Invocation) : IO Setting := do
  let bindings := bindingsOfText (← readOr "" "/proc/self/environ")
  let home := ((bindings.find? (·.1 == "HOME")).map (·.2)).getD "/"
  let directory := (← IO.currentDir).toString
  let processId := ((← readOr "0" "/proc/self/stat").takeWhile Char.isDigit).toNat?.getD 0
  let birth : Birth := ⟨home, bindings, ⟨BitVec.ofNat 32 processId, .zero .double false⟩, ← clockNow⟩
  let paths := match invocation with
    | .ok (.command c) => filesNamed birth c
    | _ => []
  return {
    birth
    surroundings := ⟨[directory, home, "/", "/tmp"], directory, bindings⟩
    files := ← gather directory paths
    inUse := fun _ => false }

end RegisterPlane.CommandLine

open RegisterPlane.CommandLine in
def main (arguments : List String) : IO UInt32 := do
  let invocation := Command.read arguments
  let setting ← gatherSetting invocation
  let outcome ← match invocation with
    | .ok (.command (.node strict)) => serveStandard setting strict
    | _ => pure (run setting RegisterPlane.Exchange.silent arguments ()).1
  IO.print outcome.output
  IO.eprint outcome.errors
  return UInt32.ofNat outcome.code
