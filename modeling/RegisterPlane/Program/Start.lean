import RegisterPlane.Group.Basic
import RegisterPlane.Program.Step

namespace RegisterPlane.Program

/-- What every process finds: the directories there are, the one it starts in unless it names another, and
the variables it inherits. -/
structure Surroundings where
  directories : List String
  directory : String
  bindings : List (String × String)

def notFound : String := "No such file or directory (os error 2)"

def bindingsOf (bindings : List (String × String)) : List Variable :=
  bindings.foldl (fun (vs : List Variable) (name, value) =>
    vs.filter (·.name != name) ++ [⟨name, value, true⟩]) []

def firstFrame? (program : String) (arguments : List String) : Option Frame :=
  match program, arguments with
  | "sh", "-c" :: text :: _ | "dash", "-c" :: text :: _ | "bash", "-c" :: text :: _ =>
    (Script.read? text).map .run
  | program, arguments => some (.direct program arguments)

def scriptArguments : List String → List String
  | "-c" :: _ :: _ :: rest => rest
  | _ => []

def scriptTitle (path : String) : List String → String
  | "-c" :: _ :: title :: _ => title
  | _ => path

def start (around : Surroundings) (processId : Nat) (p : ResolvedProcess) : Except String Shell := do
  let (path, arguments) ← match p.command with
    | path :: arguments => pure (path, arguments)
    | [] => throw "empty command"
  let some program := programOf? path | throw notFound
  let wanted := p.workingDirectory.getD around.directory
  let some directory := Shell.directoryAt? around.directories around.directory wanted
    | throw notFound
  let shell : Shell := {
    frames := [(firstFrame? program arguments).getD (.finish 2)]
    title := scriptTitle path arguments
    arguments := scriptArguments arguments
    bindings := bindingsOf (around.bindings ++ p.configuration)
    directory
    directories := around.directories
    processId }
  return shell.assign "PWD" directory

end RegisterPlane.Program
