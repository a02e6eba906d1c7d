import RegisterPlane.CommandLine.Failure
import RegisterPlane.CommandLine.Table
import RegisterPlane.Group.Document
import RegisterPlane.Group.Rehearsal
import RegisterPlane.Json.Writer
import RegisterPlane.Wire.Value

namespace RegisterPlane.CommandLine

def loadGroup (path : String) (fs : Files) :
    Except Failure (GroupSpec × List ResolvedProcess) := do
  let spec ← (GroupDocument.load path fs).mapError (.groupNotLoaded path)
  let processes ← spec.resolve.mapError .groupInvalid
  return (spec, processes)

def showProcess (p : ResolvedProcess) : String :=
  "# " ++ p.name ++ " (" ++ (if p.required then "required" else "best-effort") ++ "): " ++
    " ".intercalate p.command ++ "\n" ++
    String.join (p.configuration.map fun (key, text) => key ++ "=" ++ text ++ "\n")

def showProcesses (path : String) (wanted : Option String) (fs : Files) : Except Failure String := do
  let (_, processes) ← loadGroup path fs
  match wanted with
  | none => return "\n".intercalate (processes.map showProcess)
  | some name =>
    match processes.filter (·.name == name) with
    | [] => throw (.noSuchProcess name path)
    | found => return "\n".intercalate (found.map showProcess)

def processTable (report : GroupReport) : Table where
  header := ["process", "required", "state", "pid", "exit", "error"]
  rows := report.processes.map fun p =>
    let number := fun (n : Option Nat) => (n.map fun n => String.ofList (Text.digits n)).getD "-"
    [p.name, if p.required then "yes" else "no", p.state.name, number p.processId, number p.exitCode,
      p.error.getD ""]

def showReport (report : GroupReport) : String :=
  (processTable report).render ++ "group " ++ report.state.name ++ ": " ++
    String.ofList (Text.digits report.processes.length) ++ " processes, " ++
    String.ofList (Text.digits report.logLines) ++ " log lines\n"

def processToJson (p : ProcessReport) : Json :=
  let number := fun (n : Option Nat) => (n.map fun n => Json.ofInt n).getD .null
  .object [("name", .string p.name), ("required", .bool p.required), ("state", .string p.state.name),
    ("pid", number p.processId), ("exit_code", number p.exitCode),
    ("error", (p.error.map Json.string).getD .null)]

def reportToJson (report : GroupReport) : Json :=
  .object [("state", .string report.state.name),
    ("processes", .array (report.processes.map processToJson)), ("log_lines", .ofInt report.logLines)]

structure Launch where
  log : String
  report : GroupReport
  deriving DecidableEq, Repr

def launch (path : String) (around : Program.Surroundings) (fs : Files) : Except Failure Launch := do
  let (spec, processes) ← loadGroup path fs
  let rehearsal := Rehearsal.ofGroup around processes spec.gracePeriod .never { isOpen := true }
  return ⟨LogLine.renderAll rehearsal.log.lines, rehearsal.report⟩

end RegisterPlane.CommandLine
