import RegisterPlane.CommandLine.Groups
import RegisterPlane.CommandLine.Registers
import RegisterPlane.CommandLine.Serving

namespace RegisterPlane.CommandLine

structure Outcome where
  code : Nat
  output : String := ""
  errors : String := ""
  deriving DecidableEq, Repr

namespace Outcome

def success (output : String) : Outcome := { code := 0, output }

def failure (f : Failure) : Outcome := { code := 1, errors := f.report }

def ofResult : Except Failure String → Outcome
  | .ok output => success output
  | .error f => failure f

end Outcome

def versionText : String := "plexus 0.1.11\n"

def usageText : String :=
  "usage: plexus launch <group> [--json]\n" ++
  "       plexus env <group> [--process <name>]\n" ++
  "       plexus node [--strict]\n" ++
  "       plexus register list [--node <name> | --socket <path>] [--json]\n" ++
  "       plexus register get <name> [--node <name> | --socket <path>] [--json]\n" ++
  "       plexus register set <name> <value> [--node <name> | --socket <path>] [--json]\n"

def Outcome.misuse (fault : UsageFault) : Outcome :=
  { code := 2, errors := "error: " ++ fault.message ++ "\n\n" ++ usageText }

structure Setting where
  birth : Birth
  surroundings : Program.Surroundings
  files : Files
  /-- Does somebody listen at this socket? -/
  inUse : String → Bool

def Outcome.ofLaunch (json : Bool) : Except Failure Launch → Outcome
  | .error f => failure f
  | .ok launch =>
    let report := if json then (reportToJson launch.report).page ++ "\n" else showReport launch.report
    if launch.report.state = .failed then
      { code := 1, output := launch.log, errors := report ++ Failure.groupFailed.report }
    else { code := 0, output := launch.log, errors := report }

variable {World : Type}

def Command.run (setting : Setting) (exchange : Exchange World) (world : World) :
    Command → Outcome × World
  | .launch group json =>
    (.ofLaunch json (CommandLine.launch group setting.surroundings setting.files), world)
  | .env group process => (.ofResult (showProcesses group process setting.files), world)
  | .node strict =>
    (.ofResult ((Serving.start setting.birth strict setting.inUse setting.files).map fun _ => ""), world)
  | .register inquiry target json =>
    let (result, world) := inquire exchange (target.path setting.birth.home) json inquiry world
    (.ofResult result, world)

def run (setting : Setting) (exchange : Exchange World) (arguments : List String) (world : World) :
    Outcome × World :=
  match Command.read arguments with
  | .error fault => (.misuse fault, world)
  | .ok .help => (.success usageText, world)
  | .ok .version => (.success versionText, world)
  | .ok (.command c) => c.run setting exchange world

end RegisterPlane.CommandLine
