import RegisterPlane.Floating.Numeral
import RegisterPlane.Register.Error

namespace RegisterPlane

inductive KeyRole where
  | processName
  | registerName
  deriving DecidableEq, Repr

def KeyRole.message : KeyRole → String
  | processName => "process name"
  | registerName => "register name"

inductive SpecFault where
  | noProcesses
  | badName (process : String)
  | repeatedName (process : String)
  | emptyCommand (process : String)
  | repeatedRegister (register scope : String)
  | graceOutOfRange (seconds : Floating .double)
  | badBody (process : String)
  /-- A key is not a text but what the outline shows. -/
  | keyNotText (role : KeyRole) (outline : String)
  deriving DecidableEq, Repr

def SpecFault.message : SpecFault → String
  | noProcesses => "group declares no processes"
  | badName process => "invalid process name '" ++ process ++ "'"
  | repeatedName process => "duplicate process name '" ++ process ++ "'"
  | emptyCommand process => "process '" ++ process ++ "' has an empty command"
  | repeatedRegister register scope =>
    "register '" ++ register ++ "' is assigned twice in '" ++ scope ++ "'"
  | graceOutOfRange seconds =>
    "grace_period_secs must be a non-negative number of seconds in range, got " ++
      String.ofList seconds.plainText
  | badBody process => "process '" ++ process ++ "'"
  | keyNotText role outline => role.message ++ " must be a string, got " ++ outline

inductive GroupError where
  | io (path : String)
  | yaml
  | parse (path : String)
  | invalid (fault : SpecFault)
  /-- An assignment in a scope, a process or the whole group, is refused. -/
  | assignment (scope : String) (error : RegisterError)
  deriving DecidableEq, Repr

/-- The error's own words. Where another layer has words of its own, they follow the colon. -/
def GroupError.message : GroupError → String
  | io path => "I/O error at " ++ path ++ ": "
  | yaml => "YAML error: "
  | parse path => "failed to parse group specification at " ++ path ++ ": "
  | invalid fault => "invalid group specification: " ++ fault.message
  | assignment scope error =>
    "invalid register assignment in '" ++ scope ++ "': " ++ error.message

end RegisterPlane
