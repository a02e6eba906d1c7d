import RegisterPlane.Group.Error
import RegisterPlane.Node.Error

namespace RegisterPlane

def NodeError.causes : NodeError → List String
  | .register error => [(NodeError.register error).message, error.message]
  | other => [other.message]

def GroupError.causes : GroupError → List String
  | .assignment scope error => [(GroupError.assignment scope error).message, error.message]
  | other => [other.message]

namespace CommandLine

inductive Deed where
  | read
  | write
  deriving DecidableEq, Repr

def Deed.verb : Deed → String
  | read => "read"
  | write => "write"

inductive Failure where
  | groupNotLoaded (path : String) (error : GroupError)
  | groupInvalid (error : GroupError)
  | noSuchProcess (wanted path : String)
  /-- A required process of a launched group has crashed. -/
  | groupFailed
  | registersNotListed (socket : String) (error : NodeError)
  | registerNotRead (name : RegisterName) (error : NodeError)
  /-- The node refuses; `current` is the register as it stands. -/
  | refused (deed : Deed) (name : String) (error : RegisterError) (current : Option Register)
  | accessFailed (deed : Deed) (name : String) (error : NodeError)
  | notYaml (text : String)
  | notValue (error : RegisterError)
  | environmentInvalid (error : RegisterError)
  | nodeNotBuilt (error : NodeError)
  | nodeNotServed (error : NodeError)
  deriving DecidableEq

namespace Failure

def ofAccess (deed : Deed) (name : String) : NodeError → Failure
  | .rejected error current => .refused deed name error current
  | other => .accessFailed deed name other

def context : Failure → String
  | groupNotLoaded path _ => "failed to load group '" ++ path ++ "'"
  | groupInvalid _ => "invalid process group"
  | noSuchProcess wanted path => "no process named '" ++ wanted ++ "' in '" ++ path ++ "'"
  | groupFailed => "process group failed"
  | registersNotListed socket _ => "failed to list registers at " ++ socket
  | registerNotRead name _ => "failed to read register '" ++ name.text ++ "'"
  | refused deed name _ _ => deed.verb ++ " of register '" ++ name ++ "' rejected"
  | accessFailed deed name _ => "failed to " ++ deed.verb ++ " register '" ++ name ++ "'"
  | notYaml text => "'" ++ text ++ "' is not a YAML literal"
  | notValue error => error.message
  | environmentInvalid _ => "invalid register assignment in environment"
  | nodeNotBuilt _ => "failed to bootstrap node"
  | nodeNotServed _ => "node exited with an error"

def causes : Failure → List String
  | groupNotLoaded _ error | groupInvalid error => error.causes
  | registersNotListed _ error | registerNotRead _ error | accessFailed _ _ error | nodeNotBuilt error
  | nodeNotServed error => error.causes
  | refused _ _ error _ | environmentInvalid error => [error.message]
  | noSuchProcess .. | groupFailed | notYaml _ | notValue _ => []

def note? : Failure → Option String
  | refused _ _ _ (some current) => some ("current: " ++ current.describe)
  | _ => none

def hang (mark : String) (text : String) : String :=
  mark ++ ("\n" ++ String.ofList (List.replicate mark.length ' ')).intercalate (text.splitOn "\n")

def numberMark (n : Nat) : String :=
  let digits := Text.digits n
  String.ofList (List.replicate (5 - digits.length) ' ' ++ digits) ++ ": "

def causeLines : List String → List String
  | [] => []
  | [cause] => ["", "Caused by:", hang "    " cause]
  | causes => "" :: "Caused by:" :: causes.mapIdx fun n cause => hang (numberMark n) cause

def report (f : Failure) : String :=
  String.join ((f.note?.toList ++ ("Error: " ++ f.context) :: causeLines f.causes).map (· ++ "\n"))

end Failure

end CommandLine

end RegisterPlane
