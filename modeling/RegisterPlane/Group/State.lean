import RegisterPlane.Text.Digits

namespace RegisterPlane

inductive GroupState where
  | loaded
  | launching
  | running
  | draining
  | terminated
  | failed
  deriving DecidableEq, Repr

namespace GroupState

def isTerminal : GroupState → Bool
  | terminated | failed => true
  | _ => false

def name : GroupState → String
  | loaded => "loaded"
  | launching => "launching"
  | running => "running"
  | draining => "draining"
  | terminated => "terminated"
  | failed => "failed"

end GroupState

inductive ProcessState where
  | pending
  | starting
  | running
  | stopping
  | stopped
  | crashed
  deriving DecidableEq, Repr

namespace ProcessState

def isAlive : ProcessState → Bool
  | starting | running | stopping => true
  | _ => false

def name : ProcessState → String
  | pending => "pending"
  | starting => "starting"
  | running => "running"
  | stopping => "stopping"
  | stopped => "stopped"
  | crashed => "crashed"

end ProcessState

inductive ExitStatus where
  | code (n : Nat)
  | signal (n : Nat)
  deriving DecidableEq, Repr

namespace ExitStatus

def isSuccess : ExitStatus → Bool
  | code n => n == 0
  | signal _ => false

def code? : ExitStatus → Option Nat
  | code n => some n
  | signal _ => none

def describe : ExitStatus → String
  | code n => "exit code " ++ String.ofList (Text.digits n)
  | signal n => "killed by signal " ++ String.ofList (Text.digits n)

end ExitStatus

inductive StopMode where
  | graceful
  | force
  deriving DecidableEq, Repr

inductive CrashCause where
  | launch (process reason : String)
  | exit (process : String) (status : ExitStatus)
  /-- How it ended could not be found out. -/
  | wait (reason : String)
  deriving DecidableEq, Repr

def CrashCause.message : CrashCause → String
  | launch process reason => "failed to launch process '" ++ process ++ "': " ++ reason
  | exit process status => "process '" ++ process ++ "' crashed: " ++ status.describe
  | wait reason => reason

end RegisterPlane
