import RegisterPlane.Register.Basic
import RegisterPlane.Store.Seed

namespace RegisterPlane

inductive NodeError where
  | io (path : String)
  | json
  /-- The register file is there but holds no registers that can be read. -/
  | parse (path : String)
  | register (error : RegisterError)
  /-- The node answered and refused; `current` is the register as it stands. -/
  | rejected (error : RegisterError) (current : Option Register)
  | protocol (message : String)
  | notRunning (socket : String)
  deriving DecidableEq

namespace NodeError

/-- The error's own words. Where another layer has words of its own, they follow the colon. -/
def message : NodeError → String
  | io path => "I/O error at " ++ path ++ ": "
  | json => "JSON error: "
  | parse path => "failed to parse register file at " ++ path ++ ": "
  | register error => "register error: " ++ error.message
  | rejected error _ => "register access rejected: " ++ error.message
  | protocol message => "node protocol error: " ++ message
  | notRunning socket => "node is not running (socket missing: " ++ socket ++ ")"

def ofBuildError (path : String) : BuildError → NodeError
  | .backing .unreachable => io path
  | .backing .unreadable => parse path
  | .override error => register error

end NodeError

end RegisterPlane
