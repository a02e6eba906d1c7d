import RegisterPlane.CommandLine.Failure
import RegisterPlane.Node.Basic

namespace RegisterPlane.CommandLine

structure Birth where
  home : String
  bindings : List (String × String)
  vitals : Vitals
  now : Timestamp

structure Serving where
  node : Node Vitals
  backing : Backing Files
  files : Files

namespace Serving

def build (birth : Birth) (strict : Bool) (fs : Files) : Except Failure Serving := do
  let overrides ← (Assignment.ofEnvironment birth.bindings).mapError .environmentInvalid
  let application := { Node.plainSeed birth.vitals with policy := if strict then .strict else .implicit }
  let node ← (Node.bootstrap birth.home application id overrides birth.now fs).mapError .nodeNotBuilt
  return ⟨node, Node.backing overrides, fs⟩

def start (birth : Birth) (strict : Bool) (inUse : String → Bool) (fs : Files) :
    Except Failure Serving := do
  let built ← build birth strict fs
  let files ← (Server.listen fs (inUse built.node.socket) built.node.socket).mapError .nodeNotServed
  return { built with files }

def isAt (s : Serving) (path : String) : Bool := s.files.sameFile path s.node.socket

/-- A node that is told to end: its socket is taken away, and changes are kept. The files that it
leaves. -/
def finish (s : Serving) (now : Timestamp) : Files :=
  (s.node.store.flush s.backing now (Server.close s.files s.node.socket)).2.2

end Serving

end RegisterPlane.CommandLine
