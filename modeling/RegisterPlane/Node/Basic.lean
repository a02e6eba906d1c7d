import RegisterPlane.Assignment.Key
import RegisterPlane.Node.Path
import RegisterPlane.Node.Server
import RegisterPlane.Store.File

namespace RegisterPlane

structure Vitals where
  processId : BitVec 32
  uptime : Floating .double
  deriving DecidableEq

namespace Node

def nameRegister : RegisterName := ⟨"plexus.node.name", by decide⟩

def socketRegister : RegisterName := ⟨"plexus.node.socket", by decide⟩

def backingRegister : RegisterName := ⟨"plexus.node.backing", by decide⟩

def pidRegister : RegisterName := ⟨"plexus.node.pid", by decide⟩

def uptimeRegister : RegisterName := ⟨"plexus.node.uptime", by decide⟩

def defaultName : String := "node"

/-- The register file that overrides name: the first override of the backing register decides, and
an empty path is none. -/
def backingPath? (overrides : List (RegisterName × Value)) : Option String :=
  match overrides.find? (·.1 == backingRegister) with
  | some (_, .string path) => if path = "" then none else some path
  | _ => none

def backing (overrides : List (RegisterName × Value)) : Backing Files :=
  match backingPath? overrides with
  | some path => RegisterFile.backing path
  | none => .volatile Files

def seed {σ : Type} (application : Seed σ) (vitals : σ → Vitals)
    (overrides : List (RegisterName × Value)) : Seed σ where
  policy := application.policy
  defaults := application.defaults ++
    [(nameRegister, .string defaultName, .config), (socketRegister, .string "", .config),
      (backingRegister, .string "", .readOnly)]
  computed := application.computed ++
    [(pidRegister, ⟨fun live => (.array (.natural .w32) [(vitals live).processId], live), none⟩),
      (uptimeRegister, ⟨fun live => (.array (.real .double) [(vitals live).uptime], live), none⟩)]
  overrides := application.overrides ++ overrides
  live := application.live

/-- The text that a register holds, unless it is empty or no text, and the store after the reading,
which a computed register may notice. -/
def textOf? {σ : Type} (s : Store σ) (name : RegisterName) : Option String × Store σ :=
  match s.get name.text with
  | (.ok ⟨_, .string text, _, _, _⟩, s') => (if text = "" then none else some text, s')
  | (_, s') => (none, s')

end Node

structure Node (σ : Type) where
  name : String
  socket : String
  store : Store σ

namespace Node

/-- A node from an application's registers and overrides. The registers that name it and its socket
are read once each. -/
def bootstrap {σ : Type} (home : String) (application : Seed σ) (vitals : σ → Vitals)
    (overrides : List (RegisterName × Value)) (now : Timestamp) (fs : Files) :
    Except NodeError (Node σ) := do
  let store ← (Store.build (seed application vitals overrides) (backing overrides) now fs).mapError
    (NodeError.ofBuildError ((backingPath? overrides).getD ""))
  let (name, store) := textOf? store nameRegister
  let (socket, store) := textOf? store socketRegister
  let name := name.getD defaultName
  return ⟨name, socket.getD (Path.defaultSocket home name), store⟩

def plainSeed (vitals : Vitals) : Seed Vitals := ⟨.implicit, [], [], [], vitals⟩

def ofEnvironment (home : String) (bindings : List (String × String)) (vitals : Vitals)
    (now : Timestamp) (fs : Files) : Except NodeError (Node Vitals) := do
  let overrides ← (Assignment.ofEnvironment bindings).mapError .register
  bootstrap home (plainSeed vitals) id overrides now fs

end Node

end RegisterPlane
