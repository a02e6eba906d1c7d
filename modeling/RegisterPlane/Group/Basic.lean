import RegisterPlane.Assignment.Key
import RegisterPlane.Assignment.Literal
import RegisterPlane.Group.Error

namespace RegisterPlane

abbrev Declaration := String × Yaml

structure ProcessSpec where
  name : String
  command : List String
  /-- The group cannot go on without a required process. -/
  required : Bool := true
  workingDirectory : Option String := none
  environment : List (String × String) := []
  registers : List Declaration := []

/-- A group as declared; processes are launched in this order. -/
structure GroupSpec where
  /-- How long processes that are asked to stop may take, in nanoseconds. -/
  gracePeriod : Nat
  registers : List Declaration
  processes : List ProcessSpec

structure ResolvedProcess where
  name : String
  command : List String
  required : Bool
  workingDirectory : Option String
  environment : List (String × String)
  registers : List (RegisterName × Value)
  deriving DecidableEq

def ResolvedProcess.configuration (p : ResolvedProcess) : List (String × String) :=
  p.environment ++ p.registers.map fun (name, value) => Assignment.encode name value

namespace GroupSpec

def defaultGrace : Nat := 5000000000

def scope : String := "group"

/-- The assignments of one list of declarations. A register may be declared once only; `seen` holds the
names of those before. -/
def resolveRegisters (scope : String) (seen : List RegisterName) :
    List Declaration → Except GroupError (List (RegisterName × Value))
  | [] => .ok []
  | (raw, literal) :: rest => do
    let name ← (RegisterName.parse raw).mapError (.assignment scope)
    if seen.contains name then throw (.invalid (.repeatedRegister name.text scope))
    let value ← (Assignment.infer raw literal).mapError (.assignment scope)
    return (name, value) :: (← resolveRegisters scope (name :: seen) rest)

/-- Inherited assignments and a process's own, which win, in ascending order of names. -/
def overlay (inherited own : List (RegisterName × Value)) : List (RegisterName × Value) :=
  (inherited.filter (fun (name, _) => !(own.any (·.1 == name))) ++ own).mergeSort fun a b => a.1.le b.1

def processFault? (seen : List String) (p : ProcessSpec) : Option SpecFault :=
  if p.name.isEmpty || p.name.toList.any Text.isBlank then some (.badName p.name)
  else if seen.contains p.name then some (.repeatedName p.name)
  else if p.command.head?.all (·.isEmpty) then some (.emptyCommand p.name)
  else none

def resolveProcess (inherited : List (RegisterName × Value)) (seen : List String) (p : ProcessSpec) :
    Except GroupError ResolvedProcess := do
  if let some fault := processFault? seen p then throw (.invalid fault)
  let own ← resolveRegisters p.name [] p.registers
  return ⟨p.name, p.command, p.required, p.workingDirectory, p.environment, overlay inherited own⟩

def resolveProcesses (inherited : List (RegisterName × Value)) (seen : List String) :
    List ProcessSpec → Except GroupError (List ResolvedProcess)
  | [] => .ok []
  | p :: rest => do
    let resolved ← resolveProcess inherited seen p
    return resolved :: (← resolveProcesses inherited (p.name :: seen) rest)

/-- Every process ready for launch, or the first fault of the group: nothing is launched of a group with
a fault. -/
def resolve (g : GroupSpec) : Except GroupError (List ResolvedProcess) := do
  if g.processes.isEmpty then throw (.invalid .noProcesses)
  let inherited ← resolveRegisters scope [] g.registers
  resolveProcesses inherited [] g.processes

end GroupSpec

end RegisterPlane
