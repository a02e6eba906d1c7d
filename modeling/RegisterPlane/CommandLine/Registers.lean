import RegisterPlane.Assignment.Literal
import RegisterPlane.CommandLine.Command
import RegisterPlane.CommandLine.Failure
import RegisterPlane.CommandLine.Table
import RegisterPlane.Node.Exchange
import RegisterPlane.Yaml.Resolve

/-!
Inquiries about the registers of a node. A register is set from a literal as it was typed: nothing is sent if
the literal stands for no value, and a bare number or boolean that a text register refuses is sent once more
as text.
-/

namespace RegisterPlane.CommandLine

variable {World : Type}

def readAll (exchange : Exchange World) (socket : String) :
    List RegisterName → World → Except Failure (List Register) × World
  | [], world => (.ok [], world)
  | name :: names, world =>
    match exchange.access socket name.text none world with
    | (.error error, world) => (.error (.registerNotRead name error), world)
    | (.ok register, world) =>
      match readAll exchange socket names world with
      | (.error failure, world) => (.error failure, world)
      | (.ok registers, world) => (.ok (register :: registers), world)

def listRegisters (exchange : Exchange World) (socket : String) (world : World) :
    Except Failure (List Register) × World :=
  match exchange.list socket world with
  | (.error error, world) => (.error (.registersNotListed socket error), world)
  | (.ok names, world) => readAll exchange socket names world

def getRegister (exchange : Exchange World) (socket name : String) (world : World) :
    Except Failure Register × World :=
  let (result, world) := exchange.access socket name none world
  (result.mapError (.ofAccess .read name), world)

def readLiteral (name text : String) : Except Failure (Yaml × Value) :=
  match Yaml.read? text with
  | none => .error (.notYaml text)
  | some literal =>
    match Assignment.infer name literal with
    | .error error => .error (.notValue error)
    | .ok value => .ok (literal, value)

def isBare : Yaml → Bool
  | .bool _ | .integer _ | .real _ => true
  | _ => false

/-- Does the refusal of a literal say that the register holds text, so that its text may be meant? -/
def wantsText (literal : Yaml) : NodeError → Bool
  | .rejected (.incompatibleKind ..) (some current) => current.value.kind == .string && isBare literal
  | _ => false

def setRegister (exchange : Exchange World) (socket name text : String) (world : World) :
    Except Failure Register × World :=
  match readLiteral name text with
  | .error failure => (.error failure, world)
  | .ok (literal, value) =>
    match exchange.access socket name (some value) world with
    | (.ok register, world) => (.ok register, world)
    | (.error error, world) =>
      if wantsText literal error then
        let (result, world) := exchange.access socket name (some (.string text)) world
        (result.mapError (.ofAccess .write name), world)
      else (.error (.ofAccess .write name error), world)

def registerTable (registers : List Register) : Table where
  header := ["name", "value", "flags", "updated"]
  rows := registers.map fun r =>
    [r.name.text, r.value.display, r.flagText, (r.timestamp.map Timestamp.shortText).getD "-"]

def showRegister (json : Bool) (r : Register) : String :=
  (if json then (Wire.registerToJson r).page else r.describe) ++ "\n"

def showRegisters (json : Bool) (registers : List Register) : String :=
  if json then (Json.array (registers.map Wire.registerToJson)).page ++ "\n"
  else (registerTable registers).render

def inquire (exchange : Exchange World) (socket : String) (json : Bool) (inquiry : Inquiry)
    (world : World) : Except Failure String × World :=
  match inquiry with
  | .list =>
    let (result, world) := listRegisters exchange socket world
    (result.map (showRegisters json), world)
  | .get name =>
    let (result, world) := getRegister exchange socket name world
    (result.map (showRegister json), world)
  | .set name literal =>
    let (result, world) := setRegister exchange socket name literal world
    (result.map (showRegister json), world)

end RegisterPlane.CommandLine
