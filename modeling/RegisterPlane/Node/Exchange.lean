import RegisterPlane.Node.Client
import RegisterPlane.Node.Server

namespace RegisterPlane

abbrev Exchange (World : Type) := String → Wire.Request → World → Client.Reply × World

namespace Exchange

variable {World σ : Type}

def silent : Exchange World := fun _ _ world => (.notRunning, world)

def withStore (isServed : String → Bool) (now : Timestamp) : Exchange (Store σ) :=
  fun socket request s =>
    if isServed socket then
      let (lines, s') := Server.converse s now (Wire.writeRequest request ++ "\n")
      (.text (String.join (lines.map (· ++ "\n"))), s')
    else (.notRunning, s)

def list (exchange : Exchange World) (socket : String) (world : World) :
    Except NodeError (List RegisterName) × World :=
  let (reply, world) := exchange socket .list world
  (Client.listResult (Client.receive socket reply), world)

def nameAt (exchange : Exchange World) (socket : String) (index : UInt64) (world : World) :
    Except NodeError (Option RegisterName) × World :=
  let (reply, world) := exchange socket (.nameAt index) world
  (Client.nameAtResult (Client.receive socket reply), world)

def access (exchange : Exchange World) (socket name : String) (value : Option Value) (world : World) :
    Except NodeError Register × World :=
  let (reply, world) := exchange socket (.access name value) world
  (Client.accessResult (Client.receive socket reply), world)

end Exchange

end RegisterPlane
