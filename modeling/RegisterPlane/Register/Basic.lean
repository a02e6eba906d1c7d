import RegisterPlane.Register.Name
import RegisterPlane.Timestamp
import RegisterPlane.Value.Display

namespace RegisterPlane

structure Flags where
  mutable : Bool
  persistent : Bool
  deriving DecidableEq, Repr

namespace Flags

def config : Flags := ⟨true, true⟩

def volatile : Flags := ⟨true, false⟩

def readOnly : Flags := ⟨false, false⟩

end Flags

structure Register where
  name : RegisterName
  value : Value
  mutable : Bool
  persistent : Bool
  timestamp : Option Timestamp
  deriving DecidableEq

def Register.flags (r : Register) : Flags := ⟨r.mutable, r.persistent⟩

def Register.flagText (r : Register) : String :=
  (if r.mutable then "mutable" else "immutable") ++ if r.persistent then ", persistent" else ""

def Register.describe (r : Register) : String :=
  r.name.text ++ " = " ++ r.value.display ++ " (" ++ r.flagText ++ ")"

end RegisterPlane
