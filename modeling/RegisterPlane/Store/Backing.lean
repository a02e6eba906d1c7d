import RegisterPlane.Register.Basic

namespace RegisterPlane

structure Persisted where
  name : RegisterName
  value : Value
  mutable : Bool
  timestamp : Option Timestamp
  deriving DecidableEq

inductive BackingFault where
  | unreachable
  /-- What is there cannot be read as registers. -/
  | unreadable
  deriving DecidableEq, Repr

/-- A place for registers, in a world of type `World`. What is loaded is what was last saved, if the
place is durable. -/
structure Backing (World : Type) where
  durable : Bool
  load : World → Except BackingFault (List Persisted)
  save : Timestamp → List Persisted → World → Except BackingFault Unit × World

def Backing.volatile (World : Type) : Backing World where
  durable := false
  load := fun _ => .ok []
  save := fun _ _ world => (.ok (), world)

end RegisterPlane
