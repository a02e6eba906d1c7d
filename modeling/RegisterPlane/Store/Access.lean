import RegisterPlane.Store.Basic

namespace RegisterPlane

structure Refusal where
  error : RegisterError
  current : Option Register
  deriving DecidableEq

namespace Store

variable {σ : Type}

def accessRead (s : Store σ) (name : String) : Except Refusal Register × Store σ :=
  let (result, s') := s.get name
  (result.mapError fun error => ⟨error, none⟩, s')

def accessWrite (s : Store σ) (now : Timestamp) (name : String) (value : Value) :
    Except Refusal Register × Store σ :=
  match s.set now name value with
  | (.ok register, s') => (.ok register, s')
  | (.error error, s') =>
    let (current, s'') := s'.get name
    (.error ⟨error, current.toOption⟩, s'')

def access (s : Store σ) (now : Timestamp) (name : String) : Option Value → Except Refusal Register × Store σ
  | none => s.accessRead name
  | some value => s.accessWrite now name value

end Store

end RegisterPlane
