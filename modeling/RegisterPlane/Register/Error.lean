import RegisterPlane.Kind
import RegisterPlane.Text.Digits

namespace RegisterPlane

inductive RegisterError where
  | notFound (name : String)
  | immutable (name : String)
  | incompatibleKind (source target : Kind) (detail : String)
  | invalidAssignment (subject reason : String)
  deriving DecidableEq, Repr

def RegisterError.message : RegisterError → String
  | notFound name => "register not found: " ++ name
  | immutable name => "register is immutable: " ++ name
  | incompatibleKind source target detail =>
    "cannot assign " ++ source.token ++ " to " ++ target.token ++ ": " ++ detail
  | invalidAssignment subject reason => "invalid assignment '" ++ subject ++ "': " ++ reason

inductive Misfit where
  | otherFamily
  | strictPolicy
  | elementCount (expected given : Nat)
  deriving DecidableEq, Repr

def Misfit.message : Misfit → String
  | otherFamily => "kinds belong to different families"
  | strictPolicy => "implicit coercion is disabled"
  | elementCount expected given =>
    "expected " ++ String.ofList (Text.digits expected) ++ " elements, got " ++
      String.ofList (Text.digits given)

def Misfit.toError (m : Misfit) (source target : Kind) : RegisterError :=
  .incompatibleKind source target m.message

end RegisterPlane
