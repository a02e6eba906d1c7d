import RegisterPlane.Register.Error
import RegisterPlane.Text.Blank
import RegisterPlane.Text.Quoted

/-!
Register names: segments of lowercase letters, digits and single inner underscores, joined by
dots. Since no segment holds two underscores in a row or one at an end, the segments can be joined
by `__` and told apart again.
-/

namespace RegisterPlane

inductive NameFault where
  | empty
  | emptySegment
  | strayUnderscore
  | badCharacter (c : Char)
  deriving DecidableEq, Repr

def NameFault.message : NameFault → String
  | empty => "register name is empty"
  | emptySegment => "empty name segment"
  | strayUnderscore => "segments cannot contain '__' or start or end with '_'"
  | badCharacter c => "character " ++ Text.quotedSingle c ++ " is not allowed in register names"

namespace RegisterName

def isAllowed (c : Char) : Bool :=
  ('a' ≤ c && c ≤ 'z') || Text.isDigit c || c == '_'

def hasDoubleUnderscore : List Char → Bool
  | '_' :: '_' :: _ => true
  | _ :: cs => hasDoubleUnderscore cs
  | [] => false

/-- The first fault of a segment: emptiness, then underscores, then characters. -/
def segmentFault? (segment : List Char) : Option NameFault :=
  if segment = [] then some .emptySegment
  else if hasDoubleUnderscore segment ∨ segment.head? = some '_' ∨ segment.getLast? = some '_' then
    some .strayUnderscore
  else (segment.find? fun c => !isAllowed c).map .badCharacter

def fault? (raw : String) : Option NameFault :=
  if raw = "" then some .empty
  else (Text.splitAt (· == '.') raw.toList).findSome? segmentFault?

end RegisterName

/-- A register name is a text without fault. -/
structure RegisterName where
  text : String
  faultless : RegisterName.fault? text = none
  deriving DecidableEq

namespace RegisterName

def parse (raw : String) : Except RegisterError RegisterName :=
  match h : fault? raw with
  | none => .ok ⟨raw, h⟩
  | some fault => .error (.invalidAssignment raw fault.message)

def parse? (raw : String) : Option RegisterName :=
  if h : fault? raw = none then some ⟨raw, h⟩ else none

def segments (n : RegisterName) : List String :=
  (Text.splitAt (· == '.') n.text.toList).map String.ofList

def le (a b : RegisterName) : Bool := decide (a.text ≤ b.text)

end RegisterName

end RegisterPlane
