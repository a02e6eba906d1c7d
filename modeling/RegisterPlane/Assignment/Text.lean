import RegisterPlane.Assignment.Element
import RegisterPlane.Text.Blank
import RegisterPlane.Text.Hex

namespace RegisterPlane.Assignment

inductive TextFault where
  | badHex (fault : Text.Hex.Fault)
  | noElements
  | badElement (fault : ElementFault)
  deriving DecidableEq, Repr

def TextFault.message : TextFault → String
  | badHex fault => "bad hex: " ++ fault.message
  | noElements => "no elements given"
  | badElement fault => fault.message

def separatesElements (c : Char) : Bool := c == ',' || Text.isBlank c

def readAll {α β ε : Type} (read : α → Except ε β) : List α → Except ε (List β)
  | [] => .ok []
  | a :: as => do
    let b ← read a
    let bs ← readAll read as
    return b :: bs

def decodeText (kind : Kind) (text : String) : Except TextFault Value :=
  match kind with
  | .string => .ok (.string text)
  | .unstructured =>
    match Text.Hex.decode (String.ofList (Text.trim text.toList)) with
    | .ok bytes => .ok (.unstructured bytes)
    | .error fault => .error (.badHex fault)
  | .array k =>
    let words := Text.tokens separatesElements text.toList
    if words = [] then .error .noElements
    else
      match readAll (readElement k) words with
      | .ok elements => .ok (.array k elements)
      | .error fault => .error (.badElement fault)

def joinWords (words : List (List Char)) : List Char := [','].intercalate words

def encodeText : Value → String
  | .array k elements => String.ofList (joinWords (elements.map (writeElement k)))
  | .string text => text
  | .unstructured bytes => String.ofList (Text.Hex.encode bytes)

def valueOfText (subject : String) (kind : Kind) (text : String) : Except RegisterError Value :=
  (decodeText kind text).mapError fun fault => .invalidAssignment subject fault.message

end RegisterPlane.Assignment
