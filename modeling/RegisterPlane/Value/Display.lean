import RegisterPlane.Value.Basic
import RegisterPlane.Floating.Numeral
import RegisterPlane.Text.Hex

namespace RegisterPlane

namespace ArrayKind

/-- The plain text of an element. A half is written with the digits that tell it apart at single
precision. -/
def elementText : (k : ArrayKind) → k.Element → List Char
  | bit => fun (b : Bool) => if b then "true".toList else "false".toList
  | integer _ => fun (i : BitVec _) => Text.integerDigits i.toInt
  | natural _ => fun (n : BitVec _) => Text.digits n.toNat
  | real .half => fun (x : Floating .half) => (x.convert .single).plainText
  | real .single => fun (x : Floating .single) => x.plainText
  | real .double => fun (x : Floating .double) => x.plainText

end ArrayKind

namespace Value

def display : Value → String
  | array k elements =>
    (Kind.array k).token ++ "[" ++
      ", ".intercalate (elements.map fun x => String.ofList (k.elementText x)) ++ "]"
  | string text => Kind.string.token ++ " " ++ Text.quoted text
  | unstructured bytes => Kind.unstructured.token ++ " " ++ String.ofList (Text.Hex.encode bytes)

end Value

end RegisterPlane
