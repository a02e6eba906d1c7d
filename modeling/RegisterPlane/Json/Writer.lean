import RegisterPlane.Json.Token

namespace RegisterPlane.Json

def escapeChar (c : Char) : List Char :=
  if c = '"' then ['\\', '"']
  else if c = '\\' then ['\\', '\\']
  else if c = '\x08' then ['\\', 'b']
  else if c = '\t' then ['\\', 't']
  else if c = '\n' then ['\\', 'n']
  else if c = '\x0c' then ['\\', 'f']
  else if c = '\r' then ['\\', 'r']
  else if c.toNat < 0x20 then
    ['\\', 'u', '0', '0', Text.hexDigit (c.toNat / 16), Text.hexDigit c.toNat]
  else [c]

def stringText (text : String) : List Char := '"' :: text.toList.flatMap escapeChar ++ ['"']

def unreadableText : List Char := "\"\\ud800\"".toList

def Number.text : Number → List Char
  | .integer negative digits => Floating.signText negative ++ digits
  | .decimal n =>
    Floating.signText n.negative ++ n.whole ++
      (if n.fraction = [] then [] else '.' :: n.fraction) ++
      (if n.exponent = 0 then []
        else if n.exponent < 0 then 'e' :: '-' :: Text.digits n.exponent.natAbs
        else 'e' :: '+' :: Text.digits n.exponent.natAbs)

mutual

def compact : Json → List Char
  | null => "null".toList
  | bool true => "true".toList
  | bool false => "false".toList
  | number n => n.text
  | string text => stringText text
  | unreadable => unreadableText
  | array items => '[' :: compactItems items ++ [']']
  | object members => '\x7b' :: compactMembers members ++ ['\x7d']

def compactItems : List Json → List Char
  | [] => []
  | [item] => compact item
  | item :: items => compact item ++ ',' :: compactItems items

def compactMembers : List (String × Json) → List Char
  | [] => []
  | [(name, value)] => stringText name ++ ':' :: compact value
  | (name, value) :: members => stringText name ++ ':' :: compact value ++ ',' :: compactMembers members

end

def lineBreak (depth : Nat) : List Char := '\n' :: List.replicate (2 * depth) ' '

mutual

def pretty (depth : Nat) : Json → List Char
  | array [] => "[]".toList
  | array (item :: items) =>
    '[' :: prettyItems (depth + 1) (item :: items) ++ lineBreak depth ++ [']']
  | object [] => ['\x7b', '\x7d']
  | object (member :: members) =>
    '\x7b' :: prettyMembers (depth + 1) (member :: members) ++ lineBreak depth ++ ['\x7d']
  | null => "null".toList
  | bool true => "true".toList
  | bool false => "false".toList
  | number n => n.text
  | string text => stringText text
  | unreadable => unreadableText

def prettyItems (depth : Nat) : List Json → List Char
  | [] => []
  | [item] => lineBreak depth ++ pretty depth item
  | item :: items => lineBreak depth ++ pretty depth item ++ ',' :: prettyItems depth items

def prettyMembers (depth : Nat) : List (String × Json) → List Char
  | [] => []
  | [(name, value)] => lineBreak depth ++ stringText name ++ ':' :: ' ' :: pretty depth value
  | (name, value) :: members =>
    lineBreak depth ++ stringText name ++ ':' :: ' ' :: pretty depth value ++
      ',' :: prettyMembers depth members

end

def line (j : Json) : String := String.ofList j.compact

def page (j : Json) : String := String.ofList (j.pretty 0)

end RegisterPlane.Json
