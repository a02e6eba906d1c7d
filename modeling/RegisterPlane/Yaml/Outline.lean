import RegisterPlane.Json.Number
import RegisterPlane.Text.Quoted
import RegisterPlane.Yaml.Basic

namespace RegisterPlane.Yaml

def realText : Floating .double → List Char
  | .nan => ".nan".toList
  | .infinite negative => Floating.signText negative ++ ".inf".toList
  | .finite negative place =>
    let n := Json.numeralOfDecimal .double negative (Precision.double.shortest .even place.val)
    Floating.signText n.negative ++ n.whole ++
      (if n.fraction = [] then [] else '.' :: n.fraction) ++
      (if n.exponent = 0 then [] else 'e' :: Text.integerDigits n.exponent)

def boolText (b : Bool) : List Char := if b then "true".toList else "false".toList

mutual

def outline : Yaml → List Char
  | null => "Null".toList
  | bool b => "Bool(".toList ++ boolText b ++ [')']
  | integer i => "Number(".toList ++ Text.integerDigits i ++ [')']
  | real x => "Number(".toList ++ realText x ++ [')']
  | string text => "String(".toList ++ (Text.quoted text).toList ++ [')']
  | sequence items => "Sequence [".toList ++ outlineItems items ++ [']']
  | mapping entries => "Mapping ".toList ++ '\x7b' :: outlineEntries entries ++ ['\x7d']
  | tagged tag value =>
    "TaggedValue ".toList ++ '\x7b' :: " tag: !".toList ++ (tagName tag).toList ++ ", value: ".toList ++
      outline value ++ [' ', '\x7d']

def outlineItems : List Yaml → List Char
  | [] => []
  | [item] => outline item
  | item :: items => outline item ++ ", ".toList ++ outlineItems items

def outlineEntries : List (Yaml × Yaml) → List Char
  | [] => []
  | [(key, value)] => outlineKey key ++ ": ".toList ++ outline value
  | (key, value) :: entries =>
    outlineKey key ++ ": ".toList ++ outline value ++ ", ".toList ++ outlineEntries entries

def outlineKey : Yaml → List Char
  | bool b => boolText b
  | integer i => Text.integerDigits i
  | real x => realText x
  | string text => (Text.quoted text).toList
  | null => "Null".toList
  | sequence items => "Sequence [".toList ++ outlineItems items ++ [']']
  | mapping entries => "Mapping ".toList ++ '\x7b' :: outlineEntries entries ++ ['\x7d']
  | tagged tag value =>
    "TaggedValue ".toList ++ '\x7b' :: " tag: !".toList ++ (tagName tag).toList ++ ", value: ".toList ++
      outline value ++ [' ', '\x7d']

end

end RegisterPlane.Yaml
