import RegisterPlane.Floating.Numeral

/-!
JSON documents. A number is kept as it is spelled, since what it stands for depends on where it is
used; an object keeps its members in order, repeated names among them. What stands for nothing is
kept too, since it does no harm where nobody looks at it.
-/

namespace RegisterPlane

inductive Json.Number where
  | integer (negative : Bool) (digits : List Char)
  | decimal (numeral : Numeral)
  deriving DecidableEq, Repr

inductive Json where
  | null
  | bool (b : Bool)
  | number (n : Json.Number)
  | string (text : String)
  | array (items : List Json)
  | object (members : List (String × Json))
  /-- A string that spells no text, or an object with such a name. -/
  | unreadable

namespace Json

def ofInt (i : Int) : Json := .number (.integer (decide (i < 0)) (Text.digits i.natAbs))

mutual

def depth : Json → Nat
  | array items => depthOfItems items + 1
  | object members => depthOfMembers members + 1
  | _ => 0

def depthOfItems : List Json → Nat
  | [] => 0
  | item :: items => max (depth item) (depthOfItems items)

def depthOfMembers : List (String × Json) → Nat
  | [] => 0
  | (_, value) :: members => max (depth value) (depthOfMembers members)

end

end Json

end RegisterPlane
