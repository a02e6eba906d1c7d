import RegisterPlane.Json.Number

/-!
Records in JSON documents. A record is an object whose members are found by name, with unknown
members passed over and no known one repeated, or an array of its fields in order. A record that
names its variant is set aside until the name is found, and what is set aside must be sound and not
too deep.
-/

namespace RegisterPlane.Json

/-- How a document is reached: where it stands in the text, or in a record that was set aside. -/
inductive Passage where
  | inPlace
  | setAside
  deriving DecidableEq, Repr

def depthLimit : Nat := 127

mutual

def isSound : Json → Bool
  | number n => n.meaning?.isSome
  | array items => areSound items
  | object members => membersSound members
  | unreadable => false
  | _ => true

def areSound : List Json → Bool
  | [] => true
  | item :: items => isSound item && areSound items

def membersSound : List (String × Json) → Bool
  | [] => true
  | (_, value) :: members => isSound value && membersSound members

end

/-- The member of this name, if there is one, unless there are several. -/
def member? (members : List (String × Json)) (name : String) : Option (Option Json) :=
  match members.filter (·.1 == name) with
  | [] => some none
  | [(_, value)] => some (some value)
  | _ => none

def fields? (names : List String) : Json → Option (List (Option Json))
  | object members => names.mapM (member? members)
  | array items =>
    if items.length ≤ names.length then
      some (items.map some ++ List.replicate (names.length - items.length) none)
    else none
  | _ => none

def canSetAside (around : Nat) (j : Json) : Bool := j.isSound && decide (around + j.depth ≤ depthLimit)

/-- A record that names its variant in the field `tag`, within so many arrays and objects: the
variant, and the record of the other fields, which are all set aside whether they are known or not. -/
def variant? (tag : String) (around : Nat) : Json → Option (String × Json)
  | object members =>
    match members.filter (·.1 == tag) with
    | [(_, string variant)] =>
      let others := object (members.filter (·.1 != tag))
      if others.canSetAside around then some (variant, others) else none
    | _ => none
  | array (string variant :: items) =>
    let others := array items
    if others.canSetAside around then some (variant, others) else none
  | _ => none

def asBool? : Json → Option Bool
  | bool b => some b
  | _ => none

def asString? : Json → Option String
  | string text => some text
  | _ => none

def asInteger? (lowest highest : Int) : Json → Option Int
  | number n =>
    match n.meaning? with
    | some (.integer i) => if lowest ≤ i ∧ i ≤ highest then some i else none
    | _ => none
  | _ => none

def asArray? : Json → Option (List Json)
  | array items => some items
  | _ => none

def required? {α : Type} (read : Json → Option α) (field : Option Json) : Option α := field.bind read

def optional? {α : Type} (read : Json → Option α) : Option Json → Option (Option α)
  | none => some none
  | some null => some none
  | some j => (read j).map some

def present (name : String) : Option Json → List (String × Json)
  | none => []
  | some value => [(name, value)]

end RegisterPlane.Json
