import RegisterPlane.Json.Record
import RegisterPlane.Value.Basic

/-!
Values on the wire: an object of the kind's token and the elements, or an array of the two. Reals that
JSON numbers cannot carry are strings, and a half travels as the number of single precision that it is.
-/

namespace RegisterPlane.Wire

def realOfSpecial? (p : Precision) (text : String) : Option (Floating p) :=
  match String.ofList (text.toList.map Char.toLower) with
  | "nan" => some .nan
  | "inf" | "+inf" | "infinity" | "+infinity" => some (.infinite false)
  | "-inf" | "-infinity" => some (.infinite true)
  | _ => none

def realOfJson? (carrier p : Precision) : Json → Option (Floating p)
  | .number n => n.meaning?.map fun m => (m.toFloating carrier).convert p
  | .string text => realOfSpecial? p text
  | _ => none

def realToJson {p : Precision} : Floating p → Json
  | .nan => .string "NaN"
  | .infinite false => .string "inf"
  | .infinite true => .string "-inf"
  | .finite negative place =>
    .number (.decimal (Json.numeralOfDecimal p negative (p.shortest .even place.val)))

def elementOfJson? : (k : ArrayKind) → Json → Option k.Element
  | .bit => Json.asBool?
  | .integer width => fun j =>
    (j.asInteger? (-width.half) (width.half - 1)).map (BitVec.ofInt width.bits)
  | .natural width => fun j => (j.asInteger? 0 (width.capacity - 1)).map (BitVec.ofInt width.bits)
  | .real .half => realOfJson? .single .half
  | .real .single => realOfJson? .single .single
  | .real .double => realOfJson? .double .double

def elementToJson : (k : ArrayKind) → k.Element → Json
  | .bit => fun (b : Bool) => .bool b
  | .integer _ => fun (i : BitVec _) => .ofInt i.toInt
  | .natural _ => fun (n : BitVec _) => .ofInt n.toNat
  | .real .half => fun (x : Floating .half) => realToJson (x.convert .single)
  | .real .single => fun (x : Floating .single) => realToJson x
  | .real .double => fun (x : Floating .double) => realToJson x

def byteOfJson? (j : Json) : Option UInt8 := (j.asInteger? 0 255).map fun i => UInt8.ofNat i.toNat

def elementsOfJson? : Kind → Json → Option Value
  | .array k, j => do return .array k (← (← j.asArray?).mapM (elementOfJson? k))
  | .string, j => j.asString?.map .string
  | .unstructured, j => do return .unstructured (← (← j.asArray?).mapM byteOfJson?)

def elementsToJson : Value → Json
  | .array k elements => .array (elements.map (elementToJson k))
  | .string text => .string text
  | .unstructured bytes => .array (bytes.map fun b => .ofInt b.toNat)

/-- A kind is given by its token; an object with the token as its only name, and null, does as well.
The null may be an empty object in what was set aside. -/
def kindOfJson? : Json.Passage → Json → Option Kind
  | _, .string token | _, .object [(token, .null)] => Kind.ofExactToken? token
  | .setAside, .object [(token, .object [])] => Kind.ofExactToken? token
  | _, _ => none

/-- The kind at the head of an array is given by its token alone, or by its place among the kinds in
what was set aside. -/
def leadingKindOfJson? : Json.Passage → Json → Option Kind
  | _, .string token => Kind.ofExactToken? token
  | .setAside, j => do Kind.all[(← j.asInteger? 0 Kind.all.length).toNat]?
  | .inPlace, _ => none

def kindToJson (k : Kind) : Json := .string k.token

def valueOfJson? (passage : Json.Passage) : Json → Option Value
  | .array [kind, elements] => do elementsOfJson? (← leadingKindOfJson? passage kind) elements
  | .object members =>
    match Json.member? members "kind", Json.member? members "elements" with
    | some (some kind), some (some elements) => do
      elementsOfJson? (← kindOfJson? passage kind) elements
    | _, _ => none
  | _ => none

def valueToJson (v : Value) : Json :=
  .object [("kind", kindToJson v.kind), ("elements", elementsToJson v)]

end RegisterPlane.Wire
