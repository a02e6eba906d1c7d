import RegisterPlane.Register.Basic
import RegisterPlane.Wire.Value

namespace RegisterPlane.Wire

def nameOfJson? (j : Json) : Option RegisterName := j.asString?.bind RegisterName.parse?

def nameToJson (n : RegisterName) : Json := .string n.text

def timeOfJson? (j : Json) : Option Timestamp := j.asString?.bind Timestamp.read?

def timeToJson (t : Timestamp) : Json := .string t.text

def registerOfJson? (j : Json) : Option Register :=
  match j.fields? ["name", "value", "mutable", "persistent", "timestamp"] with
  | some [name, value, mutable, persistent, timestamp] => do
    return {
      name := ← Json.required? nameOfJson? name
      value := ← Json.required? (valueOfJson? .inPlace) value
      mutable := ← Json.required? Json.asBool? mutable
      persistent := ← Json.required? Json.asBool? persistent
      timestamp := ← Json.optional? timeOfJson? timestamp }
  | _ => none

def registerToJson (r : Register) : Json :=
  .object ([("name", nameToJson r.name), ("value", valueToJson r.value), ("mutable", .bool r.mutable),
    ("persistent", .bool r.persistent)] ++ Json.present "timestamp" (r.timestamp.map timeToJson))

def errorOfJson? (around : Nat) (j : Json) : Option RegisterError := do
  let (variant, body) ← j.variant? "kind" around
  match variant with
  | "not_found" =>
    match ← body.fields? ["name"] with
    | [name] => return .notFound (← Json.required? Json.asString? name)
    | _ => none
  | "immutable" =>
    match ← body.fields? ["name"] with
    | [name] => return .immutable (← Json.required? Json.asString? name)
    | _ => none
  | "incompatible_kind" =>
    match ← body.fields? ["from", "to", "detail"] with
    | [source, target, detail] =>
      return .incompatibleKind (← Json.required? (kindOfJson? .setAside) source)
        (← Json.required? (kindOfJson? .setAside) target) (← Json.required? Json.asString? detail)
    | _ => none
  | "invalid_assignment" =>
    match ← body.fields? ["subject", "reason"] with
    | [subject, reason] =>
      return .invalidAssignment (← Json.required? Json.asString? subject)
        (← Json.required? Json.asString? reason)
    | _ => none
  | _ => none

def errorToJson : RegisterError → Json
  | .notFound name => .object [("kind", .string "not_found"), ("name", .string name)]
  | .immutable name => .object [("kind", .string "immutable"), ("name", .string name)]
  | .incompatibleKind source target detail =>
    .object [("kind", .string "incompatible_kind"), ("from", kindToJson source),
      ("to", kindToJson target), ("detail", .string detail)]
  | .invalidAssignment subject reason =>
    .object [("kind", .string "invalid_assignment"), ("subject", .string subject),
      ("reason", .string reason)]

end RegisterPlane.Wire
