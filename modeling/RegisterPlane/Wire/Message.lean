import RegisterPlane.Json.Reader
import RegisterPlane.Json.Writer
import RegisterPlane.Wire.Register

namespace RegisterPlane.Wire

inductive Request where
  | list
  | nameAt (index : UInt64)
  /-- A read without a value, a write with one. -/
  | access (name : String) (value : Option Value)
  deriving DecidableEq

def indexOfJson? (j : Json) : Option UInt64 :=
  (j.asInteger? 0 (Width.w64.capacity - 1)).map fun i => UInt64.ofNat i.toNat

def requestOfJson? (j : Json) : Option Request := do
  let (variant, body) ← j.variant? "op" 0
  match variant with
  | "list" =>
    match body with
    | .array (_ :: _) => none
    | _ => return .list
  | "name_at" =>
    match ← body.fields? ["index"] with
    | [index] => return .nameAt (← Json.required? indexOfJson? index)
    | _ => none
  | "access" =>
    match ← body.fields? ["name", "value"] with
    | [name, value] =>
      return .access (← Json.required? Json.asString? name)
        (← Json.optional? (valueOfJson? .setAside) value)
    | _ => none
  | _ => none

/-- An access always has the field `value`, null for a read. -/
def requestToJson : Request → Json
  | .list => .object [("op", .string "list")]
  | .nameAt index => .object [("op", .string "name_at"), ("index", .ofInt index.toNat)]
  | .access name value =>
    .object [("op", .string "access"), ("name", .string name),
      ("value", (value.map valueToJson).getD .null)]

structure Response where
  ok : Bool
  names : Option (List RegisterName)
  name : Option RegisterName
  register : Option Register
  error : Option RegisterError
  /-- What went wrong with the exchange itself. -/
  message : Option String
  deriving DecidableEq

namespace Response

def ofNames (names : List RegisterName) : Response := ⟨true, some names, none, none, none, none⟩

def ofName (name : Option RegisterName) : Response := ⟨true, none, name, none, none, none⟩

def ofRegister (register : Register) : Response := ⟨true, none, none, some register, none, none⟩

def rejected (error : RegisterError) (current : Option Register) : Response :=
  ⟨false, none, none, current, some error, none⟩

def protocolError (message : String) : Response := ⟨false, none, none, none, none, some message⟩

end Response

def namesOfJson? (j : Json) : Option (List RegisterName) := do (← j.asArray?).mapM nameOfJson?

def responseOfJson? (j : Json) : Option Response :=
  match j.fields? ["ok", "names", "name", "register", "error", "message"] with
  | some [ok, names, name, register, error, message] => do
    return {
      ok := ← Json.required? Json.asBool? ok
      names := ← Json.optional? namesOfJson? names
      name := ← Json.optional? nameOfJson? name
      register := ← Json.optional? registerOfJson? register
      error := ← Json.optional? (errorOfJson? 1) error
      message := ← Json.optional? Json.asString? message }
  | _ => none

def responseToJson (r : Response) : Json :=
  .object ([("ok", .bool r.ok)] ++
    Json.present "names" (r.names.map fun names => .array (names.map nameToJson)) ++
    Json.present "name" (r.name.map nameToJson) ++
    Json.present "register" (r.register.map registerToJson) ++
    Json.present "error" (r.error.map errorToJson) ++
    Json.present "message" (r.message.map .string))

def readRequest? (line : String) : Option Request := (Json.read? line).bind requestOfJson?

def writeRequest (r : Request) : String := (requestToJson r).line

def readResponse? (line : String) : Option Response := (Json.read? line).bind responseOfJson?

def writeResponse (r : Response) : String := (responseToJson r).line

end RegisterPlane.Wire
