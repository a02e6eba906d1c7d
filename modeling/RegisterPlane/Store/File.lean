import RegisterPlane.Files.Basic
import RegisterPlane.Json.Reader
import RegisterPlane.Json.Writer
import RegisterPlane.Store.Backing
import RegisterPlane.Wire.Register

namespace RegisterPlane.RegisterFile

def persistedOfJson? (j : Json) : Option Persisted :=
  match j.fields? ["name", "value", "mutable", "timestamp"] with
  | some [name, value, mutable, timestamp] => do
    return {
      name := ← Json.required? Wire.nameOfJson? name
      value := ← Json.required? (Wire.valueOfJson? .inPlace) value
      mutable := ← Json.required? Json.asBool? mutable
      timestamp := ← Json.optional? Wire.timeOfJson? timestamp }
  | _ => none

def persistedToJson (p : Persisted) : Json :=
  .object ([("name", Wire.nameToJson p.name), ("value", Wire.valueToJson p.value),
    ("mutable", .bool p.mutable)] ++ Json.present "timestamp" (p.timestamp.map Wire.timeToJson))

structure Document where
  savedAt : Timestamp
  registers : List Persisted
  deriving DecidableEq

/-- A document without the list of registers has none. -/
def documentOfJson? (j : Json) : Option Document :=
  match j.fields? ["saved_at", "registers"] with
  | some [savedAt, registers] => do
    let savedAt ← Json.required? Wire.timeOfJson? savedAt
    match registers with
    | none => return ⟨savedAt, []⟩
    | some j => return ⟨savedAt, ← (← j.asArray?).mapM persistedOfJson?⟩
  | _ => none

def documentToJson (d : Document) : Json :=
  .object [("saved_at", Wire.timeToJson d.savedAt),
    ("registers", .array (d.registers.map persistedToJson))]

def read? (text : String) : Option Document := (Json.read? text).bind documentOfJson?

def write (d : Document) : String := (documentToJson d).page

def privateMode : Nat := 0o600

def saveSteps (path text : String) : List FileStep :=
  let beside := path ++ ".tmp"
  [.makeDirectories (Path.parent path), .write beside text, .setMode beside privateMode,
    .rename beside path]

def load (path : String) (fs : Files) : Except BackingFault (List Persisted) :=
  if !fs.isPresent path then .ok []
  else
    match fs.text? path with
    | none => .error .unreachable
    | some text =>
      match read? text with
      | none => .error .unreadable
      | some document => .ok document.registers

def save (path : String) (now : Timestamp) (registers : List Persisted) (fs : Files) :
    Except BackingFault Unit × Files :=
  match FileStep.applyAll fs (saveSteps path (write ⟨now, registers⟩)) with
  | (.ok (), fs') => (.ok (), fs')
  | (.error _, fs') => (.error .unreachable, fs')

def backing (path : String) : Backing Files where
  durable := true
  load := load path
  save := save path

end RegisterPlane.RegisterFile
