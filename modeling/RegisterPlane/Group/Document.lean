import RegisterPlane.Files.Basic
import RegisterPlane.Group.Basic
import RegisterPlane.Timestamp
import RegisterPlane.Yaml.Outline
import RegisterPlane.Yaml.Resolve

namespace RegisterPlane.GroupDocument

def fieldOf? {α : Type} (fields : List (String × α)) (name : String) : Option (Option α) :=
  match fields.filter (·.1 == name) with
  | [] => some none
  | [(_, value)] => some (some value)
  | _ => none

/-- The entries of a node that stands for a mapping; a plain scalar without text stands for an empty one. -/
def entriesOf? : Yaml.Node → Option (List (Yaml.Node × Yaml.Node))
  | .mapping _ entries => some entries
  | .scalar _ .plain "" => some []
  | _ => none

def fieldsOf? (node : Yaml.Node) : Option (List (String × Yaml.Node)) := do
  (← entriesOf? node).mapM fun (key, value) =>
    match key with
    | .scalar _ _ name => some (name, value)
    | _ => none

def mappingOf? (node : Yaml.Node) : Option (List (Yaml × Yaml)) := do
  let entries ← Yaml.ofEntries? (← entriesOf? node)
  if Yaml.hasSameKeys entries then none else some entries

/-- A number of seconds, or null for none. It may be spelled as an integer of any size, but in decimal
only; a quoted scalar is no number. -/
def secondsOf? : Yaml.Node → Option (Option (Floating .double))
  | .scalar tag style text =>
    let number := (Yaml.float? text.toList).map some
    if style == .plain then
      if tag == some .null then if Yaml.isNullWord text then some none else none
      else if tag.isNone && (text == "" || Yaml.isNullWord text) then some none
      else number
    else if style == .literal && tag == some .float then number
    else none
  | _ => none

def nanoseconds? : Floating .double → Option Nat
  | .finite negative place =>
    if negative && place.val ≠ 0 then none
    else
      let nanoseconds :=
        roundHalfEven (Precision.double.units place.val * Timestamp.nanosPerSecond) Precision.double.one
      if nanoseconds < Nat.pow 2 64 * Timestamp.nanosPerSecond then some nanoseconds else none
  | _ => none

def grace (seconds : Option (Floating .double)) : Except GroupError Nat :=
  match seconds with
  | none => .ok GroupSpec.defaultGrace
  | some x =>
    match nanoseconds? x with
    | some n => .ok n
    | none => .error (.invalid (.graceOutOfRange x))

def untag : Yaml → Yaml
  | .tagged _ value => untag value
  | other => other

def textOf? (tree : Yaml) : Option String :=
  match untag tree with
  | .string text => some text
  | _ => none

def boolOf? (tree : Yaml) : Option Bool :=
  match untag tree with
  | .bool b => some b
  | _ => none

def commandOf? : Yaml → Option (List String)
  | .string line => some (Text.words line)
  | .sequence items => items.mapM fun
    | .string word => some word
    | _ => none
  | _ => none

def treeEntries? (tree : Yaml) : Option (List (Yaml × Yaml)) :=
  match untag tree with
  | .mapping entries => some entries
  | .null => some []
  | _ => none

def lastOfEach : List (String × String) → List (String × String)
  | [] => []
  | (key, value) :: rest =>
    if rest.any (·.1 == key) then lastOfEach rest else (key, value) :: lastOfEach rest

def environmentOf? (tree : Yaml) : Option (List (String × String)) := do
  let bindings ← (← treeEntries? tree).mapM fun (key, value) => do
    return (← textOf? key, ← textOf? value)
  return (lastOfEach bindings).mergeSort fun a b => decide (a.1 ≤ b.1)

def registersOf? (tree : Yaml) : Option (List (Yaml × Yaml)) := do
  let entries ← Yaml.againEntries? (← treeEntries? tree)
  if Yaml.hasSameKeys entries then none else some entries

structure Body where
  command : List String
  required : Bool
  workingDirectory : Option String
  environment : List (String × String)
  registers : List (Yaml × Yaml)

def Body.fieldNames : List String :=
  ["command", "required", "working_dir", "environment", "registers"]

def bodyOf? (tree : Yaml) : Option Body := do
  let fields ← (← treeEntries? tree).mapM fun (key, value) => do return (← textOf? key, value)
  if !(fields.all fun (name, _) => Body.fieldNames.contains name) then none
  let command ← (← fieldOf? fields "command").bind commandOf?
  let required ← match ← fieldOf? fields "required" with
    | some tree => boolOf? tree
    | none => some true
  let workingDirectory ← match ← fieldOf? fields "working_dir" with
    | some .null | none => some none
    | some tree => (textOf? tree).map some
  let environment ← match ← fieldOf? fields "environment" with
    | some tree => environmentOf? tree
    | none => some []
  let registers ← match ← fieldOf? fields "registers" with
    | some tree => registersOf? tree
    | none => some []
  return ⟨command, required, workingDirectory, environment, registers⟩

def keyText (role : KeyRole) : Yaml → Except GroupError String
  | .string text => .ok text
  | other => .error (.invalid (.keyNotText role (String.ofList other.outline)))

def declarations : List (Yaml × Yaml) → Except GroupError (List Declaration)
  | [] => .ok []
  | (key, literal) :: rest => do
    let name ← keyText .registerName key
    return (name, literal) :: (← declarations rest)

def processOf (key body : Yaml) : Except GroupError ProcessSpec := do
  let name ← keyText .processName key
  match bodyOf? body with
  | none => throw (.invalid (.badBody name))
  | some body =>
    return {
      name
      command := body.command
      required := body.required
      workingDirectory := body.workingDirectory
      environment := body.environment
      registers := ← declarations body.registers }

def processesOf : List (Yaml × Yaml) → Except GroupError (List ProcessSpec)
  | [] => .ok []
  | (key, body) :: rest => do
    let process ← processOf key body
    return process :: (← processesOf rest)

structure Top where
  grace : Option (Floating .double)
  registers : List (Yaml × Yaml)
  processes : List (Yaml × Yaml)

def Top.fieldNames : List String := ["grace_period_secs", "registers", "processes"]

def topOf? (node : Yaml.Node) : Option Top := do
  let fields ← fieldsOf? node
  if !(fields.all fun (name, _) => Top.fieldNames.contains name) then none
  let grace ← match ← fieldOf? fields "grace_period_secs" with
    | some node => secondsOf? node
    | none => some none
  let registers ← match ← fieldOf? fields "registers" with
    | some node => mappingOf? node
    | none => some []
  let processes ← match ← fieldOf? fields "processes" with
    | some node => mappingOf? node
    | none => some []
  return ⟨grace, registers, processes⟩

def readTop? (text : String) : Option Top := do
  topOf? ((← Yaml.document? text).getD .empty)

/-- The group that the fields declare: grace period first, then processes in order, then the group's own
registers. -/
def groupOf (top : Top) : Except GroupError GroupSpec := do
  let gracePeriod ← grace top.grace
  let processes ← processesOf top.processes
  return ⟨gracePeriod, ← declarations top.registers, processes⟩

def read (text : String) : Except GroupError GroupSpec :=
  match readTop? text with
  | some top => groupOf top
  | none => .error .yaml

def load (path : String) (fs : Files) : Except GroupError GroupSpec :=
  match fs.text? path with
  | none => .error (.io path)
  | some text =>
    match readTop? text with
    | some top => groupOf top
    | none => .error (.parse path)

end RegisterPlane.GroupDocument
