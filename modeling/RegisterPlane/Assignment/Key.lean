import RegisterPlane.Assignment.Text
import RegisterPlane.Register.Name

/-!
The hierarchical form of an assignment, made for environment variables. The key holds the segments
of the register's name and then the token of the kind, joined by `__` and in any case; the text is
the value under that kind.
-/

namespace RegisterPlane.Assignment

inductive KeyFault where
  | missingKind
  | unknownKind (token : String)
  | badName (dotted : String)
  deriving DecidableEq, Repr

def KeyFault.message : KeyFault → String
  | missingKind => "missing kind suffix"
  | unknownKind token => "unknown kind token '" ++ token ++ "'"
  | badName dotted => "'" ++ dotted ++ "' is not a valid register name"

def splitLast? : List Char → Option (List Char × List Char)
  | '_' :: '_' :: cs =>
    match splitLast? ('_' :: cs) with
    | some (head, last) => some ('_' :: head, last)
    | none => some ([], cs)
  | c :: cs => (splitLast? cs).map fun (head, last) => (c :: head, last)
  | [] => none

def splitPairs : List Char → List (List Char)
  | '_' :: '_' :: cs => [] :: splitPairs cs
  | c :: cs =>
    match splitPairs cs with
    | [] => [[c]]
    | piece :: pieces => (c :: piece) :: pieces
  | [] => [[]]

def dottedName (head : List Char) : String :=
  String.ofList (['.'].intercalate ((splitPairs head).map (·.map Char.toLower)))

def splitKey (key : String) : Except KeyFault (RegisterName × Kind) :=
  match splitLast? key.toList with
  | none => .error .missingKind
  | some (head, last) =>
    match Kind.ofToken? (String.ofList last) with
    | none => .error (.unknownKind (String.ofList last))
    | some kind =>
      match RegisterName.parse? (dottedName head) with
      | none => .error (.badName (dottedName head))
      | some name => .ok (name, kind)

def parse (key text : String) : Except RegisterError (RegisterName × Value) := do
  let (name, kind) ← (splitKey key).mapError fun fault => .invalidAssignment key fault.message
  let value ← valueOfText key kind text
  return (name, value)

def encodeKey (name : RegisterName) (kind : Kind) : String :=
  "__".intercalate ((name.segments ++ [kind.token]).map fun s =>
    String.ofList (s.toList.map Char.toUpper))

def encode (name : RegisterName) (value : Value) : String × String :=
  (encodeKey name value.kind, encodeText value)

/-- Does a key end in the token of a kind, after something and `__`? Only such keys are meant as
assignments. -/
def looksLikeAssignment (key : String) : Bool :=
  match splitLast? key.toList with
  | none => false
  | some (head, last) => head ≠ [] && (Kind.ofToken? (String.ofList last)).isSome

/-- The assignments among environment variables, sorted by name; those of one name keep their
order. The first variable that is meant as an assignment and is none refuses them all. -/
def ofEnvironment (bindings : List (String × String)) :
    Except RegisterError (List (RegisterName × Value)) := do
  let found ← readAll (fun (key, text) => parse key text)
    (bindings.filter fun (key, _) => looksLikeAssignment key)
  return found.mergeSort fun a b => a.1.le b.1

end RegisterPlane.Assignment
