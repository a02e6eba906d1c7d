import RegisterPlane.Assignment.Text
import RegisterPlane.Yaml.Basic

/-!
Values from literals that people write in YAML. Where no kind is named, the narrowest kind is taken
that holds all the elements; `{kind: literal}` names one.
-/

namespace RegisterPlane.Assignment

inductive LiteralFault where
  | emptySequence
  | null
  | innerString
  | unsupportedShape
  | mixedBooleans
  | unsignedOverflow
  | signedOverflow
  | notOneKind
  | unknownKind (token : String)
  | stringNeeded (kind : Kind)
  | scalarsNeeded (kind : Kind)
  | text (fault : TextFault)
  deriving DecidableEq, Repr

def LiteralFault.message : LiteralFault → String
  | emptySequence => "cannot infer a kind from an empty sequence"
  | null => "null is not a value"
  | innerString => "strings are only allowed as standalone values"
  | unsupportedShape => "unsupported literal shape"
  | mixedBooleans => "sequence mixes booleans with numbers"
  | unsignedOverflow => "integer exceeds 64 bits"
  | signedOverflow => "integers do not fit any signed 64-bit width"
  | notOneKind => "a mapping literal must have exactly one key naming the kind"
  | unknownKind token => "unknown kind '" ++ token ++ "'"
  | stringNeeded kind => kind.token ++ " literal must be a string"
  | scalarsNeeded kind => kind.token ++ " elements must be booleans or numbers"
  | text fault => fault.message

def classify : Yaml → Except LiteralFault Scalar
  | .bool b => .ok (.bool b)
  | .integer i => .ok (.int i)
  | .real x => .ok (.real x)
  | .null => .error .null
  | .string _ => .error .innerString
  | _ => .error .unsupportedShape

def isBool : Scalar → Bool
  | .bool _ => true
  | _ => false

def integer? : Scalar → Option Int
  | .int i => some i
  | _ => none

def widths : List Width := [.w8, .w16, .w32, .w64]

def fitsNatural (i : Int) (w : Width) : Bool := 0 ≤ i && i < w.capacity

def fitsInteger (i : Int) (w : Width) : Bool := -w.half ≤ i && i < w.half

def narrowestInteger (is : List Int) : Except LiteralFault Value :=
  if is.all (0 ≤ ·) then
    match widths.find? fun w => is.all (fitsNatural · w) with
    | some w => .ok (.array (.natural w) (is.map (BitVec.ofInt w.bits)))
    | none => .error .unsignedOverflow
  else
    match widths.find? fun w => is.all (fitsInteger · w) with
    | some w => .ok (.array (.integer w) (is.map (BitVec.ofInt w.bits)))
    | none => .error .signedOverflow

def isHalf (x : Floating .double) : Bool :=
  x.isFinite && ((x.convert .half).convert .double).same x

def hasSingleDigits (x : Floating .double) : Bool :=
  x.isFinite && (x.convert .single).plainText == x.plainText

def narrowestReal (xs : List (Floating .double)) : Value :=
  if xs.all isHalf then .array (.real .half) (xs.map (Floating.convert .half))
  else if xs.all hasSingleDigits then .array (.real .single) (xs.map (Floating.convert .single))
  else .array (.real .double) xs

/-- The value of scalars without a named kind. One real among integers makes all of them real. -/
def inferScalars (items : List Scalar) : Except LiteralFault Value :=
  if items.all isBool then .ok (.array .bit (items.map Scalar.toBool))
  else if items.any isBool then .error .mixedBooleans
  else
    match items.mapM integer? with
    | some is => narrowestInteger is
    | none => .ok (narrowestReal (items.map Scalar.toDouble))

def itemWord (kind : Kind) : Yaml → Except LiteralFault (List Char)
  | .bool b => .ok (if b then "true".toList else "false".toList)
  | .integer i => .ok (Text.integerDigits i)
  | .real x => .ok x.plainText
  | _ => .error (.scalarsNeeded kind)

/-- The value of a literal under a named kind. Items pass through their text, so that numbers are
checked against the kind and never wrap around. -/
def typedLiteral (kind : Kind) (literal : Yaml) : Except LiteralFault Value :=
  match kind, literal with
  | .string, .string text => .ok (.string text)
  | .unstructured, .string text => (decodeText .unstructured text).mapError .text
  | .string, _ => .error (.stringNeeded .string)
  | .unstructured, _ => .error (.stringNeeded .unstructured)
  | .array k, literal => do
    let items := match literal with
      | .sequence items => items
      | single => [single]
    let words ← readAll (itemWord (.array k)) items
    (decodeText (.array k) (String.ofList (joinWords words))).mapError .text

def ofLiteral : Yaml → Except LiteralFault Value
  | .string text => .ok (.string text)
  | .mapping [(.string token, inner)] =>
    match Kind.ofToken? token with
    | some kind => typedLiteral kind inner
    | none => .error (.unknownKind token)
  | .mapping _ => .error .notOneKind
  | .sequence [] => .error .emptySequence
  | .sequence items => readAll classify items >>= inferScalars
  | single => classify single >>= fun s => inferScalars [s]

def infer (subject : String) (literal : Yaml) : Except RegisterError Value :=
  (ofLiteral literal).mapError fun fault => .invalidAssignment subject fault.message

end RegisterPlane.Assignment
