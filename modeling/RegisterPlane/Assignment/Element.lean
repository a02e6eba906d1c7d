import RegisterPlane.Value.Display

namespace RegisterPlane.Assignment

inductive ElementFault where
  | notABit (word : String)
  | emptyInteger (word : String)
  | badDigit (word : String)
  | tooLarge (word : String)
  | tooSmall (word : String)
  | badReal (word : String)
  deriving DecidableEq, Repr

def ElementFault.message : ElementFault → String
  | notABit word => "'" ++ word ++ "' is not a bit"
  | emptyInteger word => "'" ++ word ++ "': cannot parse integer from empty string"
  | badDigit word => "'" ++ word ++ "': invalid digit found in string"
  | tooLarge word => "'" ++ word ++ "': number too large to fit in target type"
  | tooSmall word => "'" ++ word ++ "': number too small to fit in target type"
  | badReal word => "'" ++ word ++ "': invalid float literal"

inductive DigitFault where
  | badDigit
  | overflow
  deriving DecidableEq, Repr

def readDigits (limit : Nat) : Nat → List Char → Except DigitFault Nat
  | value, [] => .ok value
  | value, c :: cs =>
    if !Text.isDigit c then .error .badDigit
    else
      let value' := value * 10 + Text.digitValue c
      if limit < value' then .error .overflow else readDigits limit value' cs

/-- An integer between `-lower` and `upper`: a plus sign, or a minus sign where the kind is signed,
then digits. -/
def readInteger (signed : Bool) (lower upper : Nat) (word : List Char) : Except ElementFault Int :=
  let text := String.ofList word
  let positive := fun (cs : List Char) =>
    match readDigits upper 0 cs with
    | .ok n => Except.ok (n : Int)
    | .error .badDigit => .error (.badDigit text)
    | .error .overflow => .error (.tooLarge text)
  let negative := fun (cs : List Char) =>
    match readDigits lower 0 cs with
    | .ok n => Except.ok (-(n : Int))
    | .error .badDigit => .error (.badDigit text)
    | .error .overflow => .error (.tooSmall text)
  match word with
  | [] => .error (.emptyInteger text)
  | ['+'] => .error (.badDigit text)
  | ['-'] => .error (.badDigit text)
  | '+' :: cs => positive cs
  | '-' :: cs => if signed then negative cs else .error (.badDigit text)
  | cs => positive cs

def readBit (word : List Char) : Except ElementFault Bool :=
  match String.ofList (word.map Char.toLower) with
  | "1" | "true" => .ok true
  | "0" | "false" => .ok false
  | other => .error (.notABit other)

def readReal (p : Precision) (word : List Char) : Except ElementFault (Floating p) :=
  match Floating.read? p word with
  | some x => .ok x
  | none => .error (.badReal (String.ofList word))

/-- An element of any kind. A half is read at double precision and then converted. -/
def readElement : (k : ArrayKind) → List Char → Except ElementFault k.Element
  | .bit => readBit
  | .integer width => fun word =>
    (readInteger true width.half (width.half - 1) word).map (BitVec.ofInt width.bits)
  | .natural width => fun word =>
    (readInteger false 0 (width.capacity - 1) word).map (BitVec.ofInt width.bits)
  | .real .half => fun word => (readReal .double word).map (Floating.convert .half)
  | .real .single => readReal .single
  | .real .double => readReal .double

def writeElement : (k : ArrayKind) → k.Element → List Char
  | .bit => fun (b : Bool) => if b then ['1'] else ['0']
  | .integer width => (ArrayKind.integer width).elementText
  | .natural width => (ArrayKind.natural width).elementText
  | .real p => (ArrayKind.real p).elementText

end RegisterPlane.Assignment
