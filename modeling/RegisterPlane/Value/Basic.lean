import RegisterPlane.Kind
import RegisterPlane.Register.Error
import RegisterPlane.Floating.Rounding

/-!
Register values: arrays whose elements all have one kind, text, or bytes. Arrays convert element
by element through a scalar that holds every element of every kind exactly.
-/

namespace RegisterPlane

namespace ArrayKind

def Element : ArrayKind → Type
  | bit => Bool
  | integer width => BitVec width.bits
  | natural width => BitVec width.bits
  | real precision => Floating precision

instance (k : ArrayKind) : DecidableEq k.Element :=
  match k with
  | bit => inferInstanceAs (DecidableEq Bool)
  | integer width => inferInstanceAs (DecidableEq (BitVec width.bits))
  | natural width => inferInstanceAs (DecidableEq (BitVec width.bits))
  | real precision => inferInstanceAs (DecidableEq (Floating precision))

end ArrayKind

inductive Scalar where
  | bool (b : Bool)
  | int (i : Int)
  | real (x : Floating .double)
  deriving DecidableEq, Repr

namespace Scalar

def toBool : Scalar → Bool
  | bool b => b
  | int i => i ≠ 0
  | real x => !x.isNaN && !x.isZero

def toInt : Scalar → Int
  | bool b => if b then 1 else 0
  | int i => i
  | real x => x.toInteger

def toDouble : Scalar → Floating .double
  | bool b => .ofInt .double (if b then 1 else 0)
  | int i => .ofInt .double i
  | real x => x

end Scalar

namespace ArrayKind

def toScalar : (k : ArrayKind) → k.Element → Scalar
  | bit => fun (b : Bool) => .bool b
  | integer _ => fun (i : BitVec _) => .int i.toInt
  | natural _ => fun (n : BitVec _) => .int n.toNat
  | real _ => fun (x : Floating _) => .real (x.convert .double)

/-- The element that a scalar becomes: integers wrap at their width, reals are converted. -/
def ofScalar : (k : ArrayKind) → Scalar → k.Element
  | bit => Scalar.toBool
  | integer width => fun s => BitVec.ofInt width.bits s.toInt
  | natural width => fun s => BitVec.ofInt width.bits s.toInt
  | real precision => fun s => s.toDouble.convert precision

end ArrayKind

inductive Value where
  | array (kind : ArrayKind) (elements : List kind.Element)
  | string (text : String)
  | unstructured (bytes : List UInt8)
  deriving DecidableEq

namespace Value

def kind : Value → Kind
  | array k _ => .array k
  | string _ => .string
  | unstructured _ => .unstructured

def size : Value → Nat
  | array _ elements => elements.length
  | string text => text.utf8ByteSize
  | unstructured bytes => bytes.length

def isEmpty (v : Value) : Bool := v.size == 0

def scalars? : Value → Option (List Scalar)
  | array k elements => some (elements.map k.toScalar)
  | _ => none

def doubles? (v : Value) : Option (List (Floating .double)) :=
  v.scalars?.map (·.map Scalar.toDouble)

/-- The value converted into a kind of the same family, with as many elements. A value already of
that kind is kept as it is. -/
def coerce (v : Value) (target : Kind) : Except RegisterError Value :=
  if v.kind = target then .ok v
  else
    match v, target with
    | array k elements, .array k' => .ok (.array k' (elements.map fun x => k'.ofScalar (k.toScalar x)))
    | _, _ => .error (Misfit.otherFamily.toError v.kind target)

end Value

end RegisterPlane
