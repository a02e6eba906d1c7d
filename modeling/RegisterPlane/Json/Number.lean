import RegisterPlane.Json.Basic

/-!
What number tokens stand for. An integer token within 64 bits is that integer; any other number is
read at double precision with a significand of 64 bits that is scaled by a power of ten, with one
rounding for each step. Numbers beyond the double range stand for nothing.
-/

namespace RegisterPlane.Json

inductive Numeric where
  | integer (i : Int)
  | real (x : Floating .double)
  deriving DecidableEq, Repr

namespace Numeric

def toDouble : Numeric → Floating .double
  | integer i => .ofInt .double i
  | real x => x

def toFloating (p : Precision) : Numeric → Floating p
  | integer i => .ofInt p i
  | real x => x.convert p

end Numeric

namespace Number

def significandLimit : Nat := Nat.pow 2 64 - 1

def takeSignificand : Nat → List Char → Nat × Nat
  | value, [] => (value, 0)
  | value, c :: cs =>
    let value' := value * 10 + Text.digitValue c
    if significandLimit < value' then (value, cs.length + 1) else takeSignificand value' cs

def product (x y : Fin Precision.double.infinityPlace) : Floating .double :=
  .ofRatio .double false
    (Precision.double.units x.val * Precision.double.units y.val) (Precision.double.one * Precision.double.one)

def quotient (x y : Fin Precision.double.infinityPlace) : Floating .double :=
  .ofRatio .double false (Precision.double.units x.val) (Precision.double.units y.val)

def powerLimit : Nat := 308

def powerOfTen (exponent : Nat) : Floating .double := .ofRatio .double false (Nat.pow 10 exponent) 1

def scaledOnce (x : Fin Precision.double.infinityPlace) (exponent : Int) : Floating .double :=
  match powerOfTen exponent.natAbs with
  | .finite _ power => if 0 ≤ exponent then product x power else quotient x power
  | other => other

def scaled? (x : Floating .double) (exponent : Int) : Option (Floating .double) :=
  match x with
  | .finite _ place =>
    if exponent.natAbs ≤ powerLimit then
      let result := scaledOnce place exponent
      if result.isFinite then some result else none
    else if place.val = 0 then some x
    else if 0 < exponent then none
    else scaled? (scaledOnce place (-powerLimit)) (exponent + powerLimit)
  | _ => none
termination_by (-exponent).toNat
decreasing_by
  have : powerLimit = 308 := rfl
  omega

def withSign (negative : Bool) : Floating .double → Floating .double
  | .finite _ place => .finite negative place
  | other => other

/-- What the token stands for, unless it is out of range. A minus sign keeps zero a real. -/
def meaning? : Number → Option Numeric
  | integer negative digits =>
    let n := Text.ofDigits digits
    if n ≤ significandLimit ∧ !negative then some (.integer n)
    else if 0 < n ∧ n ≤ Nat.pow 2 63 ∧ negative then some (.integer (-n))
    else
      let (significand, skipped) := takeSignificand 0 digits
      (scaled? (.ofInt .double significand) skipped).map fun x => .real (withSign negative x)
  | decimal numeral =>
    let (significand, skipped) := takeSignificand 0 numeral.whole
    let (significand', dropped) := takeSignificand significand numeral.fraction
    let exponent := numeral.exponent + skipped - (numeral.fraction.length - dropped : Nat)
    (scaled? (.ofInt .double significand') exponent).map fun x => .real (withSign numeral.negative x)

end Number

/-- The exponents of the leading digit from which and up to which numbers of a precision are written
without an exponent. -/
def plainExponents : Precision → Int × Int
  | .double => (-5, 16)
  | _ => (-6, 13)

def numeralOfDecimal (p : Precision) (negative : Bool) (d : Decimal) : Numeral :=
  let ds := Text.digits d.digits
  let point := d.exponent + ds.length
  let (lowest, highest) := plainExponents p
  if point - 1 < lowest ∨ highest ≤ point - 1 then ⟨negative, ds.take 1, ds.drop 1, point - 1⟩
  else if 0 ≤ d.exponent then ⟨negative, ds ++ List.replicate d.exponent.toNat '0', ['0'], 0⟩
  else if 0 < point then ⟨negative, ds.take point.toNat, ds.drop point.toNat, 0⟩
  else ⟨negative, ['0'], List.replicate (-point).toNat '0' ++ ds, 0⟩

end RegisterPlane.Json
