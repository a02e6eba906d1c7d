import RegisterPlane.Floating.Rounding
import RegisterPlane.Text.Digits

/-!
Decimal numbers and the shortest of them that stands for a floating-point number: on ever finer
decimal grids, the first grid with a point that rounds back, and the nearest such point on it.
-/

namespace RegisterPlane

structure Decimal where
  digits : Nat
  exponent : Int
  deriving DecidableEq, Repr

namespace Decimal

def numerator (d : Decimal) : Nat := d.digits * Nat.pow 10 d.exponent.toNat

def denominator (d : Decimal) : Nat := Nat.pow 10 (-d.exponent).toNat

def trim (d : Decimal) : Decimal := go d.digits d.exponent
where
  go (digits : Nat) (exponent : Int) : Decimal :=
    if digits ≠ 0 ∧ digits % 10 = 0 then go (digits / 10) (exponent + 1) else ⟨digits, exponent⟩
  termination_by digits
  decreasing_by omega

def leading (d : Decimal) : Int := d.exponent + (Text.digits d.digits).length - 1

/-- The floating-point number nearest to a signed decimal. Magnitudes that are surely beyond the
largest number or below half the smallest are settled by their leading digit alone. -/
def toFloating (p : Precision) (negative : Bool) (d : Decimal) : Floating p :=
  if d.digits = 0 then .zero p negative
  else if d.leading ≥ Nat.pow 2 (p.exponentBits - 1) then .infinite negative
  else if d.leading < -p.scale then .zero p negative
  else .ofRatio p negative d.numerator d.denominator

end Decimal

inductive Tie where
  | up
  | even
  deriving DecidableEq, Repr

namespace Precision

variable (p : Precision)

def leadingExponent (num den : Nat) : Int :=
  if den ≤ num then (Text.digitCount (num / den) : Int) - 1
  else -(Text.digitCount ((den - 1) / num) : Int)

def readsBack (place : Nat) (d : Decimal) : Bool :=
  p.nearestPlace (d.numerator * p.one) d.denominator == place

/-- The point of the grid of multiples of `10 ^ exponent` that is nearest to the magnitude at
`place`, among its two neighbours on the grid that round back to it. -/
def gridPoint? (tie : Tie) (place : Nat) (exponent : Int) : Option Decimal :=
  let num := p.units place * Nat.pow 10 (-exponent).toNat
  let den := p.one * Nat.pow 10 exponent.toNat
  let low := num / den
  let below : Decimal := ⟨low, exponent⟩
  let above : Decimal := ⟨low + 1, exponent⟩
  match p.readsBack place below, p.readsBack place above with
  | false, false => none
  | true, false => some below
  | false, true => some above
  | true, true =>
    let nearest :=
      match compare (2 * (num % den)) den, tie with
      | .lt, _ => below
      | .gt, _ => above
      | .eq, .up => above
      | .eq, .even => if low % 2 = 0 then below else above
    some nearest

def exactDecimal (place : Nat) : Decimal := ⟨p.units place * Nat.pow 5 p.scale, -p.scale⟩

def digitLimit : Nat := 17

/-- The shortest decimal that rounds to the magnitude at `place`, and of those the nearest to it. -/
def shortest (tie : Tie) (place : Nat) : Decimal :=
  if place = 0 then ⟨0, 0⟩
  else
    let leading := leadingExponent (p.units place) p.one
    let found := (List.range digitLimit).findSome? fun (n : Nat) =>
      p.gridPoint? tie place (leading - n)
    (found.getD (p.exactDecimal place)).trim

end Precision

end RegisterPlane
