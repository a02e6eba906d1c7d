import RegisterPlane.Floating.Basic

/-!
Rounding of exact numbers to floating point. One function does all of it: the nearest place to
a ratio, an exact half going to the even place. Conversion between precisions and from integers
is that rounding applied to the exact value, and twice from double to half; conversion to integers
rounds halves away from zero.
-/

namespace RegisterPlane

def roundHalfEven (num den : Nat) : Nat :=
  let quotient := num / den
  let remainder := num % den
  if 2 * remainder < den then quotient
  else if den < 2 * remainder then quotient + 1
  else quotient + quotient % 2

def roundHalfUp (num den : Nat) : Nat := (2 * num + den) / (2 * den)

/-- The place nearest to `num / den` units, a half going to the even place. Magnitudes are spaced
`2 ^ shift` units apart around the ratio, and places of one binade count multiples of that. -/
def Precision.nearestPlace (p : Precision) (num den : Nat) : Nat :=
  let shift := Nat.log2 (num / den) - p.fractionBits
  shift * p.binadeSize + roundHalfEven num (den * Nat.pow 2 shift)

namespace Floating

variable {p : Precision}

/-- The number with this sign nearest to the magnitude `num / den`; what lies beyond the finite
numbers becomes infinite. -/
def ofRatio (p : Precision) (negative : Bool) (num den : Nat) : Floating p :=
  let place := p.nearestPlace (num * p.one) den
  if h : place < p.infinityPlace then .finite negative ⟨place, h⟩ else .infinite negative

def ofInt (p : Precision) (i : Int) : Floating p := ofRatio p (decide (i < 0)) i.natAbs 1

def nearest (q : Precision) : Floating p → Floating q
  | nan => .nan
  | infinite negative => .infinite negative
  | finite negative place => ofRatio q negative (p.units place.val) p.one

/-- The number at another precision. A double becomes a half by way of a single, so that it is rounded twice. -/
def convert (q : Precision) (x : Floating p) : Floating q :=
  if p = .double ∧ q = .half then (x.nearest .single).nearest q else x.nearest q

def integerLimit : Nat := Nat.pow 2 127

/-- The nearest integer, halves away from zero, held to `-2 ^ 127 … 2 ^ 127 - 1`; NaN gives zero. -/
def toInteger : Floating p → Int
  | nan => 0
  | infinite true => -integerLimit
  | infinite false => integerLimit - 1
  | finite negative place =>
    let magnitude := roundHalfUp (p.units place.val) p.one
    if negative then -(min magnitude integerLimit : Nat) else (min magnitude (integerLimit - 1) : Nat)

end Floating

end RegisterPlane
