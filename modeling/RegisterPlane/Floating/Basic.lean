/-!
Binary floating-point numbers of three precisions. A finite magnitude is held as its place in
the increasing row of all finite magnitudes of the precision, so that order is the order of
places and every magnitude is a whole number of the same smallest unit. All NaNs are one.
-/

namespace RegisterPlane

inductive Precision where
  | half
  | single
  | double
  deriving DecidableEq, Repr

namespace Precision

def fractionBits : Precision → Nat
  | half => 10
  | single => 23
  | double => 52

def exponentBits : Precision → Nat
  | half => 5
  | single => 8
  | double => 11

def bits (p : Precision) : Nat := 1 + p.exponentBits + p.fractionBits

def signBit (p : Precision) : Nat := Nat.pow 2 (p.bits - 1)

/-- The smallest positive magnitude, which divides all others, is `2 ^ -scale`. -/
def scale (p : Precision) : Nat := Nat.pow 2 (p.exponentBits - 1) + p.fractionBits - 2

def binadeSize (p : Precision) : Nat := Nat.pow 2 p.fractionBits

def one (p : Precision) : Nat := Nat.pow 2 p.scale

/-- The number of finite magnitudes. Places run from zero up to it, and it stands for infinity. -/
def infinityPlace (p : Precision) : Nat := (Nat.pow 2 p.exponentBits - 1) * p.binadeSize

/-- The magnitude at a place, in units of `2 ^ -scale`. -/
def units (p : Precision) (place : Nat) : Nat :=
  let binade := place / p.binadeSize
  let fraction := place % p.binadeSize
  if binade = 0 then fraction else (p.binadeSize + fraction) * Nat.pow 2 (binade - 1)

end Precision

inductive Floating (p : Precision) where
  | nan
  | infinite (negative : Bool)
  | finite (negative : Bool) (place : Fin p.infinityPlace)
  deriving DecidableEq, Repr

namespace Floating

variable {p : Precision}

def zero (p : Precision) (negative : Bool) : Floating p :=
  .finite negative ⟨0, by cases p <;> decide⟩

def isNaN : Floating p → Bool
  | nan => true
  | _ => false

def isFinite : Floating p → Bool
  | finite _ _ => true
  | _ => false

/-- The signed place among all numbers; both zeros have the same, NaN has none. -/
def rank : Floating p → Option Int
  | nan => none
  | infinite negative => some (if negative then -p.infinityPlace else p.infinityPlace)
  | finite negative place => some (if negative then -place.val else place.val)

def isZero (x : Floating p) : Bool := x.rank == some 0

def order (x y : Floating p) : Option Ordering := do
  return compare (← x.rank) (← y.rank)

def same (x y : Floating p) : Bool := x.order y == some .eq

/-- The storage bits: sign, then place. A NaN is stored with the top fraction bit set. -/
def toBits : Floating p → Nat
  | nan => p.infinityPlace + p.binadeSize / 2
  | infinite negative => sign negative + p.infinityPlace
  | finite negative place => sign negative + place.val
where
  sign (negative : Bool) : Nat := if negative then p.signBit else 0

def ofBits (p : Precision) (bits : Nat) : Floating p :=
  let negative := bits / p.signBit % 2 == 1
  let place := bits % p.signBit
  if h : place < p.infinityPlace then .finite negative ⟨place, h⟩
  else if place = p.infinityPlace then .infinite negative
  else .nan

end Floating

end RegisterPlane
