import RegisterPlane.Floating.Shortest

namespace RegisterPlane

structure Numeral where
  negative : Bool
  whole : List Char
  fraction : List Char
  exponent : Int
  deriving DecidableEq, Repr

namespace Numeral

def decimal (n : Numeral) : Decimal :=
  ⟨Text.ofDigits (n.whole ++ n.fraction), n.exponent - n.fraction.length⟩

def toFloating (p : Precision) (n : Numeral) : Floating p := n.decimal.toFloating p n.negative

def readExponent? : List Char → Option Int
  | '-' :: cs => (digitsOnly? cs).map fun n => -(n : Int)
  | '+' :: cs => (digitsOnly? cs).map Int.ofNat
  | cs => (digitsOnly? cs).map Int.ofNat
where
  digitsOnly? (cs : List Char) : Option Nat :=
    if cs ≠ [] ∧ cs.all Text.isDigit then some (Text.ofDigits cs) else none

/-- An unsigned numeral: digits with at most one point among or beside them, then perhaps an
exponent. At least one digit is needed, on either side of the point. -/
def readMagnitude? (negative : Bool) (cs : List Char) : Option Numeral :=
  let whole := cs.takeWhile Text.isDigit
  let rest := cs.dropWhile Text.isDigit
  let (fraction, rest) :=
    match rest with
    | '.' :: tail => (tail.takeWhile Text.isDigit, tail.dropWhile Text.isDigit)
    | _ => ([], rest)
  if whole = [] ∧ fraction = [] then none
  else
    match rest with
    | [] => some ⟨negative, whole, fraction, 0⟩
    | c :: tail =>
      if c = 'e' ∨ c = 'E' then
        (readExponent? tail).map fun exponent => ⟨negative, whole, fraction, exponent⟩
      else none

end Numeral

namespace Decimal

def positional (d : Decimal) : List Char :=
  let ds := Text.digits d.digits
  let point := d.exponent + ds.length
  if 0 ≤ d.exponent then ds ++ List.replicate d.exponent.toNat '0'
  else if 0 < point then ds.take point.toNat ++ '.' :: ds.drop point.toNat
  else '0' :: '.' :: List.replicate (-point).toNat '0' ++ ds

end Decimal

namespace Floating

variable {p : Precision}

def signText (negative : Bool) : List Char := if negative then ['-'] else []

/-- Plain text: the shortest digits that read back at this precision, without an exponent. -/
def plainText : Floating p → List Char
  | nan => "NaN".toList
  | infinite negative => signText negative ++ "inf".toList
  | finite negative place => signText negative ++ (p.shortest .up place.val).positional

def readUnsigned? (p : Precision) (negative : Bool) (cs : List Char) : Option (Floating p) :=
  match String.ofList (cs.map Char.toLower) with
  | "nan" => some .nan
  | "inf" | "infinity" => some (.infinite negative)
  | _ => (Numeral.readMagnitude? negative cs).map (Numeral.toFloating p)

def read? (p : Precision) : List Char → Option (Floating p)
  | '-' :: cs => readUnsigned? p true cs
  | '+' :: cs => readUnsigned? p false cs
  | cs => readUnsigned? p false cs

end Floating

end RegisterPlane
