namespace RegisterPlane.Text

def digitChar (n : Nat) : Char := Char.ofNat ('0'.toNat + n % 10)

def digitValue (c : Char) : Nat := c.toNat - '0'.toNat

def digits (n : Nat) : List Char :=
  if n < 10 then [digitChar n] else digits (n / 10) ++ [digitChar n]
termination_by n
decreasing_by omega

def ofDigits (cs : List Char) : Nat :=
  cs.foldl (fun n c => n * 10 + digitValue c) 0

def integerDigits (i : Int) : List Char :=
  if i < 0 then '-' :: digits i.natAbs else digits i.natAbs

def isDigit (c : Char) : Bool := '0' ≤ c && c ≤ '9'

def digitCount (n : Nat) : Nat := if n = 0 then 0 else (digits n).length

def padded (width n : Nat) : List Char :=
  let ds := digits n
  List.replicate (width - ds.length) '0' ++ ds

end RegisterPlane.Text
