/-!
Octets as text. A sequence that is no UTF-8 is replaced by U+FFFD, from its first octet up to the one
that shows it; decoding then goes on with that octet.
-/

namespace RegisterPlane.Text.Utf8

/-- Inside a character: how many octets are owed, in which bounds the next one must be, and the code
point so far. -/
inductive State where
  | start
  | owed (count : Nat) (low high : UInt8) (code : Nat)
  deriving DecidableEq, Repr

def replacement : Char := '\ufffd'

def begin' (b : UInt8) : List Char × State :=
  if b < 0x80 then ([Char.ofNat b.toNat], .start)
  else if 0xC2 ≤ b && b ≤ 0xDF then ([], .owed 1 0x80 0xBF (b.toNat - 0xC0))
  else if b == 0xE0 then ([], .owed 2 0xA0 0xBF 0)
  else if b == 0xED then ([], .owed 2 0x80 0x9F 0xD)
  else if 0xE1 ≤ b && b ≤ 0xEF then ([], .owed 2 0x80 0xBF (b.toNat - 0xE0))
  else if b == 0xF0 then ([], .owed 3 0x90 0xBF 0)
  else if b == 0xF4 then ([], .owed 3 0x80 0x8F 4)
  else if 0xF1 ≤ b && b ≤ 0xF3 then ([], .owed 3 0x80 0xBF (b.toNat - 0xF0))
  else ([replacement], .start)

def step : State → UInt8 → List Char × State
  | .start, b => begin' b
  | .owed count low high code, b =>
    if low ≤ b && b ≤ high then
      let code' := code * 64 + (b.toNat - 0x80)
      if count ≤ 1 then ([Char.ofNat code'], .start) else ([], .owed (count - 1) 0x80 0xBF code')
    else
      let (chars, state) := begin' b
      (replacement :: chars, state)

def finish : State → List Char
  | .start => []
  | .owed .. => [replacement]

def decodeFrom : State → List UInt8 → List Char
  | state, [] => finish state
  | state, b :: bs =>
    let (chars, state') := step state b
    chars ++ decodeFrom state' bs

def decode (bs : List UInt8) : List Char := decodeFrom .start bs

def encode (s : String) : List UInt8 := s.toUTF8.toList

end RegisterPlane.Text.Utf8
