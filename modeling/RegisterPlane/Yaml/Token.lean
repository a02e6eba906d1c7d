import RegisterPlane.Yaml.Scalar

namespace RegisterPlane.Yaml

inductive ScalarStyle where
  | plain
  | quoted
  | literal
  | folded
  deriving DecidableEq, Repr

abbrev Address := List UInt8

inductive Token where
  | version (major minor : Nat)
  | handle (name : String) (stem : Address)
  | documentStart
  | documentEnd
  | blockSequenceStart
  | blockMappingStart
  | blockEnd
  | flowSequenceStart
  | flowSequenceEnd
  | flowMappingStart
  | flowMappingEnd
  | blockEntry
  | flowEntry
  | key
  | value
  | alias (name : String)
  | anchor (name : String)
  | tag (handle : String) (suffix : Address)
  | scalar (style : ScalarStyle) (text : String)
  deriving DecidableEq, Repr

def isTagChar (bracketed : Bool) (c : Char) : Bool :=
  isNameChar c || ";/?:@&=+$.%!~*()".toList.contains c || c == '\'' ||
    (bracketed && (c == ',' || c == '[' || c == ']'))

def octetsOwed? (octet : Nat) : Option Nat :=
  if octet < 0x80 then some 0
  else if octet < 0xC0 then none
  else if octet < 0xE0 then some 1
  else if octet < 0xF0 then some 2
  else if octet < 0xF8 then some 3
  else none

/-- The octets of an address, in which `%` escapes an octet by two digits. The octets that the encoding of a
character still owes have to be escaped as well. -/
def addressOctets? : Nat → List Char → Option Address
  | 0, [] => some []
  | _ + 1, [] => none
  | owed, '%' :: a :: b :: rest => do
    let octet := (← hexDigitValue? a) * 16 + (← hexDigitValue? b)
    let owed ← match owed with
      | 0 => octetsOwed? octet
      | owed + 1 => if octet / 0x40 = 2 then some owed else none
    return octet.toUInt8 :: (← addressOctets? owed rest)
  | 0, c :: rest => if c = '%' then none else (addressOctets? 0 rest).map (c.toNat.toUInt8 :: ·)
  | _ + 1, _ :: _ => none

def scanAddress? (bracketed : Bool) (head : List Char) (c : Cursor) : Option (Address × Cursor) := do
  let chars := c.rest.takeWhile (isTagChar bracketed)
  if head.isEmpty && chars.isEmpty then none
  let octets := (head.drop 1).map (·.toNat.toUInt8) ++ (← addressOctets? 0 chars)
  return (octets.takeWhile (· ≠ 0), c.skip chars.length)

def scanHandle? (c : Cursor) : Option (List Char × Cursor) :=
  match c.rest with
  | '!' :: rest =>
    let name := rest.takeWhile isNameChar
    if (rest.drop name.length).head? == some '!' then
      some ('!' :: name ++ ['!'], c.skip (name.length + 2))
    else some ('!' :: name, c.skip (name.length + 1))
  | _ => none

/-- A tag: `!<address>`, `!handle!suffix`, `!suffix`, or `!` alone. -/
def scanTag? (inFlow : Bool) (c : Cursor) : Option (Token × Cursor) := do
  let (token, c) ←
    match c.rest with
    | '!' :: '<' :: _ => do
      let (address, c) ← scanAddress? true [] (c.skip 2)
      if c.rest.head? ≠ some '>' then none
      some (.tag "" address, c.skip 1)
    | _ => do
      let (handle, c) ← scanHandle? c
      if handle.length > 1 && handle.getLast? == some '!' then
        let (suffix, c) ← scanAddress? false [] c
        some (.tag (String.ofList handle) suffix, c)
      else
        let (suffix, c) ← scanAddress? false handle c
        some (if suffix.isEmpty then .tag "" "!".toUTF8.toList else .tag "!" suffix, c)
  if atBlank c.rest || (inFlow && c.rest.head? == some ',') then some (token, c) else none

def scanAnchorName? (c : Cursor) : Option (String × Cursor) :=
  let name := c.rest.takeWhile isNameChar
  let after := c.skip name.length
  let ends := atBlank after.rest ||
    (after.rest.head?.any fun x => ['?', ':', ',', ']', '\x7d', '%', '@', '\x60'].contains x)
  if name.isEmpty || !ends then none else some (String.ofList name, after)

def scanVersionNumber? (c : Cursor) : Option (Nat × Cursor) :=
  let ds := c.rest.takeWhile Text.isDigit
  if ds.isEmpty || 9 < ds.length then none else some (Text.ofDigits ds, c.skip ds.length)

def scanDirective? (c : Cursor) : Option (Token × Cursor) := do
  let name := c.rest.takeWhile isNameChar
  let c := c.skip name.length
  if !atBlank c.rest then none
  let c := c.skipWhile isSpaceOrTab
  let (token, c) ←
    match String.ofList name with
    | "YAML" => do
      let (major, c) ← scanVersionNumber? c
      if c.rest.head? ≠ some '.' then none
      let (minor, c) ← scanVersionNumber? (c.skip 1)
      some (.version major minor, c)
    | "TAG" => do
      let (handle, c) ← scanHandle? c
      if handle ≠ ['!'] && !(handle.length > 1 && handle.getLast? == some '!') then none
      if !(c.rest.head?.any isSpaceOrTab) then none
      let (stem, c) ← scanAddress? true [] (c.skipWhile isSpaceOrTab)
      if !atBlank c.rest then none
      some (.handle (String.ofList handle) stem, c)
    | _ => none
  return (token, (← c.skipToLineEnd?).skipBreak)

end RegisterPlane.Yaml
