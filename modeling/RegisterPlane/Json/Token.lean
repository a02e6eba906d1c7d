import RegisterPlane.Json.Basic
import RegisterPlane.Text.Quoted

/-!
JSON text as a row of tokens. The scanner takes one character at a time; its mode says what the
characters before belong to. Main statement of the design: the scan of a text is a fold, so that
the tokens of two texts that meet between tokens are the tokens of the one and then of the other.
-/

namespace RegisterPlane.Json

inductive Token where
  | openBrace
  | closeBrace
  | openBracket
  | closeBracket
  | comma
  | colon
  | null
  | bool (b : Bool)
  | number (n : Number)
  /-- Without a text if the escapes leave half of a surrogate pair alone. -/
  | string (text : Option String)
  deriving DecidableEq, Repr

/-- What the scanner is inside of. Texts are held as code units in reverse: code points, or the
halves of surrogate pairs that escapes spell. -/
inductive Mode where
  | between
  | word (chars : List Char)
  | text (units : List Nat)
  | escape (units : List Nat)
  | hex (units : List Nat) (digits value : Nat)
  deriving DecidableEq, Repr

def isSpace (c : Char) : Bool := c == ' ' || c == '\t' || c == '\n' || c == '\r'

def isWordChar (c : Char) : Bool :=
  Text.isDigit c || ('a' ≤ c && c ≤ 'z') || ('A' ≤ c && c ≤ 'Z') || c == '-' || c == '+' || c == '.'

def isHighSurrogate (n : Nat) : Bool := 0xD800 ≤ n && n ≤ 0xDBFF

def isLowSurrogate (n : Nat) : Bool := 0xDC00 ≤ n && n ≤ 0xDFFF

def charsOfUnits? : List Nat → Option (List Char)
  | [] => some []
  | high :: low :: rest =>
    if isHighSurrogate high then
      if isLowSurrogate low then
        (charsOfUnits? rest).map (Char.ofNat (0x10000 + (high - 0xD800) * 0x400 + (low - 0xDC00)) :: ·)
      else none
    else if isLowSurrogate high then none
    else (charsOfUnits? (low :: rest)).map (Char.ofNat high :: ·)
  | [unit] =>
    if isHighSurrogate unit || isLowSurrogate unit then none else some [Char.ofNat unit]

def unsignedNumber? (negative : Bool) (cs : List Char) : Option Number :=
  let whole := cs.takeWhile Text.isDigit
  let rest := cs.dropWhile Text.isDigit
  if whole = [] ∨ (whole.head? = some '0' ∧ whole.length ≠ 1) then none
  else
    match rest with
    | [] => some (.integer negative whole)
    | '.' :: tail =>
      let fraction := tail.takeWhile Text.isDigit
      if fraction = [] then none
      else
        match tail.dropWhile Text.isDigit with
        | [] => some (.decimal ⟨negative, whole, fraction, 0⟩)
        | c :: power => if c = 'e' ∨ c = 'E' then exponent? whole fraction power else none
    | c :: power => if c = 'e' ∨ c = 'E' then exponent? whole [] power else none
where
  exponent? (whole fraction power : List Char) : Option Number :=
    (Numeral.readExponent? power).map fun e => .decimal ⟨negative, whole, fraction, e⟩

def wordToken? (cs : List Char) : Option Token :=
  if cs = "true".toList then some (.bool true)
  else if cs = "false".toList then some (.bool false)
  else if cs = "null".toList then some .null
  else
    match cs with
    | '-' :: rest => (unsignedNumber? true rest).map .number
    | rest => (unsignedNumber? false rest).map .number

def hexValue? (c : Char) : Option Nat :=
  if Text.isDigit c then some (c.toNat - '0'.toNat)
  else if 'a' ≤ c && c ≤ 'f' then some (c.toNat - 'a'.toNat + 10)
  else if 'A' ≤ c && c ≤ 'F' then some (c.toNat - 'A'.toNat + 10)
  else none

def escapedChar? : Char → Option Char
  | '"' => some '"'
  | '\\' => some '\\'
  | '/' => some '/'
  | 'b' => some '\x08'
  | 'f' => some '\x0c'
  | 'n' => some '\n'
  | 'r' => some '\r'
  | 't' => some '\t'
  | _ => none

def stepBetween (c : Char) : Option (List Token × Mode) :=
  if isSpace c then some ([], .between)
  else if c = '\x7b' then some ([.openBrace], .between)
  else if c = '\x7d' then some ([.closeBrace], .between)
  else if c = '[' then some ([.openBracket], .between)
  else if c = ']' then some ([.closeBracket], .between)
  else if c = ',' then some ([.comma], .between)
  else if c = ':' then some ([.colon], .between)
  else if c = '"' then some ([], .text [])
  else if isWordChar c then some ([], .word [c])
  else none

def step : Mode → Char → Option (List Token × Mode)
  | .between, c => stepBetween c
  | .word chars, c =>
    if isWordChar c then some ([], .word (c :: chars))
    else do
      let token ← wordToken? chars.reverse
      let (tokens, mode) ← stepBetween c
      return (token :: tokens, mode)
  | .text units, c =>
    if c = '"' then some ([.string ((charsOfUnits? units.reverse).map String.ofList)], .between)
    else if c = '\\' then some ([], .escape units)
    else if c.toNat < 0x20 then none
    else some ([], .text (c.toNat :: units))
  | .escape units, c =>
    if c = 'u' then some ([], .hex units 0 0)
    else (escapedChar? c).map fun e => ([], .text (e.toNat :: units))
  | .hex units digits value, c => do
    let d ← hexValue? c
    let value' := value * 16 + d
    return ([], if digits = 3 then .text (value' :: units) else .hex units (digits + 1) value')

def finish : Mode → Option (List Token)
  | .between => some []
  | .word chars => (wordToken? chars.reverse).map ([·])
  | _ => none

def scan : Mode → List Char → Option (List Token)
  | mode, [] => finish mode
  | mode, c :: cs => do
    let (tokens, mode') ← step mode c
    let rest ← scan mode' cs
    return tokens ++ rest

end RegisterPlane.Json
