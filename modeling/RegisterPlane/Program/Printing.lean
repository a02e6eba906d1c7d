import RegisterPlane.Text.Digits
import RegisterPlane.Text.Quoted
import RegisterPlane.Text.Utf8

namespace RegisterPlane.Program

def isOctal (c : Char) : Bool := '0' ≤ c && c ≤ '7'

def octet (ds : List Char) : UInt8 :=
  (ds.foldl (fun n c => n * 8 + (c.toNat - '0'.toNat)) 0).toUInt8

def escapeChar? : Char → Option UInt8
  | 'a' => some 7
  | 'b' => some 8
  | 't' => some 9
  | 'n' => some 10
  | 'v' => some 11
  | 'f' => some 12
  | 'r' => some 13
  | '\\' => some 92
  | _ => none

def octetsOf (c : Char) : List UInt8 := Text.Utf8.encode (String.singleton c)

/-- A text with its escapes resolved, and whether it was cut short by `\c`. Octal escapes begin with a
zero. The first argument bounds the steps. -/
def unescape : Nat → List Char → List UInt8 × Bool
  | 0, _ => ([], false)
  | _ + 1, [] => ([], false)
  | steps + 1, '\\' :: c :: rest =>
    if c == 'c' then ([], true)
    else if c == '0' then
      let ds := (rest.take 3).takeWhile isOctal
      let (more, cut) := unescape steps (rest.drop ds.length)
      (octet ds :: more, cut)
    else
      let (more, cut) := unescape steps rest
      match escapeChar? c with
      | some b => (b :: more, cut)
      | none => (octetsOf '\\' ++ octetsOf c ++ more, cut)
  | steps + 1, c :: rest =>
    let (more, cut) := unescape steps rest
    (octetsOf c ++ more, cut)

def echoOutput (escapes : Bool) (words : List String) : List UInt8 :=
  let (words, feed) : List String × List UInt8 := match words with
    | "-n" :: rest => (rest, [])
    | rest => (rest, [10])
  let text := " ".intercalate words
  if escapes then
    let (octets, cut) := unescape (text.length + 1) text.toList
    octets ++ if cut then [] else feed
  else Text.Utf8.encode text ++ feed

def integerArgument (s : String) : Int :=
  match s.toList with
  | '-' :: ds => -(Text.ofDigits (ds.takeWhile Text.isDigit) : Nat)
  | '+' :: ds => (Text.ofDigits (ds.takeWhile Text.isDigit) : Nat)
  | ds => (Text.ofDigits (ds.takeWhile Text.isDigit) : Nat)

def octalDigits (n : Nat) : List Char :=
  if n < 8 then [Text.digitChar n] else octalDigits (n / 8) ++ [Text.digitChar (n % 8)]
termination_by n
decreasing_by omega

def converted (conversion : Char) (argument : String) : List UInt8 :=
  let ofChars := fun cs => Text.Utf8.encode (String.ofList cs)
  match conversion with
  | 's' => Text.Utf8.encode argument
  | 'b' => (unescape (argument.length + 1) argument.toList).1
  | 'c' => Text.Utf8.encode (String.ofList (argument.toList.take 1))
  | 'd' | 'i' | 'u' => ofChars (Text.integerDigits (integerArgument argument))
  | 'x' => ofChars (Text.hexDigits (integerArgument argument).natAbs)
  | 'X' => ofChars ((Text.hexDigits (integerArgument argument).natAbs).map Char.toUpper)
  | 'o' => ofChars (octalDigits (integerArgument argument).natAbs)
  | _ => []

def paddedTo (flags : List Char) (width : Nat) (octets : List UInt8) : List UInt8 :=
  let missing := width - octets.length
  if flags.contains '-' then octets ++ List.replicate missing 32
  else List.replicate missing (if flags.contains '0' then 48 else 32) ++ octets

def formatOnce : Nat → List Char → List String → List UInt8 × List String
  | 0, _, arguments => ([], arguments)
  | _ + 1, [], arguments => ([], arguments)
  | steps + 1, '%' :: rest, arguments =>
    let flags := rest.takeWhile fun c => c == '-' || c == '0' || c == '+' || c == ' ' || c == '#'
    let rest := rest.drop flags.length
    let width := rest.takeWhile Text.isDigit
    match rest.drop width.length with
    | '%' :: rest =>
      let (more, left) := formatOnce steps rest arguments
      (37 :: more, left)
    | conversion :: rest =>
      let (more, left) := formatOnce steps rest (arguments.drop 1)
      (paddedTo flags (Text.ofDigits width) (converted conversion (arguments.head?.getD "")) ++ more,
        left)
    | [] => ([], arguments)
  | steps + 1, '\\' :: c :: rest, arguments =>
    if isOctal c then
      let ds := ((c :: rest).take 3).takeWhile isOctal
      let (more, left) := formatOnce steps ((c :: rest).drop ds.length) arguments
      (octet ds :: more, left)
    else
      let (more, left) := formatOnce steps rest arguments
      match escapeChar? c with
      | some b => (b :: more, left)
      | none => (octetsOf '\\' ++ octetsOf c ++ more, left)
  | steps + 1, c :: rest, arguments =>
    let (more, left) := formatOnce steps rest arguments
    (octetsOf c ++ more, left)

def printfOutput : Nat → String → List String → List UInt8
  | 0, _, _ => []
  | passes + 1, format, arguments =>
    let (output, left) := formatOnce (format.length + 1) format.toList arguments
    if left.isEmpty || left.length == arguments.length then output
    else output ++ printfOutput passes format left

end RegisterPlane.Program
