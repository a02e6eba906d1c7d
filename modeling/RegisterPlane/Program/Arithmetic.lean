import RegisterPlane.Program.Lexeme

namespace RegisterPlane.Program.Arithmetic

inductive Symbol where
  | number (n : Int)
  | name (text : String)
  | operator (text : String)
  deriving DecidableEq, Repr

def longOperators : List String := ["==", "!=", "<=", ">=", "&&", "||", "<<", ">>"]

def symbols? : Nat → List Char → Option (List Symbol)
  | 0, _ => none
  | _ + 1, [] => some []
  | steps + 1, c :: rest =>
    if c == ' ' || c == '\t' || c == '\n' then symbols? steps rest
    else if Text.isDigit c then
      let ds := (c :: rest).takeWhile Text.isDigit
      (symbols? steps ((c :: rest).drop ds.length)).map (.number (Text.ofDigits ds) :: ·)
    else if isNameStart c then
      let name := (c :: rest).takeWhile isNameChar
      (symbols? steps ((c :: rest).drop name.length)).map (.name (String.ofList name) :: ·)
    else
      let pair := String.ofList ((c :: rest).take 2)
      if longOperators.contains pair then (symbols? steps (rest.drop 1)).map (.operator pair :: ·)
      else if "+-*/%<>!()~&|^".toList.contains c then
        (symbols? steps rest).map (.operator (String.singleton c) :: ·)
      else none

def precedence? : String → Option Nat
  | "||" => some 1
  | "&&" => some 2
  | "|" => some 3
  | "^" => some 4
  | "&" => some 5
  | "==" | "!=" => some 6
  | "<" | ">" | "<=" | ">=" => some 7
  | "<<" | ">>" => some 8
  | "+" | "-" => some 9
  | "*" | "/" | "%" => some 10
  | _ => none

def truth (b : Bool) : Int := if b then 1 else 0

def wrap (i : Int) : Int := Int.bmod i (Nat.pow 2 64)

def bitwise (f : BitVec 64 → BitVec 64 → BitVec 64) (a b : Int) : Int :=
  (f (BitVec.ofInt 64 a) (BitVec.ofInt 64 b)).toInt

def combine? (operator : String) (a b : Int) : Option Int :=
  match operator with
  | "||" => some (truth (a != 0 || b != 0))
  | "&&" => some (truth (a != 0 && b != 0))
  | "|" => some (bitwise (· ||| ·) a b)
  | "^" => some (bitwise (· ^^^ ·) a b)
  | "&" => some (bitwise (· &&& ·) a b)
  | "==" => some (truth (a == b))
  | "!=" => some (truth (a != b))
  | "<" => some (truth (a < b))
  | ">" => some (truth (b < a))
  | "<=" => some (truth (a ≤ b))
  | ">=" => some (truth (b ≤ a))
  | "<<" => some (wrap (a * Nat.pow 2 (b % 64).toNat))
  | ">>" => some (a.fdiv (Nat.pow 2 (b % 64).toNat))
  | "+" => some (wrap (a + b))
  | "-" => some (wrap (a - b))
  | "*" => some (wrap (a * b))
  | "/" => if b == 0 then none else some (wrap (a.tdiv b))
  | "%" => if b == 0 then none else some (a.tmod b)
  | _ => none

def numberOf? (text : String) : Option Int :=
  match text.toList with
  | [] => some 0
  | '-' :: ds => if !ds.isEmpty && ds.all Text.isDigit then some (-(Text.ofDigits ds : Nat)) else none
  | ds => if ds.all Text.isDigit then some (Text.ofDigits ds : Nat) else none

mutual

def operand? (steps : Nat) (value : String → Option String) (ss : List Symbol) :
    Option (Int × List Symbol) :=
  match steps with
  | 0 => none
  | steps + 1 =>
    match ss with
    | .number n :: rest => some (n, rest)
    | .name text :: rest => (numberOf? ((value text).getD "")).map fun n => (n, rest)
    | .operator "(" :: rest => do
      let (n, rest) ← expression? steps value 0 rest
      match rest with
      | .operator ")" :: rest => some (n, rest)
      | _ => none
    | .operator "-" :: rest => (operand? steps value rest).map fun (n, rest) => (wrap (-n), rest)
    | .operator "+" :: rest => operand? steps value rest
    | .operator "!" :: rest => (operand? steps value rest).map fun (n, rest) => (truth (n == 0), rest)
    | .operator "~" :: rest => (operand? steps value rest).map fun (n, rest) => (-n - 1, rest)
    | _ => none

def expression? (steps : Nat) (value : String → Option String) (least : Nat) (ss : List Symbol) :
    Option (Int × List Symbol) :=
  match steps with
  | 0 => none
  | steps + 1 => do
    let (left, rest) ← operand? steps value ss
    extend? steps value least left rest

def extend? (steps : Nat) (value : String → Option String) (least : Nat) (left : Int)
    (ss : List Symbol) : Option (Int × List Symbol) :=
  match steps with
  | 0 => none
  | steps + 1 =>
    match ss with
    | .operator operator :: rest =>
      match precedence? operator with
      | none => some (left, .operator operator :: rest)
      | some p =>
        if p < least then some (left, .operator operator :: rest)
        else do
          let (right, rest) ← expression? steps value (p + 1) rest
          extend? steps value least (← combine? operator left right) rest
    | rest => some (left, rest)

end

def evaluate? (value : String → Option String) (text : String) : Option Int := do
  let ss ← symbols? (text.length + 1) text.toList
  let (n, rest) ← expression? (4 * ss.length + 8) value 0 ss
  if rest.isEmpty then some n else none

end RegisterPlane.Program.Arithmetic
