import RegisterPlane.Program.Script
import RegisterPlane.Text.Digits

namespace RegisterPlane.Program

inductive Lexeme where
  | word (word : Word)
  | operator (text : String)
  /-- A redirection operator, with the descriptor before it if there is one. -/
  | redirect (descriptor : Option Nat) (text : String)
  | lineEnd

def isNameStart (c : Char) : Bool := ('a' ≤ c && c ≤ 'z') || ('A' ≤ c && c ≤ 'Z') || c == '_'

def isNameChar (c : Char) : Bool := isNameStart c || Text.isDigit c

def isShellBlank (c : Char) : Bool := c == ' ' || c == '\t'

def endsWord (c : Char) : Bool := isShellBlank c || "\n;&|()<>".toList.contains c

def takeBalanced (opening closing : Char) (depth : Nat) (quote : Option Char) :
    List Char → Option (List Char × List Char)
  | [] => none
  | c :: cs =>
    let go := fun depth quote =>
      (takeBalanced opening closing depth quote cs).map fun (inner, rest) => (c :: inner, rest)
    match quote with
    | some q => go depth (if c == q then none else some q)
    | none =>
      if c == '\'' || c == '"' then go depth (some c)
      else if c == opening then go (depth + 1) none
      else if c == closing then if depth == 0 then some ([], cs) else go (depth - 1) none
      else go depth none

def literal (quoted : Bool) (reversed : List Char) : List Part :=
  if reversed.isEmpty then [] else [.text quoted (String.ofList reversed.reverse)]

inductive Surrounding where
  | bare
  | quoted
  /-- Inside an arithmetic expression or braces, where only expansions are special. -/
  | inner
  deriving DecidableEq

mutual

def readParts? (steps : Nat) (surrounding : Surrounding) (reversed : List Char) (cs : List Char) :
    Option (List Part × List Char) :=
  match steps with
  | 0 => none
  | steps + 1 =>
    let quoted := surrounding == .quoted
    let before := literal quoted reversed
    let andThen := fun (parts : List Part) (rest : List Char) =>
      (readParts? steps surrounding [] rest).map fun (more, rest) => (before ++ parts ++ more, rest)
    match cs with
    | [] => if quoted then none else some (before, [])
    | '$' :: rest =>
      match readExpansion? steps quoted rest with
      | some (part, rest) => andThen [part] rest
      | none => readParts? steps surrounding ('$' :: reversed) rest
    | '\x60' :: rest =>
      match takeBalanced '\x00' '\x60' 0 none rest with
      | some (inner, rest) => andThen [.output quoted (String.ofList inner)] rest
      | none => none
    | '\\' :: c :: rest =>
      if c == '\n' then readParts? steps surrounding reversed rest
      else if quoted && !"$\x60\"\\".toList.contains c then
        readParts? steps surrounding (c :: '\\' :: reversed) rest
      else if quoted then readParts? steps surrounding (c :: reversed) rest
      else andThen [.text true (String.singleton c)] rest
    | '"' :: rest =>
      if quoted then some (before, rest)
      else
        match readParts? steps .quoted [] rest with
        | some (parts, rest) => andThen (if parts.isEmpty then [.text true ""] else parts) rest
        | none => none
    | '\'' :: rest =>
      if quoted then readParts? steps surrounding ('\'' :: reversed) rest
      else
        let inner := rest.takeWhile (· != '\'')
        match rest.drop inner.length with
        | _ :: rest => andThen [.text true (String.ofList inner)] rest
        | [] => none
    | c :: rest =>
      if surrounding == .bare && endsWord c then some (before, c :: rest)
      else readParts? steps surrounding (c :: reversed) rest

def readExpansion? (steps : Nat) (quoted : Bool) (cs : List Char) : Option (Part × List Char) :=
  match steps with
  | 0 => none
  | steps + 1 =>
    match cs with
    | '(' :: '(' :: rest => do
      let (inner, rest) ← takeBalanced '(' ')' 0 none rest
      let (parts, _) ← readParts? steps .inner [] inner
      match rest with
      | ')' :: rest => some (.arithmetic quoted parts, rest)
      | _ => none
    | '(' :: rest => do
      let (inner, rest) ← takeBalanced '(' ')' 0 none rest
      some (.output quoted (String.ofList inner), rest)
    | '\x7b' :: rest => do
      let (inner, rest) ← takeBalanced '\x7b' '\x7d' 0 none rest
      let name := parameterName inner
      if name.isEmpty then none
      let parameter := String.ofList name
      match inner.drop name.length with
      | [] => some (.parameter quoted parameter, rest)
      | ':' :: operator :: word => do
        let (parts, _) ← readParts? steps .inner [] word
        some (.replaced quoted parameter true operator parts, rest)
      | operator :: word => do
        let (parts, _) ← readParts? steps .inner [] word
        some (.replaced quoted parameter false operator parts, rest)
    | cs =>
      let name := parameterName cs
      if name.isEmpty then none
      else some (.parameter quoted (String.ofList name), cs.drop name.length)
where
  parameterName (cs : List Char) : List Char :=
    match cs with
    | [] => []
    | c :: _ =>
      if isNameStart c then cs.takeWhile isNameChar
      else if Text.isDigit c || "?$!#@*-".toList.contains c then [c]
      else []

end

def operatorAt? : List Char → Option (String × List Char)
  | '&' :: '&' :: rest => some ("&&", rest)
  | '|' :: '|' :: rest => some ("||", rest)
  | ';' :: ';' :: rest => some (";;", rest)
  | '&' :: rest => some ("&", rest)
  | '|' :: rest => some ("|", rest)
  | ';' :: rest => some (";", rest)
  | '(' :: rest => some ("(", rest)
  | ')' :: rest => some (")", rest)
  | _ => none

def redirectAt? : List Char → Option (String × List Char)
  | '>' :: '>' :: rest => some (">>", rest)
  | '>' :: '&' :: rest => some (">&", rest)
  | '<' :: '&' :: rest => some ("<&", rest)
  | '>' :: rest => some (">", rest)
  | '<' :: rest => some ("<", rest)
  | _ => none

def readLexemes? : Nat → List Char → Option (List Lexeme)
  | 0, _ => none
  | _ + 1, [] => some []
  | steps + 1, c :: rest =>
    let add := fun lexeme rest => (readLexemes? steps rest).map (lexeme :: ·)
    let digits := (c :: rest).takeWhile Text.isDigit
    let afterDigits := (c :: rest).drop digits.length
    if isShellBlank c then readLexemes? steps rest
    else if c == '\n' then add .lineEnd rest
    else if c == '#' then readLexemes? steps (rest.dropWhile (· != '\n'))
    else if c == '\\' && rest.head? == some '\n' then readLexemes? steps (rest.drop 1)
    else
      match redirectAt? afterDigits, operatorAt? (c :: rest) with
      | some (text, rest), _ =>
        add (.redirect (if digits.isEmpty then none else some (Text.ofDigits digits)) text) rest
      | none, some (text, rest) => add (.operator text) rest
      | none, none => do
        let (word, rest) ← readParts? (2 * rest.length + 4) .bare [] (c :: rest)
        add (.word word) rest

def lexemes? (text : String) : Option (List Lexeme) :=
  readLexemes? (text.length + 1) text.toList

end RegisterPlane.Program
