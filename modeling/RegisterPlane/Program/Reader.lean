import RegisterPlane.Program.Lexeme

namespace RegisterPlane.Program

def bareText? : Word → Option String
  | [.text false text] => some text
  | _ => none

def Lexeme.reserved? : Lexeme → Option String
  | .word parts => bareText? parts
  | .operator text => some text
  | _ => none

def endsList (l : Lexeme) : Bool :=
  match l.reserved? with
  | some text =>
    ["then", "else", "elif", "fi", "do", "done", "esac", "\x7d", ")", ";;"].contains text
  | none => false

abbrev Lexemes := List Lexeme

def expect? (text : String) : Lexemes → Option Lexemes
  | l :: rest => if l.reserved? == some text then some rest else none
  | [] => none

def skipLineEnds : Lexemes → Lexemes
  | .lineEnd :: rest => skipLineEnds rest
  | rest => rest

def descriptor? (word : Word) : Option Nat := do
  let text ← bareText? word
  if text.toList.all Text.isDigit && !text.isEmpty then some (Text.ofDigits text.toList) else none

def redirection? (descriptor : Option Nat) (operator : String) (word : Word) : Option Redirection :=
  let default := if operator.startsWith "<" then 0 else 1
  let fd := descriptor.getD default
  if operator == ">&" || operator == "<&" then
    if bareText? word == some "-" then some ⟨fd, .closed⟩
    else (descriptor? word).map fun other => ⟨fd, .copy other⟩
  else some ⟨fd, .file word⟩

def readRedirections : Lexemes → List Redirection × Lexemes
  | .redirect descriptor operator :: .word word :: rest =>
    match redirection? descriptor operator word with
    | some r =>
      let (more, rest) := readRedirections rest
      (r :: more, rest)
    | none => ([], .redirect descriptor operator :: .word word :: rest)
  | rest => ([], rest)

def assignment? : Word → Option (String × Word)
  | .text false text :: more =>
    let name := text.toList.takeWhile (· != '=')
    match text.toList.drop name.length with
    | '=' :: value =>
      if name.head?.any isNameStart && name.all isNameChar then
        some (String.ofList name,
          (if value.isEmpty then [] else [.text false (String.ofList value)]) ++ more)
      else none
    | _ => none
  | _ => none

structure SimpleCommand where
  assignments : List (String × Word) := []
  words : List Word := []
  redirections : List Redirection := []

def readSimple (command : SimpleCommand) : Lexemes → SimpleCommand × Lexemes
  | .redirect descriptor operator :: .word word :: rest =>
    match redirection? descriptor operator word with
    | some r => readSimple { command with redirections := command.redirections ++ [r] } rest
    | none => (command, .redirect descriptor operator :: .word word :: rest)
  | .word word :: rest =>
    match assignment? word with
    | some a =>
      if command.words.isEmpty then
        readSimple { command with assignments := command.assignments ++ [a] } rest
      else readSimple { command with words := command.words ++ [word] } rest
    | none => readSimple { command with words := command.words ++ [word] } rest
  | rest => (command, rest)

def readWords : Lexemes → List Word × Lexemes
  | .word word :: rest =>
    let (words, rest) := readWords rest
    (word :: words, rest)
  | rest => ([], rest)

def readAlternatives? : Lexemes → Option (List Word × Lexemes)
  | .word word :: .operator ")" :: rest => some ([word], rest)
  | .word word :: .operator "|" :: rest =>
    (readAlternatives? rest).map fun (words, rest) => (word :: words, rest)
  | _ => none

mutual

def readList? (steps : Nat) (ls : Lexemes) : Option (Script × Lexemes) :=
  match steps with
  | 0 => none
  | steps + 1 =>
    match skipLineEnds ls with
    | [] => some (.nothing, [])
    | l :: rest =>
      if endsList l then some (.nothing, l :: rest)
      else do
        let (first, rest) ← readChain? steps (l :: rest)
        match rest with
        | .operator "&" :: rest =>
          let (second, rest) ← readList? steps rest
          some (.sequence (.background first) second, rest)
        | .operator ";" :: rest | .lineEnd :: rest =>
          let (second, rest) ← readList? steps rest
          some (.sequence first second, rest)
        | [] => some (first, [])
        | l :: rest => if endsList l then some (first, l :: rest) else none

def readChain? (steps : Nat) (ls : Lexemes) : Option (Script × Lexemes) :=
  match steps with
  | 0 => none
  | steps + 1 => do
    let (first, rest) ← readPipeline? steps ls
    readChainRest? steps first rest

def readChainRest? (steps : Nat) (first : Script) (ls : Lexemes) : Option (Script × Lexemes) :=
  match steps with
  | 0 => none
  | steps + 1 =>
    match ls with
    | .operator "&&" :: rest => do
      let (second, rest) ← readPipeline? steps (skipLineEnds rest)
      readChainRest? steps (.after true first second) rest
    | .operator "||" :: rest => do
      let (second, rest) ← readPipeline? steps (skipLineEnds rest)
      readChainRest? steps (.after false first second) rest
    | rest => some (first, rest)

def readPipeline? (steps : Nat) (ls : Lexemes) : Option (Script × Lexemes) :=
  match steps with
  | 0 => none
  | steps + 1 =>
    match expect? "!" ls with
    | some rest => do
      let (body, rest) ← readPipeline? steps rest
      some (.negated body, rest)
    | none => do
      let (first, rest) ← readCommand? steps ls
      match rest with
      | .operator "|" :: rest =>
        let (second, rest) ← readPipeline? steps (skipLineEnds rest)
        some (.pipe first second, rest)
      | rest => some (first, rest)

def readCommand? (steps : Nat) (ls : Lexemes) : Option (Script × Lexemes) :=
  match steps with
  | 0 => none
  | steps + 1 =>
    match ls with
    | [] => none
    | l :: rest =>
      match l.reserved? with
      | some "(" => do
        let (body, rest) ← readList? steps rest
        let (redirections, rest) := readRedirections (← expect? ")" rest)
        some (.subshell body redirections, rest)
      | some "\x7b" => do
        let (body, rest) ← readList? steps rest
        let (redirections, rest) := readRedirections (← expect? "\x7d" rest)
        some (.grouped body redirections, rest)
      | some "if" => do
        let (body, rest) ← readBranch? steps rest
        let (redirections, rest) := readRedirections rest
        some (.grouped body redirections, rest)
      | some "while" => readLoop? steps true rest
      | some "until" => readLoop? steps false rest
      | some "for" => readEach? steps rest
      | some "case" => readChoose? steps rest
      | some text =>
        match rest with
        | .operator "(" :: .operator ")" :: rest => do
          let (body, rest) ← readCommand? steps (skipLineEnds rest)
          some (.define text body, rest)
        | _ => readSimple? l rest
      | none => readSimple? l rest
where
  readSimple? (l : Lexeme) (rest : Lexemes) : Option (Script × Lexemes) :=
    if endsList l then none
    else
      match readSimple {} (l :: rest) with
      | (⟨[], [], []⟩, _) => none
      | (⟨assignments, words, redirections⟩, rest) =>
        some (.simple assignments words redirections, rest)

def readBranch? (steps : Nat) (ls : Lexemes) : Option (Script × Lexemes) :=
  match steps with
  | 0 => none
  | steps + 1 => do
    let (condition, rest) ← readList? steps ls
    let (yes, rest) ← readList? steps (← expect? "then" rest)
    match rest with
    | [] => none
    | l :: rest =>
      match l.reserved? with
      | some "fi" => some (.branch condition yes .nothing, rest)
      | some "else" =>
        let (no, rest) ← readList? steps rest
        some (.branch condition yes no, ← expect? "fi" rest)
      | some "elif" =>
        let (no, rest) ← readBranch? steps rest
        some (.branch condition yes no, rest)
      | _ => none

def readLoop? (steps : Nat) (wanted : Bool) (ls : Lexemes) : Option (Script × Lexemes) :=
  match steps with
  | 0 => none
  | steps + 1 => do
    let (condition, rest) ← readList? steps ls
    let (body, rest) ← readList? steps (← expect? "do" rest)
    let (redirections, rest) := readRedirections (← expect? "done" rest)
    some (.grouped (.loop wanted condition body) redirections, rest)

def readEach? (steps : Nat) (ls : Lexemes) : Option (Script × Lexemes) :=
  match steps with
  | 0 => none
  | steps + 1 =>
    match ls with
    | .word name :: rest => do
      let name ← bareText? name
      let (words, rest) ←
        match expect? "in" (skipLineEnds rest) with
        | some rest => some (readWords rest)
        | none => some ([[.parameter true "@"]], rest)
      let rest := match rest with
        | .operator ";" :: rest => rest
        | rest => rest
      let (body, rest) ← readList? steps (← expect? "do" (skipLineEnds rest))
      let (redirections, rest) := readRedirections (← expect? "done" rest)
      some (.grouped (.each name words body) redirections, rest)
    | _ => none

def readChoose? (steps : Nat) (ls : Lexemes) : Option (Script × Lexemes) :=
  match steps with
  | 0 => none
  | steps + 1 =>
    match ls with
    | .word word :: rest => do
      let (arms, rest) ← readArms? steps (skipLineEnds (← expect? "in" (skipLineEnds rest)))
      some (.choose word arms, rest)
    | _ => none

def readArms? (steps : Nat) (ls : Lexemes) : Option (List (List Word × Script) × Lexemes) :=
  match steps with
  | 0 => none
  | steps + 1 =>
    match expect? "esac" ls with
    | some rest => some ([], rest)
    | none => do
      let ls := (expect? "(" ls).getD ls
      let (alternatives, rest) ← readAlternatives? ls
      let (body, rest) ← readList? steps rest
      let rest := (expect? ";;" rest).getD rest
      let (arms, rest) ← readArms? steps (skipLineEnds rest)
      some ((alternatives, body) :: arms, rest)

end

def Script.read? (text : String) : Option Script := do
  let ls ← lexemes? text
  let (script, rest) ← readList? (8 * ls.length + 8) ls
  if rest.isEmpty then some script else none

end RegisterPlane.Program
