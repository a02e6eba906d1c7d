namespace RegisterPlane.CommandLine

inductive UsageFault where
  | noCommand
  | unknownCommand (word : String)
  | unknownOption (word : String)
  | surplusOperand (word : String)
  | missingOperand (name : String)
  | missingValue (option : String)
  | needlessValue (option : String)
  | repeatedOption (option : String)
  /-- An operand or a value that names a file cannot be empty. -/
  | emptyPath (name : String)
  deriving DecidableEq, Repr

def UsageFault.message : UsageFault → String
  | noCommand => "a command is required"
  | unknownCommand word => "unrecognized command '" ++ word ++ "'"
  | unknownOption word => "unexpected argument '" ++ word ++ "'"
  | surplusOperand word => "unexpected argument '" ++ word ++ "'"
  | missingOperand name => "the argument <" ++ name ++ "> is required"
  | missingValue option => "a value is required for '--" ++ option ++ "'"
  | needlessValue option => "'--" ++ option ++ "' takes no value"
  | repeatedOption option => "'--" ++ option ++ "' cannot be used multiple times"
  | emptyPath name => "a value is required for '" ++ name ++ "'"

structure Parameter where
  name : String
  isPath : Bool := false
  deriving DecidableEq, Repr

structure Grammar where
  operands : List Parameter := []
  options : List Parameter := []
  flags : List String := []
  deriving DecidableEq, Repr

structure Arguments where
  operands : List String := []
  options : List (String × String) := []
  flags : List String := []
  deriving DecidableEq, Repr

inductive ArgumentRole where
  /-- Everything after it is an operand. -/
  | terminator
  | long (name : String) (value : Option String)
  | short (letters : List Char)
  | operand
  deriving DecidableEq, Repr

def ArgumentRole.ofText (text : String) : ArgumentRole :=
  match text.toList with
  | ['-', '-'] => .terminator
  | '-' :: '-' :: cs =>
    .long (String.ofList (cs.takeWhile (· ≠ '=')))
      (match cs.dropWhile (· ≠ '=') with
      | [] => none
      | _ :: value => some (String.ofList value))
  | '-' :: c :: cs => .short (c :: cs)
  | _ => .operand

def ArgumentRole.asksForHelp : ArgumentRole → Bool
  | long "help" none => true
  | short ('h' :: _) => true
  | _ => false

namespace Arguments

def option? (a : Arguments) (name : String) : Option String :=
  (a.options.find? (·.1 == name)).map (·.2)

def hasFlag (a : Arguments) (name : String) : Bool := a.flags.contains name

def accepts (p : Parameter) (text : String) : Except UsageFault Unit :=
  if p.isPath ∧ text = "" then .error (.emptyPath p.name) else .ok ()

def addOption (a : Arguments) (p : Parameter) (value : String) : Except UsageFault Arguments := do
  accepts p value
  return { a with options := a.options ++ [(p.name, value)] }

def addOperand (a : Arguments) (g : Grammar) (text : String) : Except UsageFault Arguments := do
  match g.operands[a.operands.length]? with
  | none => throw (.surplusOperand text)
  | some p =>
    accepts p text
    return { a with operands := a.operands ++ [text] }

/-- Reads arguments on top of those found before. `waiting` is the option whose value comes next, and
`ended` says that options have ended. There is no result when help is asked for. -/
def scan (g : Grammar) (found : Arguments) (ended : Bool) (waiting : Option Parameter) :
    List String → Except UsageFault (Option Arguments)
  | [] =>
    match waiting with
    | some p => .error (.missingValue p.name)
    | none => .ok (some found)
  | text :: rest =>
    match waiting with
    | some p =>
      if ArgumentRole.ofText text = .operand then
        match found.addOption p text with
        | .ok found => scan g found ended none rest
        | .error fault => .error fault
      else .error (.missingValue p.name)
    | none =>
      let role := if ended then ArgumentRole.operand else ArgumentRole.ofText text
      if role.asksForHelp then .ok none
      else
        match role with
        | .terminator => scan g found true none rest
        | .short _ => .error (.unknownOption text)
        | .operand =>
          match found.addOperand g text with
          | .ok found => scan g found ended none rest
          | .error fault => .error fault
        | .long name value =>
          if found.hasFlag name ∨ (found.option? name).isSome then .error (.repeatedOption name)
          else
            match g.options.find? (·.name == name), g.flags.contains name, value with
            | some p, _, some value =>
              match found.addOption p value with
              | .ok found => scan g found ended none rest
              | .error fault => .error fault
            | some p, _, none => scan g found ended (some p) rest
            | none, true, none => scan g { found with flags := found.flags ++ [name] } ended none rest
            | none, true, some _ => .error (.needlessValue name)
            | none, false, _ => .error (.unknownOption text)

def read (g : Grammar) (texts : List String) : Except UsageFault (Option Arguments) := do
  let some found ← scan g {} false none texts | return none
  match g.operands[found.operands.length]? with
  | some p => throw (.missingOperand p.name)
  | none => return some found

end Arguments

end RegisterPlane.CommandLine
