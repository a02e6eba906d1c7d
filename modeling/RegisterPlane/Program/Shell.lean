import RegisterPlane.Files.Path
import RegisterPlane.Group.State
import RegisterPlane.Log.Line
import RegisterPlane.Program.Arithmetic
import RegisterPlane.Program.Printing
import RegisterPlane.Program.Reader
import RegisterPlane.Text.Blank

/-!
The state of a running program, and what commands do to it. A program is a stack of frames that are
still to be run; a step takes the uppermost. What a step writes, and how long it pauses, is left in the
state for whoever runs the steps.
-/

namespace RegisterPlane.Program

inductive Channel where
  | stream (s : Stream)
  | captured
  | discarded
  | closed
  deriving DecidableEq, Repr

structure Variable where
  name : String
  value : String
  exported : Bool
  deriving DecidableEq, Repr

inductive Frame where
  | run (script : Script)
  | direct (program : String) (arguments : List String)
  | after (wanted : Bool) (next : Script)
  | negate
  | branch (yes no : Script)
  | loopTest (wanted : Bool) (condition body : Script)
  | loopAgain (wanted : Bool) (condition body : Script)
  | each (name : String) (values : List String) (body : Script)
  /-- The descriptors go back to what they were. -/
  | restore (out err : Channel) (input : List UInt8)
  /-- A function returns to these arguments. -/
  | leaveFunction (arguments : List String)
  /-- After the action of a trap, the status is what it was. -/
  | resume (status : Nat)
  | finish (status : Nat)

structure Shell where
  frames : List Frame
  bindings : List Variable
  directory : String
  directories : List String
  processId : Nat
  title : String := "sh"
  arguments : List String := []
  functions : List (String × Script) := []
  status : Nat := 0
  /-- The actions of trapped signals; an empty action ignores the signal. -/
  traps : List (Nat × String) := []
  exitOnError : Bool := false
  input : List UInt8 := []
  out : Channel := .stream .stdout
  err : Channel := .stream .stderr
  now : Nat := 0
  /-- When the commands in the background end. -/
  jobs : List Nat := []
  signals : List Nat := []
  /-- What has been written since the last look. -/
  written : List (Stream × List UInt8) := []
  captured : List UInt8 := []
  /-- How long nothing happens now, and whether a trapped signal ends that. -/
  pause : Nat := 0
  interruptible : Bool := false
  ended : Option ExitStatus := none

def programs : List String :=
  ["sh", "dash", "bash", "true", "false", "sleep", "pwd", "echo", "printf", "cat", "seq", "env",
    "printenv", "test", "[", "kill"]

def programOf? (path : String) : Option String :=
  let name :=
    match path.splitOn "/" with
    | ["", "bin", name] | ["", "usr", "bin", name] | [name] => name
    | _ => ""
  if programs.contains name then some name else none

def interpreters : List String := ["sh", "dash", "bash"]

def signalNames : List (String × Nat) :=
  [("EXIT", 0), ("HUP", 1), ("INT", 2), ("QUIT", 3), ("ILL", 4), ("TRAP", 5), ("ABRT", 6), ("BUS", 7),
    ("FPE", 8), ("KILL", 9), ("USR1", 10), ("SEGV", 11), ("USR2", 12), ("PIPE", 13), ("ALRM", 14),
    ("TERM", 15), ("CHLD", 17), ("CONT", 18), ("STOP", 19), ("URG", 23), ("WINCH", 28), ("SYS", 31)]

def killSignal : Nat := 9

def termSignal : Nat := 15

def harmlessSignals : List Nat := [0, 17, 18, 19, 23, 28]

def signalOf? (s : String) : Option Nat :=
  let cs := s.toList
  if !cs.isEmpty && cs.all Text.isDigit then some (Text.ofDigits cs)
  else
    let upper := String.ofList (cs.map Char.toUpper)
    signalNames.lookup (if upper.startsWith "SIG" then (upper.drop 3).toString else upper)

namespace Shell

def leave (s : Shell) (status : Nat) : Shell :=
  match s.traps.lookup 0 with
  | some action =>
    { s with
      traps := s.traps.filter (·.1 != 0)
      frames := [.run ((Script.read? action).getD .nothing), .finish (status % 256)] }
  | none => { s with frames := [], ended := some (.code (status % 256)) }

def setStatus (s : Shell) (status : Nat) : Shell := { s with status }

def write (s : Shell) (channel : Channel) (octets : List UInt8) : Bool × Shell :=
  match channel with
  | .stream stream => (true, { s with written := s.written ++ [(stream, octets)] })
  | .captured => (true, { s with captured := s.captured ++ octets })
  | .discarded => (true, s)
  | .closed => (false, s)

def print (s : Shell) (octets : List UInt8) : Shell :=
  let (fine, s) := s.write s.out octets
  s.setStatus (if fine then 0 else 1)

def complain (s : Shell) (status : Nat) (message : String) : Shell :=
  (s.write s.err (Text.Utf8.encode (s.title ++ ": 1: " ++ message ++ "\n"))).2.setStatus status

def valueOf? (s : Shell) (name : String) : Option String :=
  (s.bindings.find? (·.name == name)).map (·.value)

def assign (s : Shell) (name value : String) : Shell :=
  if s.bindings.any (·.name == name) then
    { s with bindings := s.bindings.map fun v => if v.name == name then { v with value } else v }
  else { s with bindings := s.bindings ++ [⟨name, value, false⟩] }

def exportVariable (s : Shell) (name : String) : Shell :=
  { s with bindings := s.bindings.map fun v => if v.name == name then { v with exported := true } else v }

def parameter? (s : Shell) (name : String) : Option String :=
  let number := fun (n : Nat) => some (String.ofList (Text.digits n))
  match name with
  | "?" => number s.status
  | "$" => number s.processId
  | "!" => if s.jobs.isEmpty then some "" else number (s.processId + s.jobs.length)
  | "#" => number s.arguments.length
  | "@" | "*" => some (" ".intercalate s.arguments)
  | "-" => some ""
  | "0" => some s.title
  | name =>
    if name.toList.all Text.isDigit && !name.isEmpty then
      s.arguments[Text.ofDigits name.toList - 1]?
    else s.valueOf? name

def completed (s : Shell) : Shell :=
  let isCondition : Frame → Bool
    | .after .. | .negate | .branch .. | .loopTest .. => true
    | _ => false
  if s.exitOnError && s.status != 0 && !s.frames.any isCondition && s.ended.isNone then s.leave s.status
  else s

def receive (s : Shell) (signal : Nat) : Shell :=
  if signal == killSignal then { s with frames := [], ended := some (.signal signal) }
  else
    match s.traps.lookup signal with
    | some "" => s
    | some _ =>
      { s with
        signals := s.signals ++ [signal]
        pause := if s.interruptible then 0 else s.pause }
    | none =>
      if harmlessSignals.contains signal then s
      else { s with frames := [], ended := some (.signal signal) }

/-- Whether the frames lie within a loop. A function does not reach the loops of its caller. -/
def isInLoop : List Frame → Bool
  | [] => false
  | .leaveFunction .. :: _ => false
  | .loopAgain .. :: _ => true
  | .each .. :: _ => true
  | _ :: rest => isInLoop rest

/-- Leaves as many loops as there are levels, undoing what lies between: for good, or for the next round of
the last of them. Levels beyond the outermost loop stand for that loop. -/
def unwind (again : Bool) (levels : Nat) : List Frame → Shell → Shell
  | [], s => { s with frames := [] }
  | .restore out err input :: rest, s => unwind again levels rest { s with out, err, input }
  | .loopAgain wanted condition body :: rest, s =>
    if levels > 1 && isInLoop rest then unwind again (levels - 1) rest s
    else { s with frames := if again then .loopAgain wanted condition body :: rest else rest }
  | .each name values body :: rest, s =>
    if levels > 1 && isInLoop rest then unwind again (levels - 1) rest s
    else { s with frames := if again then .each name values body :: rest else rest }
  | _ :: rest, s => unwind again levels rest s

def leaveLoops (s : Shell) (again : Bool) (levels : Nat) : Shell :=
  (if isInLoop s.frames then unwind again levels s.frames s else s).setStatus 0

def unwindFunction : List Frame → Shell → Shell
  | [], s => { s with frames := [] }
  | .restore out err input :: rest, s => unwindFunction rest { s with out, err, input }
  | .leaveFunction arguments :: rest, s => { s with frames := rest, arguments }
  | _ :: rest, s => unwindFunction rest s

def durationOf? (s : String) : Option Nat :=
  let cs := s.toList
  let whole := cs.takeWhile Text.isDigit
  let rest := cs.drop whole.length
  let (fraction, rest) := match rest with
    | '.' :: tail => (tail.takeWhile Text.isDigit, tail.dropWhile Text.isDigit)
    | rest => ([], rest)
  let unit := match rest with
    | [] | ['s'] => some 1
    | ['m'] => some 60
    | ['h'] => some 3600
    | ['d'] => some 86400
    | _ => none
  if whole.isEmpty && fraction.isEmpty then none
  else
    unit.map fun seconds =>
      Text.ofDigits (whole ++ fraction) * 1000000000 * seconds / Nat.pow 10 fraction.length

def compare? (operator left right : String) : Option Bool :=
  let a := integerArgument left
  let b := integerArgument right
  match operator with
  | "=" | "==" => some (left == right)
  | "!=" => some (left != right)
  | "-eq" => some (a == b)
  | "-ne" => some (a != b)
  | "-lt" => some (a < b)
  | "-le" => some (a ≤ b)
  | "-gt" => some (b < a)
  | "-ge" => some (b ≤ a)
  | _ => none

def directoryAt? (directories : List String) (start path : String) : Option String := do
  if path = "" then none
  let follow := fun (at' : List String) name =>
    let next := if Path.stays name then at' else if name = ".." then at'.dropLast else at' ++ [name]
    if directories.contains (pathOf next) then some next else none
  return pathOf
    (← (Path.names path).foldlM follow (if Path.isAbsolute path then [] else Path.steps start))
where
  pathOf (names : List String) : String := "/" ++ "/".intercalate names

/-- What `test` says of its arguments. Of files it knows the directories alone. -/
def test? (isDirectory : String → Bool) : List String → Option Bool
  | [] => some false
  | [word] => some (word != "")
  | ["!", word] => some (word == "")
  | [operator, word] =>
    match operator with
    | "-n" => some (word != "")
    | "-z" => some (word == "")
    | "-d" | "-e" | "-r" | "-x" => some (isDirectory word)
    | "-f" | "-s" | "-w" | "-L" => some false
    | _ => none
  | "!" :: rest => (test? isDirectory rest).map not
  | [left, operator, right] => compare? operator left right
  | _ => none

def fits : List Char → List Char → Bool
  | [], [] => true
  | '*' :: ps, [] => fits ps []
  | '*' :: ps, c :: cs => fits ps (c :: cs) || fits ('*' :: ps) cs
  | '?' :: ps, _ :: cs => fits ps cs
  | p :: ps, c :: cs => p == c && fits ps cs
  | _, _ => false
termination_by ps cs => ps.length + cs.length

def readLine (s : Shell) (names : List String) : Shell :=
  let line := s.input.takeWhile (· != 10)
  let rest := s.input.drop line.length
  let words := Text.words (String.ofList (Text.Utf8.decode line))
  let rec assignAll (s : Shell) : List String → List String → Shell
    | [], _ => s
    | [name], words => s.assign name (" ".intercalate words)
    | name :: names, words => assignAll (s.assign name (words.head?.getD "")) names (words.drop 1)
  let s := assignAll { s with input := rest.drop 1 } names words
  s.setStatus (if rest.isEmpty then 1 else 0)

def trap (s : Shell) : List String → Shell
  | action :: signals =>
    let numbers := signals.filterMap signalOf?
    let kept := s.traps.filter fun (n, _) => !numbers.contains n
    { s with
      traps := if action == "-" then kept else kept ++ numbers.map fun n => (n, action)
      status := if numbers.length == signals.length then 0 else 1 }
  | [] => s.setStatus 0

def kill (s : Shell) (arguments : List String) : Shell :=
  let (signal, targets) := match arguments with
    | "-s" :: name :: rest => (signalOf? name, rest)
    | word :: rest =>
      match word.toList with
      | '-' :: name => (signalOf? (String.ofList name), rest)
      | _ => (some termSignal, arguments)
    | [] => (none, [])
  match signal with
  | none => s.complain 2 "kill: Illegal option"
  | some signal =>
    targets.foldl (fun s target =>
      match target.toList with
      | [] => s.complain 1 "kill: No such process"
      | ds =>
        let id := Text.ofDigits ds
        if !ds.all Text.isDigit then s.complain 2 ("kill: Illegal number: " ++ target)
        else if id == s.processId then (s.setStatus 0).receive signal
        else if s.processId < id && id ≤ s.processId + s.jobs.length then
          { s with
            jobs := if signal == 0 then s.jobs else s.jobs.set (id - s.processId - 1) s.now
            status := 0 }
        else s.complain 1 "kill: No such process") s

def changeDirectory (s : Shell) (path : String) : Shell :=
  match directoryAt? s.directories s.directory path with
  | some directory => ({ s with directory }.assign "PWD" directory).setStatus 0
  | none => s.complain 2 ("cd: can't cd to " ++ path)

def sleep (s : Shell) (arguments : List String) : Shell :=
  let refuse := fun (reasons : List String) =>
    let lines := reasons.map ("sleep: " ++ · ++ "\n") ++ ["Try 'sleep --help' for more information.\n"]
    (s.write s.err (Text.Utf8.encode (String.join lines))).2.setStatus 1
  match arguments.mapM durationOf?, arguments with
  | none, words =>
    refuse ((words.filter fun word => (durationOf? word).isNone).map fun word =>
      "invalid time interval '" ++ word ++ "'")
  | some [], _ => refuse ["missing operand"]
  | some durations, _ =>
    { s with pause := durations.foldl (· + ·) s.pause, interruptible := false, status := 0 }

def wait (s : Shell) : Shell :=
  { s with
    pause := s.jobs.foldl max s.now - s.now
    interruptible := true
    status := 0 }

def sequenceOutput (arguments : List String) : List UInt8 :=
  let (first, last) : Int × Int := match arguments.map integerArgument with
    | [last] => (1, last)
    | first :: last :: _ => (first, last)
    | [] => (1, 0)
  (List.range (last - first + 1).toNat).flatMap fun (i : Nat) =>
    Text.Utf8.encode (String.ofList (Text.integerDigits (first + (i : Int)) ++ ['\n']))

def printEnvironment (s : Shell) (names : List String) : Shell :=
  match names with
  | [] =>
    s.print (s.bindings.flatMap fun v =>
      if v.exported then Text.Utf8.encode (v.name ++ "=" ++ v.value ++ "\n") else [])
  | names =>
    let values := names.filterMap s.valueOf?
    (s.print (values.flatMap fun value => Text.Utf8.encode (value ++ "\n"))).setStatus
      (if values.length == names.length then 0 else 1)

def command? (s : Shell) (internal : Bool) (name : String) (arguments : List String) : Option Shell :=
  let isDirectory := fun path => (directoryAt? s.directories s.directory path).isSome
  match name with
  | ":" | "true" => some (s.setStatus 0)
  | "false" => some (s.setStatus 1)
  | "echo" => some (s.print (echoOutput internal arguments))
  | "printf" =>
    match arguments with
    | [] => some (s.complain 2 "printf: usage: printf format [arg ...]")
    | format :: rest => some (s.print (printfOutput (rest.length + 1) format rest))
  | "pwd" => some (s.print (Text.Utf8.encode (s.directory ++ "\n")))
  | "sleep" => some (s.sleep arguments)
  | "cat" => some ({ s with input := [] }.print s.input)
  | "seq" => some (s.print (sequenceOutput arguments))
  | "printenv" => some (s.printEnvironment arguments)
  | "test" =>
    match test? isDirectory arguments with
    | some answer => some (s.setStatus (if answer then 0 else 1))
    | none => some (s.complain 2 "test: unexpected operator")
  | "[" =>
    match arguments.getLast?, test? isDirectory arguments.dropLast with
    | some "]", some answer => some (s.setStatus (if answer then 0 else 1))
    | some "]", none => some (s.complain 2 "[: unexpected operator")
    | _, _ => some (s.complain 2 "[: missing ]")
  | "kill" => some (s.kill arguments)
  | _ => none

def builtin? (s : Shell) (name : String) (arguments : List String) : Option Shell :=
  let number := fun (otherwise : Nat) => match arguments with
    | word :: _ => (integerArgument word).natAbs
    | [] => otherwise
  match name with
  | "exit" =>
    match arguments with
    | word :: _ =>
      if !word.isEmpty && word.toList.all Text.isDigit then some (s.leave (Text.ofDigits word.toList))
      else some ((s.complain 2 ("exit: Illegal number: " ++ word)).leave 2)
    | [] => some (s.leave s.status)
  | "return" => some ((unwindFunction s.frames s).setStatus (number s.status))
  | "break" => some (s.leaveLoops false (number 1))
  | "continue" => some (s.leaveLoops true (number 1))
  | "trap" => some (s.trap arguments)
  | "read" => some (s.readLine (arguments.filter (· != "-r")))
  | "wait" => some s.wait
  | "cd" => some (s.changeDirectory (arguments.head?.getD ((s.valueOf? "HOME").getD "/")))
  | "shift" => some { s with arguments := s.arguments.drop (number 1), status := 0 }
  | "unset" =>
    some { s with bindings := s.bindings.filter fun v => !arguments.contains v.name, status := 0 }
  | "export" =>
    some ((arguments.foldl (fun s word =>
      match word.splitOn "=" with
      | name :: value :: more => (s.assign name ("=".intercalate (value :: more))).exportVariable name
      | _ => s.exportVariable word) s).setStatus 0)
  | "set" =>
    match arguments with
    | "-e" :: _ => some { s with exitOnError := true, status := 0 }
    | "+e" :: _ => some { s with exitOnError := false, status := 0 }
    | "--" :: rest => some { s with arguments := rest, status := 0 }
    | _ => some (s.setStatus 0)
  | _ => none

end Shell

end RegisterPlane.Program
