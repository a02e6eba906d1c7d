import RegisterPlane.Program.Shell

/-!
One step of a running program: words are expanded and the command at hand is run. Commands in
parentheses, pipes and output substitutions run to their end within the step.
-/

namespace RegisterPlane.Program

structure Fields where
  complete : List String := []
  current : Option (List Char) := none

namespace Fields

def append (f : Fields) (cs : List Char) : Fields := { f with current := some (f.current.getD [] ++ cs) }

def close (f : Fields) : Fields :=
  match f.current with
  | some cs => { complete := f.complete ++ [String.ofList cs] }
  | none => f

def appendSplit (f : Fields) (text : String) : Fields :=
  text.toList.foldl (fun f c =>
    if c == ' ' || c == '\t' || c == '\n' then f.close else f.append [c]) f

def appendText (f : Fields) (quoted : Bool) (text : String) : Fields :=
  if quoted then f.append text.toList else f.appendSplit text

def appendAll (f : Fields) : List String → Fields
  | [] => f
  | [text] => f.append text.toList
  | text :: texts => (f.append text.toList).close.appendAll texts

end Fields

def statusOf : ExitStatus → Nat
  | .code n => n
  | .signal n => 128 + n

def withoutLineEnds (octets : List UInt8) : List UInt8 :=
  (octets.reverse.dropWhile (· == 10)).reverse

namespace Shell

/-- Takes the writes, the pause and the status of a shell that was run within this one. -/
def absorb (s inner : Shell) : Shell :=
  { s with
    written := s.written ++ inner.written
    pause := s.pause + inner.pause
    status := (inner.ended.map statusOf).getD inner.status }

def inside (s : Shell) (script : Script) (out : Channel) : Shell :=
  { s with
    frames := [.run script]
    traps := s.traps.filter (·.2 == "")
    signals := []
    written := []
    captured := []
    pause := 0
    jobs := []
    out
    ended := none }

def redirect (s : Shell) (descriptor : Nat) (target : Channel) : Shell :=
  match descriptor with
  | 1 => { s with out := target }
  | 2 => { s with err := target }
  | 0 => { s with input := [] }
  | _ => s

def channel (s : Shell) : Nat → Channel
  | 1 => s.out
  | 2 => s.err
  | _ => .closed

/-- The channel of a file. Other files than those of the terminal keep nothing. -/
def fileChannel (path : String) : Channel :=
  if path == "/dev/stdout" then .stream .stdout
  else if path == "/dev/stderr" then .stream .stderr
  else .discarded

def actOnSignals (s : Shell) : Shell :=
  match s.signals with
  | [] => s
  | signal :: rest =>
    let action := (s.traps.lookup signal).getD ""
    { s with
      signals := rest
      frames := .run ((Script.read? action).getD .nothing) :: .resume s.status :: s.frames }

mutual

def expandPart (steps : Nat) (s : Shell) (f : Fields) (part : Part) : Shell × Fields :=
  match steps with
  | 0 => (s, f)
  | steps + 1 =>
    match part with
    | .text quoted text => (s, if quoted || text != "" then f.append text.toList else f)
    | .parameter quoted name =>
      if name == "@" && quoted then (s, f.appendAll s.arguments)
      else (s, f.appendText quoted ((s.parameter? name).getD ""))
    | .replaced quoted name orEmpty operator word =>
      let value := s.parameter? name
      let missing := value.isNone || (orEmpty && value == some "")
      match operator with
      | '-' =>
        if missing then
          let (s, text) := expandText steps s word
          (s, f.appendText quoted text)
        else (s, f.appendText quoted (value.getD ""))
      | '=' =>
        if missing then
          let (s, text) := expandText steps s word
          (s.assign name text, f.appendText quoted text)
        else (s, f.appendText quoted (value.getD ""))
      | '+' =>
        if missing then (s, if quoted then f.append [] else f)
        else
          let (s, text) := expandText steps s word
          (s, f.appendText quoted text)
      | '?' =>
        if missing then
          let (s, text) := expandText steps s word
          ((s.complain 2 (name ++ ": " ++ text)).leave 2, f)
        else (s, f.appendText quoted (value.getD ""))
      | _ => (s, f.appendText quoted (value.getD ""))
    | .arithmetic quoted expression =>
      let (s, text) := expandText steps s expression
      match Arithmetic.evaluate? s.valueOf? text with
      | some n => (s, f.appendText quoted (String.ofList (Text.integerDigits n)))
      | none => ((s.complain 2 ("arithmetic expression: " ++ text)).leave 2, f)
    | .output quoted script =>
      let inner := runAll steps (s.inside ((Script.read? script).getD .nothing) .captured)
      let text := String.ofList (Text.Utf8.decode (withoutLineEnds inner.captured))
      (s.absorb inner, f.appendText quoted text)

def expandParts (steps : Nat) (s : Shell) (f : Fields) (word : List Part) : Shell × Fields :=
  match steps with
  | 0 => (s, f)
  | steps + 1 =>
    match word with
    | [] => (s, f)
    | part :: rest =>
      let (s, f) := expandPart steps s f part
      expandParts steps s f rest

def expandText (steps : Nat) (s : Shell) (word : Word) : Shell × String :=
  match steps with
  | 0 => (s, "")
  | steps + 1 =>
    match word with
    | [] => (s, "")
    | part :: rest =>
      let quoted : Part := match part with
        | .text _ text => .text true text
        | .parameter _ name => .parameter true (if name == "@" then "*" else name)
        | .replaced _ name orEmpty operator word => .replaced true name orEmpty operator word
        | .arithmetic _ expression => .arithmetic true expression
        | .output _ script => .output true script
      let (s, f) := expandPart steps s {} quoted
      let (s, text) := expandText steps s rest
      (s, " ".intercalate f.close.complete ++ text)

def expandWords (steps : Nat) (s : Shell) (words : List Word) : Shell × List String :=
  match steps with
  | 0 => (s, [])
  | steps + 1 =>
    match words with
    | [] => (s, [])
    | word :: rest =>
      let (s, f) := expandParts steps s {} word
      let (s, more) := expandWords steps s rest
      (s, f.close.complete ++ more)

def applyRedirections (steps : Nat) (s : Shell) (rs : List Redirection) : Shell :=
  match steps with
  | 0 => s
  | steps + 1 =>
    match rs with
    | [] => s
    | r :: rest =>
      let s := match r.target with
        | .copy other => s.redirect r.descriptor (s.channel other)
        | .closed => s.redirect r.descriptor .closed
        | .file path =>
          let (s, path) := expandText steps s path
          s.redirect r.descriptor (fileChannel path)
      applyRedirections steps s rest

def applyAssignments (steps : Nat) (s : Shell) (assignments : List (String × Word)) : Shell :=
  match steps with
  | 0 => s
  | steps + 1 =>
    match assignments with
    | [] => s
    | (name, word) :: rest =>
      let (s, value) := expandText steps s word
      applyAssignments steps (s.assign name value) rest

def invoke (steps : Nat) (s : Shell) (name : String) (arguments : List String) : Shell :=
  match steps with
  | 0 => s
  | steps + 1 =>
    match s.functions.lookup name with
    | some body =>
      { s with frames := .run body :: .leaveFunction s.arguments :: s.frames, arguments }
    | none =>
      match s.builtin? name arguments with
      | some s => s
      | none =>
        let program := (programOf? name).getD name
        match s.command? (program == name) program arguments with
        | some s => s
        | none =>
          if name == "exec" then
            match arguments with
            | [] => s
            | name :: rest =>
              if (programOf? name).isSome then
                let s := { s with frames := [], traps := s.traps.filter (·.2 == "") }
                let s := invoke steps s name rest
                { s with frames := s.frames ++ [.finish s.status] }
              else (s.complain 127 ("exec: " ++ name ++ ": not found")).leave 127
          else if name == "eval" then
            match Script.read? (" ".intercalate arguments) with
            | some script => { s with frames := .run script :: s.frames }
            | none => (s.complain 2 "eval: Syntax error").leave 2
          else if program == "env" then
            let assigned := arguments.takeWhile fun word => word.toList.contains '='
            match arguments.drop assigned.length with
            | [] => s.printEnvironment []
            | name :: rest =>
              let given := assigned.foldl (fun s word =>
                match word.splitOn "=" with
                | name :: value => (s.assign name ("=".intercalate value)).exportVariable name
                | [] => s) s
              { invoke steps given name rest with bindings := s.bindings }
          else if interpreters.contains program then
            match arguments with
            | "-c" :: text :: rest =>
              match Script.read? text with
              | some script =>
                let inner := { s.inside script s.out with
                  title := rest.head?.getD name
                  arguments := rest.drop 1
                  bindings := s.bindings.filter (·.exported) }
                s.absorb (runAll steps inner)
              | none => s.complain 2 "Syntax error"
            | _ => s.setStatus 0
          else if name.contains '/' && (directoryAt? s.directories s.directory name).isSome then
            s.complain 126 (name ++ ": Permission denied")
          else s.complain 127 (name ++ ": not found")

/-- Runs a simple command. Without words, assignments and redirections stand alone; those of a command
hold for it only, except that `exec` keeps its redirections. -/
def runSimple (steps : Nat) (s : Shell) (assignments : List (String × Word)) (words : List Word)
    (redirections : List Redirection) : Shell :=
  match steps with
  | 0 => s
  | steps + 1 =>
    let (s, fields) := expandWords steps s words
    if s.ended.isSome then s
    else
      match fields with
      | [] =>
        let before := s.setStatus (if words.isEmpty then 0 else s.status)
        let applied := applyRedirections steps (applyAssignments steps before assignments) redirections
        { applied with out := s.out, err := s.err, input := s.input }.completed
      | name :: arguments =>
        let assigned := assignments.foldl (fun s (name, _) => s.exportVariable name)
          (applyAssignments steps s assignments)
        let redirected := applyRedirections steps assigned redirections
        let depth := s.frames.length
        let done := invoke steps redirected name arguments
        let done :=
          if assignments.isEmpty || done.frames.length > depth then done
          else { done with bindings := s.bindings ++ done.bindings.filter fun v =>
              !(s.bindings.any (·.name == v.name)) && !(assignments.any (·.1 == v.name)) }
        if redirections.isEmpty || (name == "exec" && arguments.isEmpty) then done.completed
        else if done.frames.length > depth then
          { done with frames :=
              done.frames.take (done.frames.length - depth) ++
                .restore s.out s.err s.input :: done.frames.drop (done.frames.length - depth) }
        else { done with out := s.out, err := s.err, input := s.input }.completed

def runScript (steps : Nat) (s : Shell) (script : Script) : Shell :=
  match steps with
  | 0 => s
  | steps + 1 =>
    let push := fun (frames : List Frame) => { s with frames := frames ++ s.frames }
    let redirected := fun (redirections : List Redirection) (s : Shell) =>
      if redirections.isEmpty then s
      else
        let saved : Frame := .restore s.out s.err s.input
        { applyRedirections steps s redirections with frames := saved :: s.frames }
    match script with
    | .nothing => s
    | .simple assignments words redirections => runSimple steps s assignments words redirections
    | .sequence first second => push [.run first, .run second]
    | .after wanted first second => push [.run first, .after wanted second]
    | .negated body => push [.run body, .negate]
    | .branch condition yes no => push [.run condition, .branch yes no]
    | .loop wanted condition body => push [.run condition, .loopTest wanted condition body]
    | .each name words body =>
      let (s, values) := expandWords steps s words
      { s with frames := .each name values body :: s.frames, status := 0 }
    | .choose word arms =>
      let (s, subject) := expandText steps s word
      chooseArm steps s subject arms
    | .grouped body redirections =>
      let s := redirected redirections s
      { s with frames := .run body :: s.frames }
    | .subshell body redirections =>
      let inner := applyRedirections steps (s.inside body s.out) redirections
      let inner := runAll steps inner
      let s := { s.absorb inner with captured := s.captured ++ inner.captured }
      s.completed
    | .background body =>
      let inner := runAll steps (s.inside body s.out)
      { s with
        written := s.written ++ inner.written
        jobs := s.jobs ++ [s.now + s.pause + inner.pause]
        status := 0 }
    | .pipe first second =>
      let producer := runAll steps (s.inside first .captured)
      let s' := s.absorb producer
      let consumer := runAll steps { s'.inside second s.out with input := producer.captured }
      let s' := { s'.absorb consumer with captured := s.captured ++ consumer.captured }
      s'.completed
    | .define name body =>
      { s with functions := (name, body) :: s.functions.filter (·.1 != name), status := 0 }

def chooseArm (steps : Nat) (s : Shell) (subject : String) (arms : List (List Word × Script)) :
    Shell :=
  match steps with
  | 0 => s
  | steps + 1 =>
    match arms with
    | [] => s.setStatus 0
    | (patterns, body) :: rest =>
      let (s, fitting) := patterns.foldl (fun (s, found) pattern =>
        let (s, text) := expandText steps s pattern
        (s, found || fits text.toList subject.toList)) (s, false)
      if fitting then { s with frames := .run body :: s.frames, status := 0 }
      else chooseArm steps s subject rest

def step (steps : Nat) (s : Shell) : Shell :=
  match steps with
  | 0 => { s with ended := some (.code 2) }
  | steps + 1 =>
    let s := s.actOnSignals
    match s.frames with
    | [] => s.leave s.status
    | frame :: rest =>
      let s := { s with frames := rest }
      match frame with
      | .run script => runScript steps s script
      | .direct program arguments =>
        (s.command? false program arguments).getD (invoke steps s program arguments)
      | .after wanted next =>
        if (s.status == 0) == wanted then { s with frames := .run next :: rest } else s
      | .negate => s.setStatus (if s.status == 0 then 1 else 0)
      | .branch yes no =>
        if s.status == 0 then { s with frames := .run yes :: rest }
        else { s with frames := .run no :: rest, status := 0 }
      | .loopTest wanted condition body =>
        if (s.status == 0) == wanted then
          { s with frames := .run body :: .loopAgain wanted condition body :: rest }
        else s.setStatus 0
      | .loopAgain wanted condition body =>
        { s with frames := .run condition :: .loopTest wanted condition body :: rest }
      | .each name values body =>
        match values with
        | [] => s
        | value :: values =>
          { s.assign name value with frames := .run body :: .each name values body :: rest }
      | .restore out err input => { s with out, err, input }
      | .leaveFunction arguments => { s with arguments }
      | .resume status => { s with status }
      | .finish status => { s with frames := [], ended := some (.code status) }

def runAll (steps : Nat) (s : Shell) : Shell :=
  match steps with
  | 0 => s
  | steps + 1 => if s.ended.isSome then s else runAll steps (step steps s)

end

end Shell

end RegisterPlane.Program
