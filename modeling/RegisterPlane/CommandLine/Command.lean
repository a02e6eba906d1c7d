import RegisterPlane.CommandLine.Arguments
import RegisterPlane.Node.Path

namespace RegisterPlane.CommandLine

structure Target where
  node : String
  socket : Option String
  deriving DecidableEq, Repr

def Target.path (home : String) (t : Target) : String :=
  t.socket.getD (Path.defaultSocket home t.node)

inductive Inquiry where
  | list
  | get (name : String)
  | set (name literal : String)
  deriving DecidableEq, Repr

inductive Command where
  | launch (group : String) (json : Bool)
  | env (group : String) (process : Option String)
  | node (strict : Bool)
  | register (inquiry : Inquiry) (target : Target) (json : Bool)
  deriving DecidableEq, Repr

inductive Invocation where
  | help
  | version
  | command (c : Command)
  deriving DecidableEq, Repr

namespace Command

def launchGrammar : Grammar := ⟨[⟨"group", true⟩], [], ["json"]⟩

def envGrammar : Grammar := ⟨[⟨"group", true⟩], [⟨"process", false⟩], []⟩

def nodeGrammar : Grammar := ⟨[], [], ["strict"]⟩

def registerGrammar (operands : List Parameter) : Grammar :=
  ⟨operands, [⟨"node", false⟩, ⟨"socket", true⟩], ["json"]⟩

def defaultNode : String := "node"

def targetOf (a : Arguments) : Target := ⟨(a.option? "node").getD defaultNode, a.option? "socket"⟩

def invoke (g : Grammar) (texts : List String) (make : Arguments → Option Command) :
    Except UsageFault Invocation := do
  match ← Arguments.read g texts with
  | none => return .help
  | some found =>
    match make found with
    | some c => return .command c
    | none => throw .noCommand

def readInquiry : List String → Except UsageFault Invocation
  | [] => .error .noCommand
  | "list" :: texts => invoke (registerGrammar []) texts fun a =>
    some (.register .list (targetOf a) (a.hasFlag "json"))
  | "get" :: texts => invoke (registerGrammar [⟨"name", false⟩]) texts fun a =>
    match a.operands with
    | [name] => some (.register (.get name) (targetOf a) (a.hasFlag "json"))
    | _ => none
  | "set" :: texts => invoke (registerGrammar [⟨"name", false⟩, ⟨"value", false⟩]) texts fun a =>
    match a.operands with
    | [name, literal] => some (.register (.set name literal) (targetOf a) (a.hasFlag "json"))
    | _ => none
  | "help" :: [] => .ok .help
  | "help" :: topic :: _ =>
    if ["list", "get", "set", "help"].contains topic then .ok .help else .error (.unknownCommand topic)
  | text :: _ =>
    if (ArgumentRole.ofText text).asksForHelp then .ok .help
    else if ArgumentRole.ofText text = .operand then .error (.unknownCommand text)
    else .error (.unknownOption text)

def readTopic : List String → Except UsageFault Invocation
  | [] => .ok .help
  | "register" :: topics => readInquiry ("help" :: topics)
  | topic :: _ =>
    if ["launch", "env", "node", "help"].contains topic then .ok .help
    else .error (.unknownCommand topic)

def read : List String → Except UsageFault Invocation
  | [] => .error .noCommand
  | "launch" :: texts => invoke launchGrammar texts fun a =>
    match a.operands with
    | [group] => some (.launch group (a.hasFlag "json"))
    | _ => none
  | "env" :: texts => invoke envGrammar texts fun a =>
    match a.operands with
    | [group] => some (.env group (a.option? "process"))
    | _ => none
  | "node" :: texts => invoke nodeGrammar texts fun a => some (.node (a.hasFlag "strict"))
  | "register" :: texts => readInquiry texts
  | "help" :: topics => readTopic topics
  | text :: _ =>
    match ArgumentRole.ofText text with
    | .long "version" none | .short ('V' :: _) => .ok .version
    | role =>
      if role.asksForHelp then .ok .help
      else if role = .operand then .error (.unknownCommand text)
      else .error (.unknownOption text)

end Command

end RegisterPlane.CommandLine
