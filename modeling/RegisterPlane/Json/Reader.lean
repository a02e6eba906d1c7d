import RegisterPlane.Json.Token

namespace RegisterPlane.Json

/-- An array or object that is still open, with what it holds so far in reverse. A member whose
name has been read waits for its value. -/
inductive Frame where
  | array (items : List Json)
  | object (members : Option (List (String × Json)))
  | member (members : Option (List (String × Json))) (name : Option String)

inductive Awaiting where
  | value
  | itemOrEnd
  | nameOrEnd
  | name
  | colon
  | separatorOrEnd
  | nothing (document : Json)

structure Progress where
  awaiting : Awaiting
  open' : List Frame

namespace Progress

def start : Progress := ⟨.value, []⟩

def complete (v : Json) : List Frame → Option Progress
  | [] => some ⟨.nothing v, []⟩
  | .array items :: frames => some ⟨.separatorOrEnd, .array (v :: items) :: frames⟩
  | .member members name :: frames =>
    some ⟨.separatorOrEnd, .object (do return (← name, v) :: (← members)) :: frames⟩
  | .object _ :: _ => none

def beginValue (frames : List Frame) : Token → Option Progress
  | .openBracket => some ⟨.itemOrEnd, .array [] :: frames⟩
  | .openBrace => some ⟨.nameOrEnd, .object (some []) :: frames⟩
  | .null => complete .null frames
  | .bool b => complete (.bool b) frames
  | .number n => complete (.number n) frames
  | .string text => complete ((text.map .string).getD .unreadable) frames
  | _ => none

def close : Token → List Frame → Option Progress
  | .closeBracket, .array items :: frames => complete (.array items.reverse) frames
  | .closeBrace, .object members :: frames =>
    complete ((members.map fun ms => .object ms.reverse).getD .unreadable) frames
  | _, _ => none

def beginMember (name : Option String) : List Frame → Option Progress
  | .object members :: frames => some ⟨.colon, .member members name :: frames⟩
  | _ => none

def next : List Frame → Option Progress
  | .array items :: frames => some ⟨.value, .array items :: frames⟩
  | .object members :: frames => some ⟨.name, .object members :: frames⟩
  | _ => none

def step (p : Progress) (token : Token) : Option Progress :=
  match p.awaiting, token with
  | .value, token => beginValue p.open' token
  | .itemOrEnd, .closeBracket => close .closeBracket p.open'
  | .itemOrEnd, token => beginValue p.open' token
  | .nameOrEnd, .closeBrace => close .closeBrace p.open'
  | .nameOrEnd, .string name => beginMember name p.open'
  | .name, .string name => beginMember name p.open'
  | .colon, .colon => some ⟨.value, p.open'⟩
  | .separatorOrEnd, .comma => next p.open'
  | .separatorOrEnd, token => close token p.open'
  | _, _ => none

def document? (p : Progress) : Option Json :=
  match p.awaiting with
  | .nothing document => some document
  | _ => none

def run : Progress → List Token → Option Progress
  | p, [] => some p
  | p, token :: tokens => do run (← p.step token) tokens

end Progress

def ofTokens? (tokens : List Token) : Option Json := do
  (← Progress.start.run tokens).document?

def read? (text : String) : Option Json := do ofTokens? (← scan .between text.toList)

end RegisterPlane.Json
