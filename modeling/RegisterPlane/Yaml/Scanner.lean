import RegisterPlane.Yaml.Token

/-!
The scanner that turns YAML text into tokens. It keeps the columns of the open block collections. A
scalar, or a collection in brackets, may turn out to be a mapping key when a colon follows it on the
same line; the tokens that say so are then put in before it.
-/

namespace RegisterPlane.Yaml

/-- A token that becomes a mapping key if a colon follows. It is required to be one where nothing else
can stand. -/
structure PendingKey where
  required : Bool
  tokenNumber : Nat
  place : Place
  deriving DecidableEq, Repr

structure Scanner where
  cursor : Cursor
  /-- The tokens so far, latest first. -/
  tokens : List Token := []
  tokenCount : Nat := 0
  /-- The columns of the open block collections, innermost first. -/
  indents : List Nat := []
  outerKey : Option PendingKey := none
  flowKeys : List (Option PendingKey) := []
  keyAllowed : Bool := true

namespace Scanner

def inFlow (s : Scanner) : Bool := !s.flowKeys.isEmpty

def pending (s : Scanner) : Option PendingKey :=
  match s.flowKeys with
  | key :: _ => key
  | [] => s.outerKey

def setPending (s : Scanner) (key : Option PendingKey) : Scanner :=
  match s.flowKeys with
  | _ :: keys => { s with flowKeys := key :: keys }
  | [] => { s with outerKey := key }

def emit (s : Scanner) (token : Token) : Scanner :=
  { s with tokens := token :: s.tokens, tokenCount := s.tokenCount + 1 }

def emitAt (s : Scanner) (number : Nat) (token : Token) : Scanner :=
  let later := s.tokenCount - number
  { s with
    tokens := s.tokens.take later ++ token :: s.tokens.drop later
    tokenCount := s.tokenCount + 1 }

/-- Can the key no longer be completed by a colon here? It has to be on the same line, and not over
1024 octets back. -/
def isStale (place : Place) (key : PendingKey) : Bool :=
  key.place.line < place.line || key.place.index + 1024 < place.index

def refreshKey? (place : Place) : Option PendingKey → Option (Option PendingKey)
  | none => some none
  | some key =>
    if isStale place key then if key.required then none else some none else some (some key)

def refreshKeys? (s : Scanner) : Option Scanner := do
  return { s with
    outerKey := ← refreshKey? s.cursor.place s.outerKey
    flowKeys := ← s.flowKeys.mapM (refreshKey? s.cursor.place) }

def dropKey? (s : Scanner) : Option Scanner :=
  match s.pending with
  | some key => if key.required then none else some (s.setPending none)
  | none => some s

def atIndent (s : Scanner) (column : Nat) : Bool := s.indents.head? == some column

def saveKey? (s : Scanner) : Option Scanner :=
  if s.keyAllowed then do
    let place := s.cursor.place
    return (← s.dropKey?).setPending
      (some ⟨!s.inFlow && s.atIndent place.column, s.tokenCount, place⟩)
  else some s

def openBlock (s : Scanner) (column number : Nat) (token : Token) : Scanner :=
  if s.inFlow || !(s.indents.head?.all (· < column)) then s
  else { s with indents := column :: s.indents }.emitAt number token

def closeBlocks (s : Scanner) (column : Option Nat) : Scanner :=
  if s.inFlow then s
  else
    let closing := (s.indents.takeWhile fun indent => column.all (· < indent)).length
    { s with
      indents := s.indents.drop closing
      tokens := List.replicate closing .blockEnd ++ s.tokens
      tokenCount := s.tokenCount + closing }

/-- Moves on to the next token, over blanks, comments, breaks and a byte order mark at the start of a
line. A tab may not stand where a key could. -/
def skipSpace (inFlow keyAllowed : Bool) (comment : Bool) (place : Place) :
    List Char → Bool × Cursor
  | [] => (keyAllowed, ⟨[], place⟩)
  | c :: rest =>
    if isBreak c then skipSpace inFlow (keyAllowed || !inFlow) false place.newline rest
    else if comment || c == ' ' || (c == '\t' && (inFlow || !keyAllowed)) ||
        (c == byteOrderMark && place.column == 0) then
      skipSpace inFlow keyAllowed comment (place.past c) rest
    else if c == '#' then skipSpace inFlow keyAllowed true (place.past c) rest
    else (keyAllowed, ⟨c :: rest, place⟩)

def toNextToken (s : Scanner) : Scanner :=
  let (keyAllowed, cursor) := skipSpace s.inFlow s.keyAllowed false s.cursor.place s.cursor.rest
  { s with keyAllowed, cursor }

def moveTo (s : Scanner) (cursor : Cursor) : Scanner := { s with cursor }

def allow (s : Scanner) (keyAllowed : Bool) : Scanner := { s with keyAllowed }

def indicator (s : Scanner) (count : Nat) (token : Token) : Scanner :=
  (s.moveTo (s.cursor.skip count)).emit token

def documentMark? (s : Scanner) (token : Token) : Option Scanner := do
  return ((← (s.closeBlocks none).dropKey?).allow false).indicator 3 token

def directive? (s : Scanner) : Option Scanner := do
  let s := (← (s.closeBlocks none).dropKey?).allow false
  let (token, cursor) ← scanDirective? (s.cursor.skip 1)
  return (s.moveTo cursor).emit token

def openFlow? (s : Scanner) (token : Token) : Option Scanner := do
  let s ← s.saveKey?
  return ({ s with flowKeys := none :: s.flowKeys }.allow true).indicator 1 token

def closeFlow? (s : Scanner) (token : Token) : Option Scanner := do
  let s ← s.dropKey?
  return ({ s with flowKeys := s.flowKeys.drop 1 }.allow false).indicator 1 token

def flowEntry? (s : Scanner) : Option Scanner := do
  return ((← s.dropKey?).allow true).indicator 1 .flowEntry

def beginBlock? (s : Scanner) (token : Token) : Option Scanner :=
  if s.inFlow then some s
  else if s.keyAllowed then some (s.openBlock s.cursor.place.column s.tokenCount token)
  else none

def blockEntry? (s : Scanner) : Option Scanner := do
  return ((← (← s.beginBlock? .blockSequenceStart).dropKey?).allow true).indicator 1 .blockEntry

def key? (s : Scanner) : Option Scanner := do
  return ((← (← s.beginBlock? .blockMappingStart).dropKey?).allow (!s.inFlow)).indicator 1 .key

def value? (s : Scanner) : Option Scanner :=
  match s.pending with
  | some key =>
    let s := (s.emitAt key.tokenNumber .key).openBlock key.place.column key.tokenNumber
      .blockMappingStart
    some (((s.setPending none).allow false).indicator 1 .value)
  | none => do
    return ((← s.beginBlock? .blockMappingStart).allow (!s.inFlow)).indicator 1 .value

def anchor? (s : Scanner) (token : String → Token) : Option Scanner := do
  let s := (← s.saveKey?).allow false
  let (name, cursor) ← scanAnchorName? (s.cursor.skip 1)
  return (s.moveTo cursor).emit (token name)

def tag? (s : Scanner) : Option Scanner := do
  let s := (← s.saveKey?).allow false
  let (token, cursor) ← scanTag? s.inFlow s.cursor
  return (s.moveTo cursor).emit token

def blockScalar? (s : Scanner) (folded : Bool) : Option Scanner := do
  let s := (← s.dropKey?).allow true
  let scalar ← scanBlock? folded s.indents.head? (s.cursor.skip 1)
  return (s.moveTo scalar.cursor).emit
    (.scalar (if folded then .folded else .literal) (String.ofList scalar.text))

def quoted? (s : Scanner) (double : Bool) : Option Scanner := do
  let s := (← s.saveKey?).allow false
  let start := s.cursor.skip 1
  let scalar ←
    if double then scanDoubleQuoted? [] {} none start.place start.rest
    else scanSingleQuoted? [] {} start.place start.rest
  return (s.moveTo scalar.cursor).emit (.scalar .quoted (String.ofList scalar.text))

def plain? (s : Scanner) : Option Scanner := do
  let s := (← s.saveKey?).allow false
  let indent := s.indents.head?.elim 0 (· + 1)
  let scalar ← scanPlain? s.inFlow indent [] {} s.cursor.place s.cursor.rest
  let s := (s.moveTo scalar.cursor).emit (.scalar .plain (String.ofList scalar.text))
  return if scalar.brokenEnd then s.allow true else s

def beginsPlain (inFlow : Bool) (c : Char) (rest : List Char) : Bool :=
  if c == '-' then !(rest.head?.any isSpaceOrTab)
  else if c == '?' || c == ':' then !inFlow && !atBlank rest
  else
    !(isSpaceOrTab c) &&
      !(",[]#&*!|>%@\"".toList.contains c || c == '\x7b' || c == '\x7d' || c == '\'' || c == '\x60')

def token? (s : Scanner) (c : Char) (rest : List Char) : Option Scanner :=
  let lineStart := s.cursor.place.column == 0
  let apart := s.inFlow || atBlank rest
  if lineStart && c == '%' then s.directive?
  else if lineStart && c == '-' && atDocumentMark (c :: rest) then s.documentMark? .documentStart
  else if lineStart && c == '.' && atDocumentMark (c :: rest) then s.documentMark? .documentEnd
  else if c == '[' then s.openFlow? .flowSequenceStart
  else if c == '\x7b' then s.openFlow? .flowMappingStart
  else if c == ']' then s.closeFlow? .flowSequenceEnd
  else if c == '\x7d' then s.closeFlow? .flowMappingEnd
  else if c == ',' then s.flowEntry?
  else if c == '-' && atBlank rest then s.blockEntry?
  else if c == '?' && apart then s.key?
  else if c == ':' && apart then s.value?
  else if c == '*' then s.anchor? .alias
  else if c == '&' then s.anchor? .anchor
  else if c == '!' then s.tag?
  else if c == '|' && !s.inFlow then s.blockScalar? false
  else if c == '>' && !s.inFlow then s.blockScalar? true
  else if c == '\'' then s.quoted? false
  else if c == '"' then s.quoted? true
  else if beginsPlain s.inFlow c rest then s.plain?
  else none

/-- Scans to the end of the text; each step passes at least one character, so their number bounds the
steps. -/
def run? : Nat → Scanner → Option Scanner
  | 0, _ => none
  | steps + 1, s => do
    let s ← s.toNextToken.refreshKeys?
    match s.cursor.rest with
    | [] => (s.closeBlocks none).dropKey?
    | c :: rest => run? steps (← (s.closeBlocks (some s.cursor.place.column)).token? c rest)

end Scanner

def tokens? (text : String) : Option (List Token) := do
  let cs ← characters? text
  let s ← Scanner.run? (cs.length + 1) { cursor := ⟨cs, {}⟩ }
  return s.tokens.reverse

end RegisterPlane.Yaml
