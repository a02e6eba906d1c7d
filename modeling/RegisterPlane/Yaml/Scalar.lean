import RegisterPlane.Text.Digits
import RegisterPlane.Yaml.Cursor

namespace RegisterPlane.Yaml

/-- What stands between two words: blanks on one line, or breaks. The first break may have been taken
back by a backslash. -/
structure Gap where
  blanks : List Char := []
  broken : Bool := false
  leading : Option Char := none
  trailing : List Char := []
  deriving DecidableEq, Repr

namespace Gap

def isEmpty (g : Gap) : Bool := g.blanks.isEmpty && !g.broken

def blank (g : Gap) (c : Char) : Gap :=
  if g.broken then g else { g with blanks := g.blanks ++ [c] }

def lineBreak (g : Gap) (c : Char) : Gap :=
  if g.broken then { g with trailing := g.trailing ++ [c] }
  else { broken := true, leading := some c }

def joined : Gap := { broken := true }

def text (g : Gap) : List Char :=
  if g.broken then
    match g.leading, g.trailing with
    | some '\n', [] => [' ']
    | some '\n', trailing => trailing
    | some c, trailing => c :: trailing
    | none, trailing => trailing
  else g.blanks

end Gap

structure ScannedScalar where
  text : List Char
  cursor : Cursor
  brokenEnd : Bool := false

def isFlowEnd (c : Char) : Bool :=
  c == ',' || c == '[' || c == ']' || c == '\x7b' || c == '\x7d'

/-- A plain scalar from here on; `text` is what has been read so far, in reverse. Outside brackets the
scalar ends where a line is indented less than `indent`. -/
def scanPlain? (inFlow : Bool) (indent : Nat) (text : List Char) (gap : Gap) (place : Place) :
    List Char → Option ScannedScalar
  | [] => some ⟨text.reverse, ⟨[], place⟩, gap.broken⟩
  | c :: rest =>
    let ended := some ⟨text.reverse, ⟨c :: rest, place⟩, gap.broken⟩
    if isSpaceOrTab c then
      if gap.broken && place.column < indent && c == '\t' then none
      else scanPlain? inFlow indent text (gap.blank c) (place.past c) rest
    else if isBreak c then scanPlain? inFlow indent text (gap.lineBreak c) place.newline rest
    else if gap.broken && !inFlow && place.column < indent then ended
    else if place.column == 0 && atDocumentMark (c :: rest) then ended
    else if c == '#' && !gap.isEmpty then ended
    else if inFlow && c == ':' && (rest.head?.any fun d => isFlowEnd d || d == '?') then none
    else if c == ':' && atBlank rest then ended
    else if inFlow && isFlowEnd c then ended
    else scanPlain? inFlow indent (c :: (gap.text.reverse ++ text)) {} (place.past c) rest

def scanSingleQuoted? (text : List Char) (gap : Gap) (place : Place) :
    List Char → Option ScannedScalar
  | [] => none
  | c :: rest =>
    let text' := gap.text.reverse ++ text
    if isSpaceOrTab c then scanSingleQuoted? text (gap.blank c) (place.past c) rest
    else if isBreak c then scanSingleQuoted? text (gap.lineBreak c) place.newline rest
    else if place.column == 0 && atDocumentMark (c :: rest) then none
    else if c == '\'' then
      match rest with
      | '\'' :: rest => scanSingleQuoted? ('\'' :: text') {} ((place.past c).past c) rest
      | rest => some { text := text'.reverse, cursor := ⟨rest, place.past c⟩ }
    else scanSingleQuoted? (c :: text') {} (place.past c) rest

def escapeLetter? : Char → Option Char
  | '0' => some '\x00'
  | 'a' => some '\x07'
  | 'b' => some '\x08'
  | 't' => some '\t'
  | '\t' => some '\t'
  | 'n' => some '\n'
  | 'v' => some '\x0b'
  | 'f' => some '\x0c'
  | 'r' => some '\r'
  | 'e' => some '\x1b'
  | ' ' => some ' '
  | '"' => some '"'
  | '/' => some '/'
  | '\\' => some '\\'
  | 'N' => some '\x85'
  | '_' => some '\xa0'
  | 'L' => some '\u2028'
  | 'P' => some '\u2029'
  | _ => none

def escapeDigits? : Char → Option Nat
  | 'x' => some 2
  | 'u' => some 4
  | 'U' => some 8
  | _ => none

def hexDigitValue? (c : Char) : Option Nat :=
  if '0' ≤ c && c ≤ '9' then some (c.toNat - '0'.toNat)
  else if 'a' ≤ c && c ≤ 'f' then some (c.toNat - 'a'.toNat + 10)
  else if 'A' ≤ c && c ≤ 'F' then some (c.toNat - 'A'.toNat + 10)
  else none

def characterAt? (n : Nat) : Option Char :=
  if n.isValidChar then some (Char.ofNat n) else none

/-- A scalar in double quotes, after the first quote. While digits of an escape are awaited, `pending`
holds their number and the value of those before. -/
def scanDoubleQuoted? (text : List Char) (gap : Gap) (pending : Option (Nat × Nat)) (place : Place) :
    List Char → Option ScannedScalar
  | [] => none
  | c :: rest =>
    match pending with
    | some (digits, value) => do
      let value := value * 16 + (← hexDigitValue? c)
      if digits ≤ 1 then
        scanDoubleQuoted? ((← characterAt? value) :: text) {} none (place.past c) rest
      else scanDoubleQuoted? text {} (some (digits - 1, value)) (place.past c) rest
    | none =>
      let text' := gap.text.reverse ++ text
      if isSpaceOrTab c then scanDoubleQuoted? text (gap.blank c) none (place.past c) rest
      else if isBreak c then scanDoubleQuoted? text (gap.lineBreak c) none place.newline rest
      else if place.column == 0 && atDocumentMark (c :: rest) then none
      else if c == '"' then some { text := text'.reverse, cursor := ⟨rest, place.past c⟩ }
      else if c == '\\' then
        match rest with
        | [] => none
        | e :: rest =>
          if isBreak e then scanDoubleQuoted? text' .joined none (place.past c).newline rest
          else
            match escapeLetter? e, escapeDigits? e with
            | some letter, _ => scanDoubleQuoted? (letter :: text') {} none ((place.past c).past e) rest
            | none, some digits =>
              scanDoubleQuoted? text' {} (some (digits, 0)) ((place.past c).past e) rest
            | none, none => none
      else scanDoubleQuoted? (c :: text') {} none (place.past c) rest

structure BlockLine where
  chars : List Char
  feed : Option Char
  deriving DecidableEq, Repr

namespace BlockLine

def cut : List Char → List BlockLine
  | [] => [⟨[], none⟩]
  | c :: cs =>
    if isBreak c then ⟨[], some c⟩ :: cut cs
    else
      match cut cs with
      | [] => [⟨[c], none⟩]
      | line :: lines => { line with chars := c :: line.chars } :: lines

def text (line : BlockLine) : List Char := line.chars ++ line.feed.toList

def indentation (line : BlockLine) (bound : Option Nat) : Nat :=
  let spaces := (line.chars.takeWhile (· == ' ')).length
  match bound with
  | some n => min spaces n
  | none => spaces

end BlockLine

inductive Chomping where
  | strip
  | clip
  | keep
  deriving DecidableEq, Repr

structure BlockHead where
  chomping : Chomping := .clip
  increment : Option Nat := none
  deriving DecidableEq, Repr

def chomping? : Char → Option Chomping
  | '+' => some .keep
  | '-' => some .strip
  | _ => none

def readBlockHead? (c : Cursor) : Option (BlockHead × Cursor) :=
  match c.rest with
  | a :: rest =>
    match chomping? a with
    | some chomping =>
      match rest with
      | d :: _ =>
        if Text.isDigit d then
          if d == '0' then none else some (⟨chomping, some (Text.digitValue d)⟩, c.skip 2)
        else some (⟨chomping, none⟩, c.skip 1)
      | [] => some (⟨chomping, none⟩, c.skip 1)
    | none =>
      if Text.isDigit a then
        if a == '0' then none
        else
          match rest.head?.bind chomping? with
          | some chomping => some (⟨chomping, some (Text.digitValue a)⟩, c.skip 2)
          | none => some (⟨.clip, some (Text.digitValue a)⟩, c.skip 1)
      else some ({}, c)
  | [] => some ({}, c)

/-- The empty lines at the head of a row of lines: their breaks, their greatest indentation (that of the
first other line included), and what follows. A tab in the indentation is refused. -/
def emptyLines? (bound : Option Nat) : List BlockLine → Option (List Char × Nat × List BlockLine)
  | [] => some ([], 0, [])
  | line :: lines =>
    let indentation := line.indentation bound
    let after := line.chars.drop indentation
    if bound.all (indentation < ·) && after.head? == some '\t' then none
    else
      match after, line.feed with
      | [], some feed =>
        (emptyLines? bound lines).map fun (feeds, deepest, rest) =>
          (feed :: feeds, max indentation deepest, rest)
      | _, _ => some ([], indentation, line :: lines)

/-- What has been read of a block scalar: its text in reverse, the break behind the last line with
text, the breaks of empty lines after it, and whether that line began with a blank. -/
structure BlockText where
  text : List Char := []
  leading : Option Char := none
  trailing : List Char := []
  blankLine : Bool := false

namespace BlockText

/-- One more line with text. Between two lines of a folded scalar that do not begin with a blank, a
single break becomes a space, and one of several is dropped. -/
def add (b : BlockText) (folded : Bool) (chars : List Char) (feed : Option Char) : BlockText :=
  let startsBlank := chars.head?.any isSpaceOrTab
  let between :=
    if folded && b.leading == some '\n' && !b.blankLine && !startsBlank then
      if b.trailing.isEmpty then [' '] else []
    else b.leading.toList
  { text := chars.reverse ++ (between ++ b.trailing).reverse ++ b.text
    leading := feed
    trailing := []
    blankLine := startsBlank }

def finish (b : BlockText) : Chomping → List Char
  | .strip => b.text.reverse
  | .clip => b.text.reverse ++ b.leading.toList
  | .keep => b.text.reverse ++ b.leading.toList ++ b.trailing

end BlockText

def blockLines? (folded : Bool) (indent : Nat) :
    Nat → BlockText → List BlockLine → Option (BlockText × List BlockLine)
  | 0, block, lines => some (block, lines)
  | steps + 1, block, lines => do
    let (feeds, _, lines) ← emptyLines? (some indent) lines
    let block := { block with trailing := block.trailing ++ feeds }
    match lines with
    | line :: after =>
      let chars := line.chars.drop indent
      if line.indentation (some indent) == indent && !(chars.isEmpty && line.feed.isNone) then
        blockLines? folded indent steps (block.add folded chars line.feed) after
      else some (block, lines)
    | [] => some (block, [])

/-- A block scalar, after its `|` or `>`. Its lines are indented deeper than `parent`, the column of the
collection around it, if there is one. -/
def scanBlock? (folded : Bool) (parent : Option Nat) (c : Cursor) : Option ScannedScalar := do
  let (head, c) ← readBlockHead? c
  let c := (← c.skipToLineEnd?).skipBreak
  let lines := BlockLine.cut c.rest
  let least := parent.elim 0 (· + 1)
  let indent ← match head.increment with
    | some n => some (parent.getD 0 + n)
    | none => (emptyLines? none lines).map fun (_, deepest, _) => max (max deepest least) 1
  let (block, rest) ← blockLines? folded indent lines.length {} lines
  let remaining := rest.flatMap BlockLine.text
  let consumed := c.rest.length - remaining.length
  return {
    text := block.finish head.chomping
    cursor := ⟨remaining, ⟨c.place.line + (lines.length - rest.length), 0, c.place.index + consumed⟩⟩ }

end RegisterPlane.Yaml
