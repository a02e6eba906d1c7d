import RegisterPlane.Yaml.Basic
import RegisterPlane.Yaml.Node

/-!
What scalars stand for. A plain scalar is null, a boolean, an integer, a float or else a text, by its
spelling; a quoted scalar is a text. A tag of the core schema overrules the spelling, and a tag that
begins with `!` stays around the value.
-/

namespace RegisterPlane.Yaml

def isNullWord (text : String) : Bool := ["~", "null", "Null", "NULL"].contains text

def boolean? (text : String) : Option Bool :=
  if ["true", "True", "TRUE"].contains text then some true
  else if ["false", "False", "FALSE"].contains text then some false
  else none

def digitsIn? (base : Nat) (cs : List Char) : Option Nat :=
  if cs.isEmpty then none
  else cs.foldlM (fun n c => do
    let d ← hexDigitValue? c
    if d < base then some (n * base + d) else none) 0

def hasIdleZero (cs : List Char) : Bool :=
  let ds := match cs with
    | '-' :: rest => rest
    | '+' :: rest => rest
    | rest => rest
  1 < ds.length && ds.head? == some '0' && ds.all Text.isDigit

/-- The magnitude that an unsigned integer spells: decimal, or in another base behind `0x`, `0o`, `0b`. -/
def magnitude? : List Char → Option Nat
  | '0' :: 'x' :: rest => digitsIn? 16 rest
  | '0' :: 'o' :: rest => digitsIn? 8 rest
  | '0' :: 'b' :: rest => digitsIn? 2 rest
  | cs => if hasIdleZero cs then none else digitsIn? 10 cs

def integer? : List Char → Option Int
  | '-' :: rest => (magnitude? rest).map fun n => -(n : Int)
  | '+' :: rest => (magnitude? rest).map Int.ofNat
  | rest => (magnitude? rest).map Int.ofNat

/-- The float that a plain scalar spells. Infinity and NaN have names that begin with a point; a numeral
must lie in the finite range. -/
def float? (cs : List Char) : Option (Floating .double) :=
  match cs with
  | '+' :: rest => if rest.head? == some '+' || rest.head? == some '-' then none else unsigned rest
  | cs =>
    if ["-.inf", "-.Inf", "-.INF"].contains (String.ofList cs) then some (.infinite true)
    else if [".nan", ".NaN", ".NAN"].contains (String.ofList cs) then some .nan
    else unsigned cs
where
  unsigned (cs : List Char) : Option (Floating .double) :=
    if [".inf", ".Inf", ".INF"].contains (String.ofList cs) then some (.infinite false)
    else (Floating.read? .double cs).filter Floating.isFinite

/-- The integer as a tree, if 64 bits hold it. Between 64 and 128 bits it is refused, and beyond them it
is no integer. -/
inductive Sized where
  | held (i : Int)
  | refused
  | beyond

def sized (i : Int) : Sized :=
  if -Nat.pow 2 63 ≤ i ∧ i < Nat.pow 2 64 then .held i
  else if -Nat.pow 2 127 ≤ i ∧ i < Nat.pow 2 128 then .refused
  else .beyond

def integerTree? (text : String) : Option Yaml :=
  match (integer? text.toList).map sized with
  | some (.held i) => some (.integer i)
  | _ => none

def ofPlain? (text : String) : Option Yaml :=
  let cs := text.toList
  let realOrText : Yaml :=
    match if hasIdleZero cs then none else float? cs with
    | some x => .real x
    | none => .string text
  if text == "" || isNullWord text then some .null
  else
    match boolean? text with
    | some b => some (.bool b)
    | none =>
      match (integer? cs).map sized with
      | some (.held i) => some (.integer i)
      | some .refused => none
      | some .beyond | none => some realOrText

def ofScalar? (style : ScalarStyle) (text : String) : Option Yaml :=
  if style == .plain then ofPlain? text else some (.string text)

def ofTagged? (style : ScalarStyle) (text : String) : Tag → Option Yaml
  | .own name => (ofScalar? style text).map (.tagged name)
  | .nameless => ofScalar? style text
  | .boolean => (boolean? text).map .bool
  | .integer => integerTree? text
  | .float => (float? text.toList).map .real
  | .null => if isNullWord text then some .null else none
  | .other => some (.string text)

def underTag (tag : Option Tag) (value : Yaml) : Yaml :=
  match tag with
  | some (.own name) => .tagged name value
  | _ => value

def hasSameKeys : List (Yaml × Yaml) → Bool
  | [] => false
  | (key, _) :: entries => entries.any (fun (other, _) => same key other) || hasSameKeys entries

mutual

def ofNode? : Node → Option Yaml
  | .scalar (some tag) style text => ofTagged? style text tag
  | .scalar none style text => ofScalar? style text
  | .sequence tag items => do return underTag tag (.sequence (← ofItems? items))
  | .mapping tag entries => do
    let entries ← ofEntries? entries
    if hasSameKeys entries then none else some (underTag tag (.mapping entries))

def ofItems? : List Node → Option (List Yaml)
  | [] => some []
  | item :: items => do return (← ofNode? item) :: (← ofItems? items)

def ofEntries? : List (Node × Node) → Option (List (Yaml × Yaml))
  | [] => some []
  | (key, value) :: entries => do
    return (← ofNode? key, ← ofNode? value) :: (← ofEntries? entries)

end

mutual

/-- The tree that a tree within a document stands for when it is read by itself: every tag gives up a
leading `!`, which may make two keys the same. -/
def again? : Yaml → Option Yaml
  | .sequence items => do return .sequence (← againItems? items)
  | .mapping entries => do
    let entries ← againEntries? entries
    if hasSameKeys entries then none else some (.mapping entries)
  | .tagged tag value => do return .tagged (tagName tag) (← again? value)
  | leaf => some leaf

def againItems? : List Yaml → Option (List Yaml)
  | [] => some []
  | item :: items => do return (← again? item) :: (← againItems? items)

def againEntries? : List (Yaml × Yaml) → Option (List (Yaml × Yaml))
  | [] => some []
  | (key, value) :: entries => do
    return (← again? key, ← again? value) :: (← againEntries? entries)

end

def read? (text : String) : Option Yaml := do
  match ← document? text with
  | some node => ofNode? node
  | none => some .null

end RegisterPlane.Yaml
