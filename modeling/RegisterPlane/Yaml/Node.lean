import RegisterPlane.Yaml.Scanner

/-!
YAML documents as nodes: scalars with their spelling, sequences and mappings, each with the tag that it was
given. A document is drafted first, with its aliases in place; then each alias is replaced by what it
names. How often that happens, and how deeply nodes are nested, is bounded, so that a short text
cannot stand for a huge document.
-/

namespace RegisterPlane.Yaml

inductive Tag where
  /-- A tag of the document's own, which begins with `!`; its name is the rest, unless that is empty. -/
  | own (name : String)
  /-- A tag that begins with `!`, but whose name is no text. -/
  | nameless
  | boolean
  | integer
  | float
  | null
  /-- Any other tag, the ones for texts and collections among them. -/
  | other
  deriving DecidableEq, Repr

def Tag.ofAddress (address : Address) : Tag :=
  match String.fromUTF8? ⟨address.toArray⟩ with
  | some "!" => .own "!"
  | some "tag:yaml.org,2002:bool" => .boolean
  | some "tag:yaml.org,2002:int" => .integer
  | some "tag:yaml.org,2002:float" => .float
  | some "tag:yaml.org,2002:null" => .null
  | some text =>
    match text.toList with
    | '!' :: name => .own (String.ofList name)
    | _ => .other
  | none => if address.head? = some '!'.toUInt8 then .nameless else .other

inductive Node where
  | scalar (tag : Option Tag) (style : ScalarStyle) (text : String)
  | sequence (tag : Option Tag) (items : List Node)
  | mapping (tag : Option Tag) (entries : List (Node × Node))

namespace Node

def empty : Node := .scalar none .plain ""

end Node

/-- A node as it is written: an alias is the number of an anchor. -/
inductive Draft where
  | scalar (tag : Option Tag) (style : ScalarStyle) (text : String)
  | sequence (tag : Option Tag) (items : List Draft)
  | mapping (tag : Option Tag) (entries : List (Draft × Draft))
  | alias (number : Nat)

def Draft.empty : Draft := .scalar none .plain ""

/-- An anchor with its number, and the node that it is at, once that is complete. Numbers count the names
that are known already, so that an anchor whose name is used a second time takes the number that the
next new name will have, too. -/
structure Anchor where
  name : String
  number : Nat
  target : Option Draft := none

structure Composer where
  tokens : List Token
  handles : List (String × Address)
  /-- The anchors in the order in which they were opened. -/
  anchors : List Anchor := []
  /-- How many scalars, aliases and ends of collections have been passed. -/
  events : Nat := 0

namespace Composer

def count (c : Composer) (events : Nat) : Composer := { c with events := c.events + events }

def next (c : Composer) : Option Token := c.tokens.head?

def skip (c : Composer) : Composer := { c with tokens := c.tokens.drop 1 }

def nextIs (c : Composer) (tokens : List Token) : Bool := c.next.any tokens.contains

def resolveTag? (c : Composer) (handle : String) (suffix : Address) : Option Tag :=
  if handle == "" then some (.ofAddress suffix)
  else (c.handles.lookup handle).map fun stem => .ofAddress (stem ++ suffix)

def numberOf? (c : Composer) (name : String) : Option Nat :=
  (c.anchors.findRev? (·.name == name)).map (·.number)

def openAnchor (c : Composer) (name : String) : Composer :=
  let number := (c.anchors.map (·.name)).eraseDups.length
  { c with anchors := c.anchors ++ [⟨name, number, none⟩] }

def closeAnchor (c : Composer) (index : Nat) (node : Draft) : Composer :=
  { c with anchors := c.anchors.modify index fun anchor => { anchor with target := some node } }

/-- What a number means in the end: the last anchor that took it. -/
def target? (c : Composer) (number : Nat) : Option Draft := do
  (← c.anchors.findRev? (·.number == number)).target

def properties? (c : Composer) : Option (Option String × Option Tag × Composer) :=
  match c.tokens with
  | .anchor name :: .tag handle suffix :: rest =>
    (c.resolveTag? handle suffix).map fun tag => (some name, some tag, { c with tokens := rest })
  | .anchor name :: rest => some (some name, none, { c with tokens := rest })
  | .tag handle suffix :: .anchor name :: rest =>
    (c.resolveTag? handle suffix).map fun tag => (some name, some tag, { c with tokens := rest })
  | .tag handle suffix :: rest =>
    (c.resolveTag? handle suffix).map fun tag => (none, some tag, { c with tokens := rest })
  | _ => some (none, none, c)

/-- What a node may be at its place: block collections only outside brackets, and a sequence without
indentation of its own only as the key or value of a mapping. -/
structure Admits where
  block : Bool
  unindented : Bool

def Admits.entry : Admits := ⟨true, false⟩

def Admits.member : Admits := ⟨true, true⟩

def Admits.flow : Admits := ⟨false, false⟩

mutual

/-- A node. The first argument bounds the steps, here and below. -/
def node? (steps : Nat) (admits : Admits) (c : Composer) : Option (Draft × Composer) :=
  match steps with
  | 0 => none
  | steps + 1 =>
    match c.next with
    | some (.alias name) => (c.numberOf? name).map fun number => (.alias number, c.skip.count 1)
    | _ => do
      let (anchor, tag, c) ← c.properties?
      let index := c.anchors.length
      let c := anchor.elim c c.openAnchor
      let (node, c) ← content? steps admits anchor.isSome tag c
      return (node, if anchor.isSome then c.closeAnchor index node else c)

def content? (steps : Nat) (admits : Admits) (anchored : Bool) (tag : Option Tag) (c : Composer) :
    Option (Draft × Composer) :=
  match steps with
  | 0 => none
  | steps + 1 =>
    match c.next with
    | some .blockEntry =>
      if admits.unindented then do
        let (items, c) ← unindentedItems? steps (c.count 2)
        some (.sequence tag items, c)
      else emptyContent? anchored tag c
    | some (.scalar style text) => some (.scalar tag style text, c.skip.count 1)
    | some .flowSequenceStart => do
      let (items, c) ← flowItems? steps true (c.skip.count 2)
      some (.sequence tag items, c)
    | some .flowMappingStart => do
      let (entries, c) ← flowEntries? steps true (c.skip.count 2)
      some (.mapping tag entries, c)
    | some .blockSequenceStart =>
      if admits.block then do
        let (items, c) ← blockItems? steps (c.skip.count 2)
        some (.sequence tag items, c)
      else emptyContent? anchored tag c
    | some .blockMappingStart =>
      if admits.block then do
        let (entries, c) ← blockEntries? steps (c.skip.count 2)
        some (.mapping tag entries, c)
      else emptyContent? anchored tag c
    | _ => emptyContent? anchored tag c
where
  /-- Properties without content stand for an empty scalar. -/
  emptyContent? (anchored : Bool) (tag : Option Tag) (c : Composer) : Option (Draft × Composer) :=
    if anchored || tag.isSome then some (.scalar tag .plain "", c.count 1) else none

def nodeUnless? (steps : Nat) (admits : Admits) (stops : List Token) (c : Composer) :
    Option (Draft × Composer) :=
  match steps with
  | 0 => none
  | steps + 1 => if c.nextIs stops then some (.empty, c.count 1) else node? steps admits c

def blockItems? (steps : Nat) (c : Composer) : Option (List Draft × Composer) :=
  match steps with
  | 0 => none
  | steps + 1 =>
    match c.next with
    | some .blockEntry => do
      let (item, c) ← nodeUnless? steps .entry [.blockEntry, .blockEnd] c.skip
      let (items, c) ← blockItems? steps c
      some (item :: items, c)
    | some .blockEnd => some ([], c.skip)
    | _ => none

def unindentedItems? (steps : Nat) (c : Composer) : Option (List Draft × Composer) :=
  match steps with
  | 0 => none
  | steps + 1 =>
    match c.next with
    | some .blockEntry => do
      let (item, c) ← nodeUnless? steps .entry [.blockEntry, .key, .value, .blockEnd] c.skip
      let (items, c) ← unindentedItems? steps c
      some (item :: items, c)
    | _ => some ([], c)

def blockEntries? (steps : Nat) (c : Composer) : Option (List (Draft × Draft) × Composer) :=
  match steps with
  | 0 => none
  | steps + 1 =>
    match c.next with
    | some .key => do
      let (key, c) ← nodeUnless? steps .member [.key, .value, .blockEnd] c.skip
      let (value, c) ←
        if c.next == some .value then nodeUnless? steps .member [.key, .value, .blockEnd] c.skip
        else some (.empty, c.count 1)
      let (entries, c) ← blockEntries? steps c
      some ((key, value) :: entries, c)
    | some .blockEnd => some ([], c.skip)
    | _ => none

def flowItems? (steps : Nat) (first : Bool) (c : Composer) : Option (List Draft × Composer) :=
  match steps with
  | 0 => none
  | steps + 1 =>
    if c.next == some .flowSequenceEnd then some ([], c.skip)
    else do
      let c ← if first then some c else if c.next == some .flowEntry then some c.skip else none
      if c.next == some .flowSequenceEnd then return ([], c.skip)
      let (item, c) ←
        if c.next == some .key then do
          let (key, value, c) ← flowPair? steps (c.skip.count 2)
          some (.mapping none [(key, value)], c)
        else node? steps .flow c
      let (items, c) ← flowItems? steps false c
      some (item :: items, c)

/-- A pair in a sequence, after the token of its key. A key that is left out takes the next token with
it. -/
def flowPair? (steps : Nat) (c : Composer) : Option (Draft × Draft × Composer) :=
  match steps with
  | 0 => none
  | steps + 1 => do
    let (key, c) ←
      if c.nextIs [.value, .flowEntry, .flowSequenceEnd] then some (.empty, c.skip.count 1)
      else node? steps .flow c
    let (value, c) ←
      if c.next == some .value then nodeUnless? steps .flow [.flowEntry, .flowSequenceEnd] c.skip
      else some (.empty, c.count 1)
    some (key, value, c)

def flowEntries? (steps : Nat) (first : Bool) (c : Composer) :
    Option (List (Draft × Draft) × Composer) :=
  match steps with
  | 0 => none
  | steps + 1 =>
    if c.next == some .flowMappingEnd then some ([], c.skip)
    else do
      let c ← if first then some c else if c.next == some .flowEntry then some c.skip else none
      if c.next == some .flowMappingEnd then return ([], c.skip)
      let (key, value, c) ←
        if c.next == some .key then do
          let (key, c) ← nodeUnless? steps .flow [.value, .flowEntry, .flowMappingEnd] c.skip
          let (value, c) ←
            if c.next == some .value then nodeUnless? steps .flow [.flowEntry, .flowMappingEnd] c.skip
            else some (.empty, c.count 1)
          some (key, value, c)
        else do
          let (key, c) ← node? steps .flow c
          some (key, .empty, c.count 1)
      let (entries, c) ← flowEntries? steps false c
      some ((key, value) :: entries, c)

end

end Composer

def knownHandles : List (String × Address) :=
  [("!", "!".toUTF8.toList), ("!!", "tag:yaml.org,2002:".toUTF8.toList)]

def directives? (version : Bool) (handles : List (String × Address)) :
    List Token → Option (List (String × Address) × List Token)
  | .version major minor :: rest =>
    if version || major ≠ 1 || (minor ≠ 1 && minor ≠ 2) then none else directives? true handles rest
  | .handle name stem :: rest =>
    if (handles.lookup name).isSome then none else directives? version (handles ++ [(name, stem)]) rest
  | rest => some (handles ++ knownHandles, rest)

def documentBody? (directed : Bool) : List Token → Option (Bool × List Token)
  | .documentStart :: rest => some (true, rest)
  | rest => if directed then none else some (false, rest)

/-- A draft behind an alias, if it is one. The state counts the aliases that have been followed, here and
below; there may not be more than `limit`. -/
def followed? (c : Composer) (limit : Nat) : Draft → StateT Nat Option Draft
  | .alias number => do
    let jumps ← get
    if limit ≤ jumps then failure
    set (jumps + 1)
    c.target? number
  | draft => return draft

/-- The node that a draft stands for, nested no deeper than `depth`. An alias that names a node around it
never comes to an end. -/
def expand? (c : Composer) (limit depth : Nat) (draft : Draft) : StateT Nat Option Node := do
  match depth, ← followed? c limit draft with
  | _, .scalar tag style text => return .scalar tag style text
  | depth + 1, .sequence tag items => return .sequence tag (← items.mapM (expand? c limit depth))
  | depth + 1, .mapping tag entries =>
    let expandEntry := fun (key, value) => do
      return (← expand? c limit depth key, ← expand? c limit depth value)
    return .mapping tag (← entries.mapM expandEntry)
  | _, _ => failure
termination_by structural depth

def composeRoot? (marked : Bool) (handles : List (String × Address)) (tokens : List Token) :
    Option (Draft × Composer) :=
  let c : Composer := { tokens, handles }
  let vacant :=
    match tokens with
    | [] | .documentEnd :: _ | .documentStart :: _ | .version _ _ :: _ | .handle _ _ :: _ => true
    | _ => false
  if marked && vacant then some (.empty, c.count 1)
  else Composer.node? (4 * tokens.length + 8) .entry c

def depthLimit : Nat := 128

def jumpLimit : Nat := 100

def document? (text : String) : Option (Option Node) := do
  let tokens ← tokens? text
  if tokens.isEmpty then return none
  let (handles, rest) ← directives? false [] tokens
  let (marked, rest) ← documentBody? (rest.length < tokens.length) rest
  let (draft, c) ← composeRoot? marked handles rest
  if !(c.tokens.all (· == .documentEnd)) then none
  (some <$> expand? c (jumpLimit * c.events) depthLimit draft).run' 0

end RegisterPlane.Yaml
