import RegisterPlane.Store.Backing
import RegisterPlane.Store.Policy

/-!
The register store. Entries are kept in ascending order of their names, each name once. A stored
entry holds a value; a computed one is read from and written to a live state on every access.
-/

namespace RegisterPlane

/-- A register that is read from a live state, and written to it if that is allowed. -/
structure Computed (σ : Type) where
  read : σ → Value × σ
  write : Option (Value → σ → σ)

structure Stored where
  value : Value
  flags : Flags
  timestamp : Option Timestamp
  deriving DecidableEq

inductive Entry (σ : Type) where
  | stored (s : Stored)
  | computed (c : Computed σ)

/-- What a name stands for: a stored register as it stands, or a computed one, still to be read or
written. -/
inductive Lookup (σ : Type) where
  | stored (r : Register)
  | computed (name : RegisterName) (c : Computed σ) (policy : Policy)

structure Store (σ : Type) where
  entries : List (RegisterName × Entry σ)
  policy : Policy
  /-- Do registers survive a restart? -/
  durable : Bool
  /-- Has a persistent register changed since it was last kept? -/
  dirty : Bool
  /-- What computed registers read and write. -/
  live : σ

namespace Store

variable {σ : Type}

def insertEntry (name : RegisterName) (entry : Entry σ) :
    List (RegisterName × Entry σ) → List (RegisterName × Entry σ)
  | [] => [(name, entry)]
  | (other, kept) :: rest =>
    if name.text < other.text then (name, entry) :: (other, kept) :: rest
    else if other.text < name.text then (other, kept) :: insertEntry name entry rest
    else (name, entry) :: rest

def lookup? (entries : List (RegisterName × Entry σ)) (name : String) :
    Option (RegisterName × Entry σ) :=
  entries.find? (·.1.text == name)

def entry? (s : Store σ) (name : String) : Option (RegisterName × Entry σ) :=
  lookup? s.entries name

def names (s : Store σ) : List RegisterName := s.entries.map (·.1)

def nameAt? (s : Store σ) (index : Nat) : Option RegisterName := s.names[index]?

def size (s : Store σ) : Nat := s.entries.length

/-- A stored register as readers see it: only one that is kept has a time. -/
def view (s : Store σ) (name : RegisterName) (stored : Stored) : Register :=
  let persistent := stored.flags.persistent && s.durable
  ⟨name, stored.value, stored.flags.mutable, persistent, if persistent then stored.timestamp else none⟩

def computedView (name : RegisterName) (c : Computed σ) (value : Value) : Register :=
  ⟨name, value, c.write.isSome, false, none⟩

def readComputed (name : RegisterName) (c : Computed σ) (live : σ) : Register × σ :=
  let (value, live') := c.read live
  (computedView name c value, live')

/-- A computed register written: the value is fitted to the live one and handed over, and the
register is read back. -/
def writeComputed (policy : Policy) (name : RegisterName) (c : Computed σ) (value : Value) (live : σ) :
    Except RegisterError Register × σ :=
  match c.write with
  | none => (.error (.immutable name.text), live)
  | some write =>
    let (current, live') := c.read live
    match policy.assign current value with
    | .error e => (.error e, live')
    | .ok fitted =>
      let (register, live'') := readComputed name c (write fitted live')
      (.ok register, live'')

def lookup (s : Store σ) (name : String) : Except RegisterError (Lookup σ) :=
  match s.entry? name with
  | none => .error (.notFound name)
  | some (key, .stored stored) => .ok (.stored (s.view key stored))
  | some (key, .computed c) => .ok (.computed key c s.policy)

def get (s : Store σ) (name : String) : Except RegisterError Register × Store σ :=
  match s.entry? name with
  | none => (.error (.notFound name), s)
  | some (key, .stored stored) => (.ok (s.view key stored), s)
  | some (key, .computed c) =>
    let (register, live) := readComputed key c s.live
    (.ok register, { s with live })

def writeStored (policy : Policy) (now : Timestamp) (name : String) (value : Value) (stored : Stored) :
    Except RegisterError Stored :=
  if !stored.flags.mutable then .error (.immutable name)
  else (policy.assign stored.value value).map fun fitted =>
    { stored with value := fitted, timestamp := some now }

/-- The register of a name after a write to it; a refused write changes no stored register. -/
def set (s : Store σ) (now : Timestamp) (name : String) (value : Value) :
    Except RegisterError Register × Store σ :=
  match s.entry? name with
  | none => (.error (.notFound name), s)
  | some (key, .stored stored) =>
    match writeStored s.policy now name value stored with
    | .error e => (.error e, s)
    | .ok written =>
      (.ok (s.view key written),
        { s with
          entries := insertEntry key (.stored written) s.entries
          dirty := s.dirty || stored.flags.persistent })
  | some (key, .computed c) =>
    let (result, live) := writeComputed s.policy key c value s.live
    (result, { s with live })

def persisted (s : Store σ) : List Persisted :=
  s.entries.filterMap fun
    | (name, .stored stored) =>
      if stored.flags.persistent then
        some ⟨name, stored.value, stored.flags.mutable, stored.timestamp⟩
      else none
    | (_, .computed _) => none

/-- A store with changes hands everything persistent to its backing. The answer says whether it did;
a store that could not stays dirty. -/
def flush {World : Type} (s : Store σ) (backing : Backing World) (now : Timestamp) (world : World) :
    Bool × Store σ × World :=
  if !s.dirty then (false, s, world)
  else
    match backing.save now s.persisted world with
    | (.ok (), world') => (true, { s with dirty := false }, world')
    | (.error _, world') => (false, s, world')

end Store

end RegisterPlane
