import RegisterPlane.Store.Basic

/-!
How a store comes to its first entries: declared defaults, computed registers over them, then what
the backing kept, then overrides. Kept values and overrides are fitted to what is there already; a
kept value that does not fit is passed over, an override that does not fit fails the build.
-/

namespace RegisterPlane

structure Seed (σ : Type) where
  policy : Policy
  defaults : List (RegisterName × Value × Flags)
  computed : List (RegisterName × Computed σ)
  overrides : List (RegisterName × Value)
  live : σ

inductive BuildError where
  | backing (fault : BackingFault)
  | override (error : RegisterError)
  deriving DecidableEq

namespace Store

variable {σ : Type}

/-- The declared entries; a later declaration replaces an earlier one. -/
def declare (now : Timestamp) (seed : Seed σ) : List (RegisterName × Entry σ) :=
  let stored := seed.defaults.foldl
    (fun entries (name, value, flags) => insertEntry name (.stored ⟨value, flags, some now⟩) entries) []
  seed.computed.foldl (fun entries (name, c) => insertEntry name (.computed c) entries) stored

def restore (entries : List (RegisterName × Entry σ)) (p : Persisted) :
    List (RegisterName × Entry σ) :=
  match lookup? entries p.name.text with
  | none => insertEntry p.name (.stored ⟨p.value, ⟨p.mutable, true⟩, p.timestamp⟩) entries
  | some (_, .computed _) => entries
  | some (key, .stored stored) =>
    match Policy.implicit.assign stored.value p.value with
    | .error _ => entries
    | .ok value =>
      insertEntry key (.stored ⟨value, stored.flags, p.timestamp.or stored.timestamp⟩) entries

/-- One override laid over the entries, and whether it changes what is kept. Overrides are no writes:
they reach immutable registers. -/
def override (now : Timestamp) (entries : List (RegisterName × Entry σ)) (name : RegisterName)
    (value : Value) : Except RegisterError (List (RegisterName × Entry σ) × Bool) :=
  match lookup? entries name.text with
  | none => .ok (insertEntry name (.stored ⟨value, .config, some now⟩) entries, true)
  | some (_, .computed _) => .ok (entries, false)
  | some (key, .stored stored) =>
    (Policy.implicit.assign stored.value value).map fun fitted =>
      (insertEntry key (.stored ⟨fitted, stored.flags, some now⟩) entries, stored.flags.persistent)

def overrideAll (now : Timestamp) :
    List (RegisterName × Entry σ) × Bool → List (RegisterName × Value) →
      Except RegisterError (List (RegisterName × Entry σ) × Bool)
  | state, [] => .ok state
  | (entries, dirty), (name, value) :: rest => do
    let (entries', changed) ← override now entries name value
    overrideAll now (entries', dirty || changed) rest

def ofSeed (seed : Seed σ) (durable : Bool) (kept : List Persisted) (now : Timestamp) :
    Except RegisterError (Store σ) := do
  let (entries, dirty) ← overrideAll now (kept.foldl restore (declare now seed), false) seed.overrides
  return ⟨entries, seed.policy, durable, dirty, seed.live⟩

def build {World : Type} (seed : Seed σ) (backing : Backing World) (now : Timestamp) (world : World) :
    Except BuildError (Store σ) := do
  let kept ← (backing.load world).mapError .backing
  (ofSeed seed backing.durable kept now).mapError .override

end Store

end RegisterPlane
