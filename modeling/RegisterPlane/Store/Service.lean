import RegisterPlane.Store.Access

/-!
A service that answers many callers at once from one store. What a call does under the store's lock is
one step. A computed register is looked up there, but read and written when that lock is free again;
writes to computed registers exclude one another by a second lock, which is held over several steps.
-/

namespace RegisterPlane

namespace Service

variable {ι σ World : Type}

inductive Call where
  | list
  | nameAt (index : Nat)
  /-- A read without a value, a write with one. -/
  | access (now : Timestamp) (name : String) (value : Option Value)
  | flush (now : Timestamp)
  deriving DecidableEq

inductive Answer where
  | names (names : List RegisterName)
  | name (name : Option RegisterName)
  | accessed (result : Except Refusal Register)
  | flushed (done : Bool)

def Call.perform (backing : Backing World) (s : Store σ) (world : World) :
    Call → Answer × Store σ × World
  | .list => (.names s.names, s, world)
  | .nameAt index => (.name (s.nameAt? index), s, world)
  | .access now name value =>
    let (result, s') := s.access now name value
    (.accessed result, s', world)
  | .flush now =>
    let (done, s', world') := s.flush backing now world
    (.flushed done, s', world')

/-- A computed register as a lookup hands it out, for use without the store. -/
structure Detached (σ : Type) where
  key : RegisterName
  computed : Computed σ
  policy : Policy

def Detached.read (register : Detached σ) (live : σ) : Register × σ :=
  Store.readComputed register.key register.computed live

inductive Phase (σ : Type) where
  | entered
  | fetched (write : Value → σ → σ) (current : Value)
  | fitted (write : Value → σ → σ) (value : Value)
  /-- The setter has run, and the register is still to be read back. -/
  | written
  /-- The register as it stands is still to be read. -/
  | refused (error : RegisterError)

inductive Stage (σ : Type) where
  | idle
  | invoked
  | reading (register : Detached σ)
  /-- Before the writers' lock. -/
  | waiting (register : Detached σ) (value : Value)
  | writing (register : Detached σ) (value : Value) (phase : Phase σ)
  /-- The result is there, and the writers' lock is not yet free. -/
  | settled (result : Except Refusal Register)
  | answered (answer : Answer)
  | returned (answer : Answer)

def Call.underLock (backing : Backing World) (s : Store σ) (world : World) (call : Call) :
    Stage σ × Store σ × World :=
  let (answer, s', world') := call.perform backing s world
  match call with
  | .access _ name value =>
    match s.lookup name, value with
    | .ok (.computed key c policy), none => (.reading ⟨key, c, policy⟩, s, world)
    | .ok (.computed key c policy), some value => (.waiting ⟨key, c, policy⟩ value, s, world)
    | .ok (.stored _), _ => (.answered answer, s', world')
    | .error _, _ => (.answered answer, s', world')
  | _ => (.answered answer, s', world')

/-- One step of a write under the writers' lock: the getter, the fitting, the setter, or the getter
again for what is returned. -/
def Phase.next (register : Detached σ) (value : Value) (live : σ) : Phase σ → Stage σ × σ
  | .entered =>
    match register.computed.write with
    | none => (.writing register value (.refused (.immutable register.key.text)), live)
    | some write =>
      let (current, live') := register.computed.read live
      (.writing register value (.fetched write current), live')
  | .fetched write current =>
    match register.policy.assign current value with
    | .error error => (.writing register value (.refused error), live)
    | .ok converted => (.writing register value (.fitted write converted), live)
  | .fitted write converted => (.writing register value .written, write converted live)
  | .written =>
    let (shown, live') := register.read live
    (.settled (.ok shown), live')
  | .refused error =>
    let (current, live') := register.read live
    (.settled (.error ⟨error, some current⟩), live')

/-- What callers notice. -/
inductive Moment (ι : Type) where
  | invoked (i : ι)
  | returned (i : ι) (answer : Answer)

end Service

structure Service (ι σ World : Type) where
  store : Store σ
  world : World
  /-- The call that holds the writers' lock. -/
  writer : Option ι
  stages : ι → Service.Stage σ
  history : List (Service.Moment ι)

namespace Service

variable {ι σ World : Type} [DecidableEq ι]

def start (s : Store σ) (world : World) : Service ι σ World := ⟨s, world, none, fun _ => .idle, []⟩

def put (service : Service ι σ World) (i : ι) (stage : Stage σ) : Service ι σ World :=
  { service with stages := fun j => if j = i then stage else service.stages j }

/-- The next step of a call. There is none while it waits for the writers' lock and somebody holds
that, and none after it has returned. -/
def step (backing : Backing World) (calls : ι → Call) (service : Service ι σ World) (i : ι) :
    Option (Service ι σ World) :=
  match service.stages i with
  | .idle => some { service.put i .invoked with history := service.history ++ [.invoked i] }
  | .invoked =>
    let (stage, store, world) := (calls i).underLock backing service.store service.world
    some { service.put i stage with store, world }
  | .reading register =>
    let (shown, live) := register.read service.store.live
    some { service.put i (.answered (.accessed (.ok shown))) with store := { service.store with live } }
  | .waiting register value =>
    if service.writer.isSome then none
    else some { service.put i (.writing register value .entered) with writer := some i }
  | .writing register value phase =>
    let (stage, live) := phase.next register value service.store.live
    some { service.put i stage with store := { service.store with live } }
  | .settled result => some { service.put i (.answered (.accessed result)) with writer := none }
  | .answered answer =>
    some { service.put i (.returned answer) with
      history := service.history ++ [.returned i answer] }
  | .returned _ => none

def run (backing : Backing World) (calls : ι → Call) (service : Service ι σ World)
    (schedule : List ι) : Option (Service ι σ World) :=
  schedule.foldlM (step backing calls) service

end Service

end RegisterPlane
