import RegisterPlane.Store.Service

/-! A call on which nothing else goes on beside. Step by step, through both locks, it comes to what an
access to the store comes to in one, whatever the getters do to the live state. -/

namespace RegisterPlane.Service

open Store

variable {ι σ World : Type} [DecidableEq ι] {backing : Backing World} {calls : ι → Call} {i : ι}

/-- What a write to a computed register comes to without the store: the register as it is read back, or a
refusal with the register as it is read then. -/
def Detached.write (register : Detached σ) (value : Value) (live : σ) : Except Refusal Register × σ :=
  match writeComputed register.policy register.key register.computed value live with
  | (.ok shown, live') => (.ok shown, live')
  | (.error error, live') =>
    let (current, live'') := register.read live'
    (.error ⟨error, some current⟩, live'')

theorem access_detached {s : Store σ} {name : String} {key : RegisterName} {c : Computed σ}
    (found : s.entry? name = some (key, .computed c)) (now : Timestamp) (value : Value) :
    s.access now name (some value) =
      ((Detached.write ⟨key, c, s.policy⟩ value s.live).1,
        { s with live := (Detached.write ⟨key, c, s.policy⟩ value s.live).2 }) := by
  simp only [access, accessWrite, Store.set, found, Detached.write]
  rcases writeComputed s.policy key c value s.live with ⟨e | shown, live⟩
  · have there : entry? { s with live } name = some (key, .computed c) := found
    simp only [Store.get, there]
    rfl
  · rfl

/-- Scheduled alone, a call returns an answer, and leaves a store and a world. -/
def Comes (backing : Backing World) (calls : ι → Call) (i : ι) (service : Service ι σ World)
    (answer : Answer) (s : Store σ) (world : World) : Prop :=
  ∃ n after, run backing calls service (List.replicate n i) = some after ∧
    after.stages i = .returned answer ∧ after.store = s ∧ after.world = world

@[simp] theorem put_stages (service : Service ι σ World) (i : ι) (stage : Stage σ) :
    (service.put i stage).stages i = stage := if_pos rfl

theorem run_succ (service : Service ι σ World) (n : Nat) :
    run backing calls service (List.replicate (n + 1) i) =
      (step backing calls service i).bind fun next =>
        run backing calls next (List.replicate n i) := rfl

theorem step_returned {service : Service ι σ World} {answer : Answer}
    (returned : service.stages i = .returned answer) : step backing calls service i = none := by
  simp only [step, returned]

namespace Comes

variable {service : Service ι σ World} {answer other : Answer} {s s' : Store σ}
  {world world' : World}

theorem of_step (taken : ∃ next, step backing calls service i = some next ∧
      Comes backing calls i next answer s world) :
    Comes backing calls i service answer s world := by
  obtain ⟨next, taken, n, after, ran, ends⟩ := taken
  exact ⟨n + 1, after, by rw [run_succ, taken]; exact ran, ends⟩

theorem unique (one : Comes backing calls i service answer s world)
    (two : Comes backing calls i service other s' world') :
    other = answer ∧ s' = s ∧ world' = world := by
  obtain ⟨n, after, ran, ends, rfl, rfl⟩ := one
  obtain ⟨m, after', ran', ends', rfl, rfl⟩ := two
  induction n generalizing m service with
  | zero =>
      cases ran
      cases m with
      | zero =>
          cases ran'
          rw [ends] at ends'
          cases ends'
          exact ⟨rfl, rfl, rfl⟩
      | succ m =>
          rw [run_succ, step_returned ends] at ran'
          cases ran'
  | succ n ih =>
      rw [run_succ] at ran
      obtain ⟨next, taken, ran⟩ := Option.bind_eq_some_iff.mp ran
      cases m with
      | zero =>
          cases ran'
          rw [step_returned ends'] at taken
          cases taken
      | succ m =>
          rw [run_succ, taken] at ran'
          exact ih ran m ran'

/-! From its end backwards, what is left of a call at each stage. -/

theorem answered (stage : service.stages i = .answered answer) :
    Comes backing calls i service answer service.store service.world := by
  apply of_step
  simp only [step, stage, Option.some.injEq, exists_eq_left']
  exact ⟨0, _, rfl, put_stages .., rfl, rfl⟩

theorem settled {result : Except Refusal Register} (stage : service.stages i = .settled result) :
    Comes backing calls i service (.accessed result) service.store service.world := by
  apply of_step
  simp only [step, stage, Option.some.injEq, exists_eq_left']
  exact answered (put_stages ..)

variable {register : Detached σ} {value : Value}

theorem reading (stage : service.stages i = .reading register) :
    Comes backing calls i service (.accessed (.ok (register.read service.store.live).1))
      { service.store with live := (register.read service.store.live).2 } service.world := by
  apply of_step
  simp only [step, stage, Option.some.injEq, exists_eq_left']
  exact answered (put_stages ..)

theorem refused {error : RegisterError}
    (stage : service.stages i = .writing register value (.refused error)) :
    Comes backing calls i service
      (.accessed (.error ⟨error, some (register.read service.store.live).1⟩))
      { service.store with live := (register.read service.store.live).2 } service.world := by
  apply of_step
  simp only [step, stage, Phase.next, Option.some.injEq, exists_eq_left']
  exact settled (put_stages ..)

theorem written (stage : service.stages i = .writing register value .written) :
    Comes backing calls i service (.accessed (.ok (register.read service.store.live).1))
      { service.store with live := (register.read service.store.live).2 } service.world := by
  apply of_step
  simp only [step, stage, Phase.next, Option.some.injEq, exists_eq_left']
  exact settled (put_stages ..)

theorem fetched {write : Value → σ → σ} {current : Value} {live : σ}
    (stage : service.stages i = .writing register value (.fetched write current))
    (setter : register.computed.write = some write)
    (getter : register.computed.read live = (current, service.store.live)) :
    Comes backing calls i service (.accessed (register.write value live).1)
      { service.store with live := (register.write value live).2 } service.world := by
  apply of_step
  simp only [step, stage, Phase.next]
  cases assigned : register.policy.assign current value with
  | error e =>
      simp only [Detached.write, writeComputed, setter, getter, assigned, Option.some.injEq,
        exists_eq_left']
      exact refused (put_stages ..)
  | ok fitted =>
      simp only [Detached.write, writeComputed, setter, getter, assigned, Option.some.injEq,
        exists_eq_left']
      apply of_step
      simp only [step, put_stages, Phase.next, Option.some.injEq, exists_eq_left']
      exact written (put_stages ..)

theorem waiting (stage : service.stages i = .waiting register value)
    (free : service.writer = none) :
    Comes backing calls i service (.accessed (register.write value service.store.live).1)
      { service.store with live := (register.write value service.store.live).2 } service.world := by
  apply of_step
  simp only [step, stage, free, Option.isSome_none, Bool.false_eq_true, if_false, Option.some.injEq,
    exists_eq_left']
  apply of_step
  simp only [step, put_stages, Phase.next]
  cases setter : register.computed.write with
  | none =>
      simp only [Detached.write, writeComputed, setter, Option.some.injEq, exists_eq_left']
      exact refused (put_stages ..)
  | some write =>
      simp only [Option.some.injEq, exists_eq_left']
      exact fetched (put_stages ..) setter rfl

theorem invoked {now : Timestamp} {name : String} {value : Option Value}
    (made : calls i = .access now name value) (stage : service.stages i = .invoked)
    (free : service.writer = none) :
    Comes backing calls i service (.accessed (service.store.access now name value).1)
      (service.store.access now name value).2 service.world := by
  apply of_step
  simp only [step, stage, made, Call.underLock, lookup, Call.perform]
  cases found : service.store.entry? name with
  | none =>
      simp only [Option.some.injEq, exists_eq_left']
      exact answered (put_stages ..)
  | some entry =>
      obtain ⟨key, stored | c⟩ := entry
      · simp only [Option.some.injEq, exists_eq_left']
        exact answered (put_stages ..)
      · cases value with
        | none =>
            simp only [Store.access, accessRead, Store.get, found, Option.some.injEq, exists_eq_left']
            exact reading (put_stages ..)
        | some value =>
            simp only [access_detached found, Option.some.injEq, exists_eq_left']
            exact waiting (put_stages ..) free

theorem access {now : Timestamp} {name : String} {value : Option Value}
    (made : calls i = .access now name value) (idle : service.stages i = .idle)
    (free : service.writer = none) :
    Comes backing calls i service (.accessed (service.store.access now name value).1)
      (service.store.access now name value).2 service.world := by
  apply of_step
  simp only [step, idle, Option.some.injEq, exists_eq_left']
  exact invoked made (put_stages ..) free

end Comes

/-- Made alone, a call comes to this answer, this store and this world, and to nothing else. -/
def Ends (backing : Backing World) (call : Call) (s : Store σ) (world : World) (answer : Answer)
    (after : Store σ) (world' : World) : Prop :=
  ∀ other s' later, Comes backing (fun _ : Unit => call) () (start s world) other s' later ↔
    other = answer ∧ s' = after ∧ later = world'

theorem ends_access (backing : Backing World) (s : Store σ) (world : World) (now : Timestamp)
    (name : String) (value : Option Value) :
    Ends backing (.access now name value) s world (.accessed (s.access now name value).1)
      (s.access now name value).2 world := by
  have comes : Comes backing (fun _ : Unit => Call.access now name value) () (start s world)
      (.accessed (s.access now name value).1) (s.access now name value).2 world :=
    Comes.access rfl rfl rfl
  intro other s' later
  refine ⟨comes.unique, ?_⟩
  rintro ⟨rfl, rfl, rfl⟩
  exact comes

end RegisterPlane.Service
