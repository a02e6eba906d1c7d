import RegisterPlane.Proofs.Store.Computed

/-! What decides over a write to a stored register: the policy, and what was known of the register when
the store was built. Whatever was asked of the store before makes no difference. -/

namespace RegisterPlane

variable {σ World : Type}

/-- What of a stored register decides over the writes to it. -/
structure Mould where
  mutable : Bool
  kind : Kind
  /-- The number of elements, where the register is an array. -/
  count : Option Nat

def Stored.mould (stored : Stored) : Mould where
  mutable := stored.flags.mutable
  kind := stored.value.kind
  count := if stored.value.kind.isNumeric then some stored.value.size else none

namespace Mould

/-- The value that a write leaves in the register, or the error that refuses it. -/
def verdict (mould : Mould) (policy : Policy) (name : String) (incoming : Value) :
    Except RegisterError Value :=
  if mould.mutable = false then .error (.immutable name)
  else if policy = .strict ∧ incoming.kind ≠ mould.kind then
    .error (Misfit.strictPolicy.toError incoming.kind mould.kind)
  else if incoming.kind.family ≠ mould.kind.family then
    .error (Misfit.otherFamily.toError incoming.kind mould.kind)
  else
    match mould.count with
    | none => incoming.coerce mould.kind
    | some count =>
      if incoming.size ≠ count then
        .error ((Misfit.elementCount count incoming.size).toError incoming.kind mould.kind)
      else incoming.coerce mould.kind

theorem verdict_of_mutable {stored : Stored} (mutable : stored.flags.mutable = true) (policy : Policy)
    (name : String) (incoming : Value) :
    stored.mould.verdict policy name incoming = policy.assign stored.value incoming := by
  rw [Policy.assign_eq_misfit]
  unfold verdict Policy.misfit?
  simp only [Stored.mould, mutable, Bool.true_eq_false, if_false]
  by_cases strictly : policy = .strict ∧ incoming.kind ≠ stored.value.kind
  · rw [if_pos strictly, if_pos strictly]
  · rw [if_neg strictly, if_neg strictly]
    by_cases apart : incoming.kind.family ≠ stored.value.kind.family
    · rw [if_pos apart, if_pos apart]
    · rw [if_neg apart, if_neg apart]
      by_cases numeric : stored.value.kind.isNumeric = true
      · by_cases counted : incoming.size = stored.value.size <;> simp [numeric, counted]
      · simp [numeric]

theorem mutable_of_verdict {mould : Mould} {policy : Policy} {name : String} {incoming fitted : Value}
    (taken : mould.verdict policy name incoming = .ok fitted) : mould.mutable = true := by
  cases mutable : mould.mutable with
  | true => rfl
  | false => simp [verdict, mutable] at taken

theorem assign_of_verdict {stored : Stored} {policy : Policy} {name : String} {incoming fitted : Value}
    (taken : stored.mould.verdict policy name incoming = .ok fitted) :
    policy.assign stored.value incoming = .ok fitted := by
  rw [← verdict_of_mutable (mutable_of_verdict taken) policy name]
  exact taken

end Mould

theorem Stored.mould_of_shape {stored new : Stored} (flags : new.flags = stored.flags)
    (shape : new.value.SameShape stored.value) : new.mould = stored.mould := by
  unfold mould
  rw [flags, shape.1]
  by_cases numeric : stored.value.kind.isNumeric = true
  · rw [if_pos numeric, if_pos numeric, shape.2 numeric]
  · rw [if_neg numeric, if_neg numeric]

theorem Policy.assign_loosen {stored incoming fitted : Value}
    (assigned : Policy.strict.assign stored incoming = .ok fitted) :
    Policy.implicit.assign stored incoming = .ok fitted := by
  obtain ⟨unhindered, coerced⟩ := coerce_of_assign assigned
  have fits := (misfit_eq_none_iff ..).mp unhindered
  have loosely : Policy.implicit.Admits stored incoming := ⟨fits.family, fits.2⟩
  rw [assign_eq_misfit, (misfit_eq_none_iff ..).mpr loosely]
  exact coerced

theorem Mould.verdict_loosen {stored : Stored} {name : String} {incoming fitted : Value}
    (taken : stored.mould.verdict .strict name incoming = .ok fitted) :
    stored.mould.verdict .implicit name incoming = .ok fitted := by
  rw [verdict_of_mutable (mutable_of_verdict taken)]
  exact Policy.assign_loosen (assign_of_verdict taken)

namespace Store

theorem writeStored_eq (policy : Policy) (now : Timestamp) (name : String) (value : Value)
    (stored : Stored) :
    writeStored policy now name value stored =
      (stored.mould.verdict policy name value).map fun fitted =>
        { stored with value := fitted, timestamp := some now } := by
  cases mutable : stored.flags.mutable with
  | false => simp [writeStored, Mould.verdict, Stored.mould, mutable, Except.map]
  | true =>
      rw [Mould.verdict_of_mutable mutable]
      simp [writeStored, mutable]

theorem set_of_verdict {s : Store σ} {name : String} {key : RegisterName} {held : Stored}
    (found : s.entry? name = some (key, .stored held)) (now : Timestamp) {value fitted : Value}
    (taken : held.mould.verdict s.policy name value = .ok fitted) :
    ∃ r s' new, s.set now name value = (.ok r, s') ∧ r.value = fitted ∧
      s'.entry? name = some (key, .stored new) ∧ new.value = fitted ∧ new.mould = held.mould ∧
      s'.policy = s.policy := by
  let new : Stored := { held with value := fitted, timestamp := some now }
  have shape : new.value.SameShape held.value := Policy.shape_of_assign (Mould.assign_of_verdict taken)
  have here : lookup? (insertEntry key (.stored new) s.entries) name = some (key, .stored new) := by
    rw [lookup_insert, if_pos (key_of_lookup found)]
  refine ⟨s.view key new, { s with
    entries := insertEntry key (.stored new) s.entries
    dirty := s.dirty || held.flags.persistent }, new, ?_, rfl, here, rfl,
    Stored.mould_of_shape rfl shape, rfl⟩
  simp only [set, found, writeStored_eq, taken, Except.map, new]

theorem set_of_refusal {s : Store σ} {name : String} {key : RegisterName} {held : Stored}
    (found : s.entry? name = some (key, .stored held)) (now : Timestamp) {value : Value}
    {e : RegisterError} (refused : held.mould.verdict s.policy name value = .error e) :
    s.set now name value = (.error e, s) := by
  simp only [set, found, writeStored_eq, refused, Except.map]

theorem entry_set_of_ne {name other : String} (differ : other ≠ name) (s : Store σ) (now : Timestamp)
    (value : Value) : entry? (s.set now other value).2 name = s.entry? name := by
  have outcome := outcome_set s now other value
  generalize s.set now other value = result at outcome ⊢
  cases outcome with
  | unknown | computed | readOnly | misfit => rfl
  | written found =>
      exact lookup_insert_of_ne (by rw [key_of_lookup found]; exact differ) _ _

theorem entry_get (s : Store σ) (name other : String) :
    entry? (s.get other).2 name = s.entry? name := by
  unfold get
  split <;> rfl

theorem entry_access_of_ne {name other : String} (differ : other ≠ name) (s : Store σ)
    (now : Timestamp) (value : Option Value) :
    entry? (s.access now other value).2 name = s.entry? name := by
  rcases access_store s now other value with read | ⟨written, wrote | refused⟩
  · rw [read, entry_get]
  · rw [wrote, entry_set_of_ne differ]
  · rw [refused, entry_get, entry_set_of_ne differ]

def Operation.written? (name : String) : Operation → Option Value
  | .set _ other value => if other = name then some value else none
  | .access _ other value => if other = name then value else none
  | .get _ | .lookup _ | .list | .nameAt _ | .flush _ => none

def Operation.touches (name : String) : Operation → Bool
  | .get other | .set _ other _ | .access _ other _ => other = name
  | .lookup _ | .list | .nameAt _ | .flush _ => false

def Answer.outcome? : Answer σ → Option (Except RegisterError Value)
  | .register (.ok r) | .accessed (.ok r) => some (.ok r.value)
  | .register (.error e) | .accessed (.error ⟨e, _⟩) => some (.error e)
  | .found _ | .names _ | .name _ | .flushed _ => none

def Answer.shown? (answer : Answer σ) : Option Value := answer.outcome?.bind Except.toOption

/-- From one store and world to another, with all that was asked on the way and how it was answered. -/
inductive Transcript (backing : Backing World) (s : Store σ) (world : World) :
    List (Operation × Answer σ) → Store σ → World → Prop where
  | start : Transcript backing s world [] s world
  | perform {row : List (Operation × Answer σ)} {s' : Store σ} {world' : World} (op : Operation)
      (told : Transcript backing s world row s' world') :
      Transcript backing s world (row ++ [(op, (Store.perform backing s' world' op).1)])
        (Store.perform backing s' world' op).2.1 (Store.perform backing s' world' op).2.2
  | elapse {row : List (Operation × Answer σ)} {s' : Store σ} {world' : World} (live : σ)
      (later : World) (told : Transcript backing s world row s' world') :
      Transcript backing s world row { s' with live } later

def accepted? (name : String) (op : Operation) (answer : Answer σ) : Option Value :=
  answer.shown?.bind fun _ => op.written? name

def returned? (name : String) (op : Operation) (answer : Answer σ) : Option Value :=
  if op.touches name then answer.shown? else none

def lastAccepted? (name : String) (row : List (Operation × Answer σ)) : Option Value :=
  (row.filterMap fun (op, answer) => accepted? name op answer).getLast?

def lastReturned? (name : String) (row : List (Operation × Answer σ)) : Option Value :=
  (row.filterMap fun (op, answer) => returned? name op answer).getLast?

theorem lastAccepted_concat (name : String) (row : List (Operation × Answer σ)) (op : Operation)
    (answer : Answer σ) :
    lastAccepted? name (row ++ [(op, answer)]) =
      (accepted? name op answer).or (lastAccepted? name row) := by
  unfold lastAccepted?
  cases one : accepted? name op answer <;> simp [List.filterMap_append, one]

theorem lastReturned_concat (name : String) (row : List (Operation × Answer σ)) (op : Operation)
    (answer : Answer σ) :
    lastReturned? name (row ++ [(op, answer)]) =
      (returned? name op answer).or (lastReturned? name row) := by
  unfold lastReturned?
  cases one : returned? name op answer <;> simp [List.filterMap_append, one]

inductive Meets (name : String) (mould : Mould) (policy : Policy) (held : Value) (op : Operation)
    (answer : Answer σ) : Value → Prop where
  | aside (elsewhere : op.touches name = false) (reads : op.written? name = none) :
      Meets name mould policy held op answer held
  | read (here : op.touches name = true) (reads : op.written? name = none)
      (outcome : answer.outcome? = some (.ok held)) : Meets name mould policy held op answer held
  | refused {incoming : Value} {e : RegisterError} (writes : op.written? name = some incoming)
      (verdict : mould.verdict policy name incoming = .error e)
      (outcome : answer.outcome? = some (.error e)) : Meets name mould policy held op answer held
  | taken {incoming fitted : Value} (here : op.touches name = true)
      (writes : op.written? name = some incoming)
      (verdict : mould.verdict policy name incoming = .ok fitted)
      (outcome : answer.outcome? = some (.ok fitted)) : Meets name mould policy held op answer fitted

namespace Meets

variable {name : String} {mould : Mould} {policy : Policy} {held after : Value} {op : Operation}
  {answer : Answer σ}

theorem answered (meets : Meets name mould policy held op answer after) {incoming : Value}
    (writes : op.written? name = some incoming) :
    answer.outcome? = some (mould.verdict policy name incoming) := by
  cases meets with
  | aside _ reads | read _ reads => simp [reads] at writes
  | refused writes' verdict outcome | taken _ writes' verdict outcome =>
      rw [writes'] at writes
      cases writes
      rw [outcome, verdict]

theorem accepted_cases (meets : Meets name mould policy held op answer after) :
    accepted? name op answer = none ∧ after = held ∨
      ∃ incoming, accepted? name op answer = some incoming ∧
        mould.verdict policy name incoming = .ok after := by
  cases meets with
  | aside _ reads | read _ reads => exact Or.inl ⟨by simp [accepted?, reads], rfl⟩
  | refused _ _ outcome =>
      exact Or.inl ⟨by simp [accepted?, Answer.shown?, outcome, Except.toOption], rfl⟩
  | taken _ writes verdict outcome =>
      exact Or.inr ⟨_, by simp [accepted?, Answer.shown?, outcome, Except.toOption, writes], verdict⟩

theorem returned_cases (meets : Meets name mould policy held op answer after) :
    returned? name op answer = none ∧ after = held ∨ returned? name op answer = some after := by
  cases meets with
  | aside elsewhere => exact Or.inl ⟨by simp [returned?, elsewhere], rfl⟩
  | refused _ _ outcome =>
      exact Or.inl ⟨by simp [returned?, Answer.shown?, outcome, Except.toOption], rfl⟩
  | read here _ outcome | taken here _ _ outcome =>
      exact Or.inr (by simp [returned?, here, Answer.shown?, outcome, Except.toOption])

end Meets

/-- A stored register stands under a name, with a mould and a value. -/
structure Stands (s : Store σ) (name : String) (mould : Mould) (policy : Policy) (value : Value) :
    Prop where
  policy : s.policy = policy
  entry : ∃ key held, s.entry? name = some (key, .stored held) ∧ held.mould = mould ∧ held.value = value

section Step

variable {s : Store σ} {name : String} {mould : Mould} {policy : Policy} {value : Value}

theorem Stands.frame (stands : Stands s name mould policy value) {s' : Store σ}
    (entry : s'.entry? name = s.entry? name) (kept : s'.policy = s.policy) :
    Stands s' name mould policy value := by
  refine ⟨kept.trans stands.policy, ?_⟩
  rw [entry]
  exact stands.entry

theorem get_meets (stands : Stands s name mould policy value) (backing : Backing World) (world : World)
    (other : String) :
    Meets name mould policy value (.get other) (perform backing s world (.get other)).1 value ∧
      Stands (perform backing s world (.get other)).2.1 name mould policy value := by
  refine ⟨?_, stands.frame (entry_get s name other) (get_moves s other).policy⟩
  by_cases here : other = name
  · obtain ⟨key, held, found, -, same⟩ := stands.entry
    refine .read (by simp [Operation.touches, here]) rfl ?_
    simp only [perform, here, get_of_stored found, Answer.outcome?, view, same]
  · exact .aside (by simp [Operation.touches, here]) rfl

theorem set_meets (stands : Stands s name mould policy value) (now : Timestamp) (incoming : Value) :
    (∃ r s', s.set now name incoming = (.ok r, s') ∧
        mould.verdict policy name incoming = .ok r.value ∧ Stands s' name mould policy r.value) ∨
      ∃ e, s.set now name incoming = (.error e, s) ∧ mould.verdict policy name incoming = .error e := by
  obtain ⟨same, key, held, found, rfl, rfl⟩ := stands
  subst same
  cases verdict : held.mould.verdict s.policy name incoming with
  | error e => exact Or.inr ⟨e, set_of_refusal found now verdict, rfl⟩
  | ok fitted =>
      obtain ⟨r, s', new, result, shows, there, value, mould, policy⟩ :=
        set_of_verdict found now verdict
      subst shows
      exact Or.inl ⟨r, s', result, rfl, policy, key, new, there, mould, value⟩

theorem write_meets (stands : Stands s name mould policy value) (now : Timestamp) {incoming : Value}
    {op : Operation} {answer : Answer σ} (here : op.touches name = true)
    (writes : op.written? name = some incoming)
    (outcome : answer.outcome? = some ((s.set now name incoming).1.map (·.value))) :
    ∃ after, Meets name mould policy value op answer after ∧
      Stands (s.set now name incoming).2 name mould policy after := by
  rcases set_meets stands now incoming with ⟨r, s', result, verdict, after⟩ | ⟨e, result, verdict⟩
  · rw [result] at outcome ⊢
    exact ⟨r.value, .taken here writes verdict outcome, after⟩
  · rw [result] at outcome ⊢
    exact ⟨value, .refused writes verdict outcome, stands⟩

theorem accessWrite_of_stands (stands : Stands s name mould policy value) (now : Timestamp)
    (incoming : Value) :
    (Answer.accessed (s.accessWrite now name incoming).1 : Answer σ).outcome? =
        some ((s.set now name incoming).1.map (·.value)) ∧
      (s.accessWrite now name incoming).2 = (s.set now name incoming).2 := by
  obtain ⟨key, held, found, -, -⟩ := stands.entry
  rcases set_meets stands now incoming with ⟨r, s', result, -⟩ | ⟨e, result, -⟩
  · simp only [accessWrite, result, and_true]
    rfl
  · simp only [accessWrite, result, get_of_stored found, and_true]
    rfl

theorem access_meets (stands : Stands s name mould policy value) (backing : Backing World)
    (world : World) (now : Timestamp) (other : String) (incoming : Option Value) :
    ∃ after, Meets name mould policy value (.access now other incoming)
        (perform backing s world (.access now other incoming)).1 after ∧
      Stands (perform backing s world (.access now other incoming)).2.1 name mould policy after := by
  by_cases here : other = name
  · subst here
    cases incoming with
    | none =>
        obtain ⟨key, held, found, -, same⟩ := stands.entry
        have read := get_of_stored found
        refine ⟨value, .read (by simp [Operation.touches]) (by simp [Operation.written?]) ?_, ?_⟩
        · simp only [perform, access, accessRead, read, Except.mapError, Answer.outcome?, view, same]
        · simpa only [perform, access, accessRead, read] using stands
    | some incoming =>
        obtain ⟨outcome, left⟩ := accessWrite_of_stands stands now incoming
        simp only [perform, access, left]
        exact write_meets stands now (by simp [Operation.touches]) (by simp [Operation.written?])
          outcome
  · exact ⟨value, .aside (by simp [Operation.touches, here]) (by simp [Operation.written?, here]),
      stands.frame (entry_access_of_ne here s now incoming)
        (sameComputed_access s now other incoming).policy⟩

theorem perform_meets (stands : Stands s name mould policy value) (backing : Backing World)
    (world : World) (op : Operation) :
    ∃ after, Meets name mould policy value op (perform backing s world op).1 after ∧
      Stands (perform backing s world op).2.1 name mould policy after := by
  cases op with
  | get other => exact ⟨value, get_meets stands backing world other⟩
  | access now other incoming => exact access_meets stands backing world now other incoming
  | lookup | list | nameAt => exact ⟨value, .aside rfl rfl, stands⟩
  | flush now =>
      refine ⟨value, .aside rfl rfl, stands.frame ?_ (sameComputed_flush s backing now world).policy⟩
      simp only [perform, entry?, (flush_entries s backing now world).1]
  | set now other incoming =>
      by_cases here : other = name
      · subst here
        refine write_meets stands now (by simp [Operation.touches]) (by simp [Operation.written?]) ?_
        simp only [perform]
        cases (s.set now other incoming).1 <;> rfl
      · exact ⟨value, .aside (by simp [Operation.touches, here]) (by simp [Operation.written?, here]),
          stands.frame (entry_set_of_ne here s now incoming) (set_moves s now other incoming).policy⟩

end Step

/-- A stored register after a row of operations: what its writes were answered, and what it holds. -/
structure Unswayed (built : Store σ) (name : String) (stored : Stored)
    (row : List (Operation × Answer σ)) (s : Store σ) (value : Value) : Prop where
  stands : Stands s name stored.mould built.policy value
  /-- Each write is answered by what was known when the store was built. -/
  answered : ∀ op answer incoming, (op, answer) ∈ row → op.written? name = some incoming →
    answer.outcome? = some (stored.mould.verdict built.policy name incoming)
  untouched : lastAccepted? name row = none → value = stored.value
  accepted : ∀ incoming, lastAccepted? name row = some incoming →
    incoming.coerce stored.value.kind = .ok value
  returned : ∀ shown, lastReturned? name row = some shown → shown = value

theorem unswayed_perform {built s s' : Store σ} {name : String} {stored : Stored}
    {row : List (Operation × Answer σ)} {value after : Value} {op : Operation} {answer : Answer σ}
    (unswayed : Unswayed built name stored row s value)
    (meets : Meets name stored.mould built.policy value op answer after)
    (stands : Stands s' name stored.mould built.policy after) :
    Unswayed built name stored (row ++ [(op, answer)]) s' after := by
  refine ⟨stands, ?_, ?_, ?_, ?_⟩
  · intro op' answer' incoming member writes
    rcases List.mem_append.mp member with earlier | last
    · exact unswayed.answered op' answer' incoming earlier writes
    · cases List.mem_singleton.mp last
      exact meets.answered writes
  · intro none
    rw [lastAccepted_concat] at none
    rcases meets.accepted_cases with ⟨nothing, rfl⟩ | ⟨incoming, one, -⟩
    · exact unswayed.untouched (by simpa [nothing] using none)
    · simp [one] at none
  · intro incoming last
    rw [lastAccepted_concat] at last
    rcases meets.accepted_cases with ⟨nothing, rfl⟩ | ⟨incoming', one, verdict⟩
    · exact unswayed.accepted incoming (by simpa [nothing] using last)
    · obtain rfl : incoming' = incoming := by simpa [one] using last
      exact (Policy.coerce_of_assign (Mould.assign_of_verdict verdict)).2
  · intro shown last
    rw [lastReturned_concat] at last
    rcases meets.returned_cases with ⟨nothing, rfl⟩ | one
    · exact unswayed.returned shown (by simpa [nothing] using last)
    · simpa [one, eq_comm] using last

theorem unswayed_transcript {backing : Backing World} {built s : Store σ} {world world' : World}
    {row : List (Operation × Answer σ)} (told : Transcript backing built world row s world')
    {name : String} {key : RegisterName} {stored : Stored}
    (found : built.entry? name = some (key, .stored stored)) :
    ∃ value, Unswayed built name stored row s value := by
  induction told with
  | start =>
      refine ⟨stored.value, ⟨rfl, key, stored, found, rfl, rfl⟩, ?_, fun _ => rfl, ?_, ?_⟩
      · intro op answer incoming member
        cases member
      · intro incoming last
        cases last
      · intro shown last
        cases last
  | @perform row s world op told ih =>
      obtain ⟨value, unswayed⟩ := ih
      obtain ⟨after, meets, stands⟩ := perform_meets unswayed.stands backing world op
      exact ⟨after, unswayed_perform unswayed meets stands⟩
  | elapse live later told ih =>
      obtain ⟨value, unswayed⟩ := ih
      exact ⟨value, unswayed.stands.frame rfl rfl, unswayed.answered, unswayed.untouched,
        unswayed.accepted, unswayed.returned⟩

theorem set_held {s : Store σ} {name : String} {mould : Mould} {policy : Policy} {value : Value}
    (stands : Stands s name mould policy value) (mutable : mould.mutable = true) (now : Timestamp) :
    ∃ r s', s.set now name value = (.ok r, s') ∧ r.value = value ∧
      Stands s' name mould policy value := by
  have fits : mould.verdict policy name value = .ok value := by
    obtain ⟨-, key, held, -, rfl, rfl⟩ := stands
    rw [Mould.verdict_of_mutable mutable]
    exact Policy.assign_of_shape (.refl held.value) policy
  rcases set_meets stands now value with ⟨r, s', result, verdict, after⟩ | ⟨e, -, verdict⟩
  · rw [fits] at verdict
    cases verdict
    exact ⟨r, s', result, rfl, after⟩
  · rw [fits] at verdict
    cases verdict

theorem writeComputed_loosen {key : RegisterName} {c : Computed σ} {value : Value} {live live' : σ}
    {r : Register} (taken : writeComputed .strict key c value live = (.ok r, live')) :
    writeComputed .implicit key c value live = (.ok r, live') := by
  unfold writeComputed at taken ⊢
  cases setter : c.write with
  | none => simp [setter] at taken
  | some write =>
      simp only [setter] at taken ⊢
      cases assigned : Policy.strict.assign (c.read live).1 value with
      | error e => simp [assigned] at taken
      | ok fitted =>
          rw [Policy.assign_loosen assigned]
          simpa only [assigned] using taken

theorem set_loosen {s s' : Store σ} {now : Timestamp} {name : String} {value : Value} {r : Register}
    (taken : { s with policy := .strict }.set now name value = (.ok r, s')) :
    { s with policy := .implicit }.set now name value = (.ok r, { s' with policy := .implicit }) := by
  have entry : ∀ policy, entry? { s with policy } name = s.entry? name := fun _ => rfl
  unfold set at taken ⊢
  rw [entry] at taken ⊢
  cases found : s.entry? name with
  | none => simp [found] at taken
  | some found' =>
      obtain ⟨key, stored | c⟩ := found'
      · simp only [found, writeStored_eq] at taken ⊢
        cases verdict : stored.mould.verdict .strict name value with
        | error e => simp [verdict, Except.map] at taken
        | ok fitted =>
            rw [verdict] at taken
            rw [Mould.verdict_loosen verdict]
            cases taken
            rfl
      · simp only [found] at taken ⊢
        rcases wrote : writeComputed .strict key c value s.live with ⟨result, live⟩
        rw [wrote] at taken
        cases taken
        rw [writeComputed_loosen wrote]

/-- What a write to a stored register is answered is a matter of the policy, of the value, and of what was
known of the register at first, whatever was asked before. The register holds what it last accepted,
and takes back what it last returned. Under the implicit policy it accepts all that it accepts under
the strict one, to the same effect. -/
theorem writes_ignore_history {backing : Backing World} {built s : Store σ} {world world' : World}
    {row : List (Operation × Answer σ)} {name : String} {key : RegisterName} {stored : Stored}
    (found : built.entry? name = some (key, .stored stored))
    (told : Transcript backing built world row s world') :
    (∃ value, Unswayed built name stored row s value ∧
      ∀ shown, lastReturned? name row = some shown → stored.flags.mutable = true →
        ∀ now, ∃ r s', s.set now name shown = (.ok r, s') ∧ r.value = shown ∧ value = shown ∧
          Stands s' name stored.mould built.policy value) ∧
    (∀ incoming fitted, stored.mould.verdict .strict name incoming = .ok fitted →
      stored.mould.verdict .implicit name incoming = .ok fitted) ∧
    ∀ now other incoming r s', { s with policy := .strict }.set now other incoming = (.ok r, s') →
      { s with policy := .implicit }.set now other incoming =
        (.ok r, { s' with policy := .implicit }) := by
  obtain ⟨value, unswayed⟩ := unswayed_transcript told found
  refine ⟨⟨value, unswayed, ?_⟩, fun _ _ => Mould.verdict_loosen, fun _ _ _ _ _ => set_loosen⟩
  intro shown last mutable now
  obtain rfl := unswayed.returned shown last
  obtain ⟨r, s', result, shows, stands⟩ := set_held unswayed.stands mutable now
  exact ⟨r, s', result, shows, rfl, stands⟩

theorem writes_ignore_history_boiler :
    ∃ (built s : Store Nat) (row : List (Operation × Answer Nat)) (key : RegisterName)
      (stored : Stored),
      Store.build boilerSeed (.volatile Unit) ⟨0, 0⟩ () = .ok built ∧
        built.entry? "boiler.limit" = some (key, .stored stored) ∧
        Transcript (.volatile Unit) built () row s () ∧ row.length = 3 ∧
        lastReturned? "boiler.limit" row = some (.array (.natural .w16) [(75 : BitVec 16)]) ∧
        ∃ value, Unswayed built "boiler.limit" stored row s value := by
  have told := fun built : Store Nat =>
    (((Transcript.start : Transcript (.volatile Unit) built () [] built ()).perform
      (.set ⟨1, 0⟩ "boiler.limit" (.array (.integer .w8) [(75 : BitVec 8)]))).perform
      (.set ⟨2, 0⟩ "boiler.limit" (.string "hot"))).perform (.get "boiler.limit")
  have unswayed := fun (built : Store Nat) (key : RegisterName) (stored : Stored)
      (found : built.entry? "boiler.limit" = some (key, .stored stored)) =>
    (writes_ignore_history found (told built)).1.imp fun _ holds => holds.1
  exact ⟨_, _, _, _, _, rfl, rfl, told _, rfl, by decide, unswayed _ _ _ rfl⟩

end Store

end RegisterPlane
