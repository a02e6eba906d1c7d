import RegisterPlane.Proofs.Store.Alone
import RegisterPlane.Proofs.Store.Computed

/-! Computed registers under watch: the live state carries a log of every call of a getter or a setter,
and is otherwise what it was. An access through the service and one to the store itself make the same
calls, but for one more of the getter where a write is refused. -/

namespace RegisterPlane

variable {σ World : Type}

/-- A call of a computed register: what its getter gave, or what its setter was handed. -/
inductive Touch where
  | got (name : RegisterName) (value : Value)
  | put (name : RegisterName) (value : Value)

def Touch.handed? : Touch → Option Value
  | got _ _ => none
  | put _ value => some value

/-- What setters were handed, in the order of the calls. -/
def handed (log : List Touch) : List Value := log.filterMap Touch.handed?

def Computed.watched (name : RegisterName) (c : Computed σ) : Computed (σ × List Touch) where
  read := fun (live, log) => ((c.read live).1, (c.read live).2, log ++ [.got name (c.read live).1])
  write := c.write.map fun write value (live, log) => (write value live, log ++ [.put name value])

def Entry.watched (name : RegisterName) : Entry σ → Entry (σ × List Touch)
  | .stored kept => .stored kept
  | .computed c => .computed (c.watched name)

namespace Store

def watchedEntries (entries : Entries σ) : Entries (σ × List Touch) :=
  entries.map fun (name, entry) => (name, entry.watched name)

def watched (s : Store σ) (log : List Touch) : Store (σ × List Touch) where
  entries := watchedEntries s.entries
  policy := s.policy
  durable := s.durable
  dirty := s.dirty
  live := (s.live, log)

theorem entry_watched {s : Store σ} {name : String} {found : Option (RegisterName × Entry σ)}
    (here : s.entry? name = found) (log : List Touch) :
    entry? (s.watched log) name = found.map fun (key, entry) => (key, entry.watched key) := by
  rw [← here]
  simp only [watched, entry?, lookup?, watchedEntries, List.find?_map]
  rfl

theorem insert_watched (key : RegisterName) (new : Stored) (entries : Entries σ) :
    insertEntry key (.stored new) (watchedEntries entries) =
      watchedEntries (insertEntry key (.stored new) entries) := by
  induction entries with
  | nil => rfl
  | cons head rest ih =>
      obtain ⟨other, kept⟩ := head
      simp only [watchedEntries, List.map_cons, insertEntry] at ih ⊢
      split_ifs
      · rfl
      · simp only [ih, List.map_cons]
      · rfl

theorem computedView_watched (key : RegisterName) (c : Computed σ) (value : Value) :
    computedView key (c.watched key) value = computedView key c value := by
  simp [computedView, Computed.watched]

def getterCalls (s : Store σ) (name : String) : List Touch :=
  match s.entry? name with
  | some (key, .computed c) => [.got key (c.read s.live).1]
  | some (_, .stored _) | none => []

theorem handed_getterCalls (s : Store σ) (name : String) : handed (s.getterCalls name) = [] := by
  unfold getterCalls
  split <;> rfl

theorem get_watched (s : Store σ) (log : List Touch) (name : String) :
    (s.watched log).get name =
      ((s.get name).1, (s.get name).2.watched (log ++ s.getterCalls name)) := by
  cases found : s.entry? name with
  | none =>
      simp only [get, entry_watched found, getterCalls, found, Option.map_none, List.append_nil]
  | some entry =>
      obtain ⟨key, stored | c⟩ := entry
      all_goals simp only [get, entry_watched found, getterCalls, found, Option.map_some, Entry.watched]
      · rw [List.append_nil]
        rfl
      · simp only [readComputed, computedView_watched]
        rfl

inductive Called (policy : Policy) (key : RegisterName) (c : Computed σ) (value : Value) (live : σ) :
    Bool → List Touch → Prop where
  | readOnly (fixed : c.write = none) : Called policy key c value live false []
  | unfit {write : Value → σ → σ} {e : RegisterError} (setter : c.write = some write)
      (unfit : policy.assign (c.read live).1 value = .error e) :
      Called policy key c value live false [.got key (c.read live).1]
  | taken {write : Value → σ → σ} {fitted : Value} (setter : c.write = some write)
      (fits : policy.assign (c.read live).1 value = .ok fitted) :
      Called policy key c value live true [.got key (c.read live).1, .put key fitted,
        .got key (c.read (write fitted (c.read live).2)).1]

theorem writeComputed_watched (policy : Policy) (key : RegisterName) (c : Computed σ) (value : Value)
    (live : σ) (log : List Touch) :
    ∃ calls, writeComputed policy key (c.watched key) value (live, log) =
        ((writeComputed policy key c value live).1,
          ((writeComputed policy key c value live).2, log ++ calls)) ∧
      Called policy key c value live (writeComputed policy key c value live).1.isOk calls := by
  cases setter : c.write with
  | none =>
      refine ⟨[], ?_, ?_⟩
      · simp [writeComputed, Computed.watched, setter]
      · simp only [writeComputed, setter]
        exact .readOnly setter
  | some write =>
      cases assigned : policy.assign (c.read live).1 value with
      | error e =>
          refine ⟨[.got key (c.read live).1], ?_, ?_⟩
          · simp [writeComputed, Computed.watched, setter, assigned]
          · simp only [writeComputed, setter, assigned]
            exact .unfit setter assigned
      | ok fitted =>
          refine ⟨[.got key (c.read live).1, .put key fitted,
            .got key (c.read (write fitted (c.read live).2)).1], ?_, ?_⟩
          · simp [writeComputed, Computed.watched, setter, assigned, readComputed, computedView]
          · simp only [writeComputed, setter, assigned]
            exact .taken setter assigned

/-- How a write treats setters. -/
structure Careful (s : Store σ) (name : String) (value : Value) (taken : Bool) (log : List Touch) :
    Prop where
  once : (handed log).length ≤ 1
  fitted : ∀ key fitted, .put key fitted ∈ log → ∃ c write current live,
    s.entry? name = some (key, .computed c) ∧ c.write = some write ∧ c.read s.live = (current, live) ∧
      s.policy.assign current value = .ok fitted ∧ fitted.SameShape current
  refused : taken = false → handed log = []

theorem careful_nil (s : Store σ) (name : String) (value : Value) (taken : Bool) :
    Careful s name value taken [] :=
  ⟨Nat.zero_le 1, by simp, fun _ => rfl⟩

theorem Careful.append {s : Store σ} {name : String} {value : Value} {taken : Bool}
    {calls more : List Touch} (careful : Careful s name value taken calls)
    (gets : handed more = []) : Careful s name value taken (calls ++ more) := by
  have same : handed (calls ++ more) = handed calls := by
    simp only [handed, List.filterMap_append] at gets ⊢
    rw [gets, List.append_nil]
  refine ⟨by rw [same]; exact careful.once, ?_, fun refused => by rw [same, careful.refused refused]⟩
  intro key fitted member
  rcases List.mem_append.mp member with here | there
  · exact careful.fitted key fitted here
  · have member : fitted ∈ handed more := List.mem_filterMap.mpr ⟨_, there, rfl⟩
    rw [gets] at member
    cases member

theorem Called.careful {s : Store σ} {name : String} {key : RegisterName} {c : Computed σ}
    {value : Value} {taken : Bool} {calls : List Touch}
    (called : Called s.policy key c value s.live taken calls)
    (found : s.entry? name = some (key, .computed c)) : Careful s name value taken calls := by
  cases called with
  | readOnly fixed => exact careful_nil s name value false
  | unfit setter unfit => exact ⟨Nat.zero_le 1, by simp, fun _ => rfl⟩
  | @taken write fitted setter fits =>
      refine ⟨le_refl 1, ?_, fun refused => by cases refused⟩
      intro key' fitted' member
      obtain ⟨rfl, rfl⟩ : key' = key ∧ fitted' = fitted := by simpa using member
      exact ⟨c, write, _, _, found, setter, rfl, fits, Policy.shape_of_assign fits⟩

theorem set_watched (s : Store σ) (log : List Touch) (now : Timestamp) (name : String)
    (value : Value) :
    ∃ calls, (s.watched log).set now name value =
        ((s.set now name value).1, (s.set now name value).2.watched (log ++ calls)) ∧
      Careful s name value (s.set now name value).1.isOk calls := by
  have policy : (s.watched log).policy = s.policy := rfl
  cases found : s.entry? name with
  | none =>
      refine ⟨[], ?_, careful_nil ..⟩
      simp only [set, entry_watched found, found, Option.map_none, List.append_nil]
  | some entry =>
      obtain ⟨key, stored | c⟩ := entry
      all_goals simp only [set, entry_watched found, found, policy]
      · refine ⟨[], ?_, careful_nil ..⟩
        simp only [Option.map_some, Entry.watched, List.append_nil]
        cases writeStored s.policy now name value stored with
        | error e => rfl
        | ok written =>
            simp only [watched, insert_watched]
            rfl
      · obtain ⟨calls, same, called⟩ := writeComputed_watched s.policy key c value s.live log
        refine ⟨calls, ?_, called.careful found⟩
        have live : (s.watched log).live = (s.live, log) := rfl
        simp only [Option.map_some, Entry.watched, live, same]
        rfl

/-- What a service calls after a write: the getter again, where the write was refused. -/
def callsAgain (s : Store σ) (now : Timestamp) (name : String) (value : Value) : List Touch :=
  if (s.set now name value).1.isOk then [] else (s.set now name value).2.getterCalls name

theorem handed_callsAgain (s : Store σ) (now : Timestamp) (name : String) (value : Value) :
    handed (s.callsAgain now name value) = [] := by
  unfold callsAgain
  split
  · rfl
  · exact handed_getterCalls _ name

theorem access_watched {s : Store σ} {now : Timestamp} {name : String} {value : Value}
    {calls : List Touch} (same : (s.watched []).set now name value =
      ((s.set now name value).1, (s.set now name value).2.watched calls)) :
    (s.watched []).access now name (some value) =
      ((s.access now name (some value)).1,
        (s.access now name (some value)).2.watched (calls ++ s.callsAgain now name value)) := by
  simp only [access, accessWrite, same, callsAgain]
  rcases s.set now name value with ⟨e | r, after⟩
  · simp only [get_watched]
    rfl
  · simp only [Except.isOk, Except.toBool, if_true, List.append_nil]

theorem entry_set_of_error {s : Store σ} {now : Timestamp} {name : String} {value : Value}
    {e : RegisterError} (refused : (s.set now name value).1 = .error e) :
    entry? (s.set now name value).2 name = s.entry? name := by
  have outcome := outcome_set s now name value
  generalize s.set now name value = result at outcome refused ⊢
  cases outcome with
  | unknown | computed | readOnly | misfit => rfl
  | written => cases refused

theorem unread_iff (s : Store σ) (name : String) :
    (s.get name).1.toOption = none ↔ s.entry? name = none := by
  unfold get
  cases s.entry? name with
  | none => simp [Except.toOption]
  | some entry =>
      obtain ⟨key, stored | c⟩ := entry <;> simp [Except.toOption]

/-- What is told of a write by a service against what the store itself says of it. -/
structure WriteAgrees (s : Store σ) (now : Timestamp) (name : String) (value : Value)
    (result : Except Refusal Register) (after : Store σ) : Prop where
  taken : ∀ r, result = .ok r ↔ (s.set now name value).1 = .ok r
  left : ∀ r, result = .ok r → after = (s.set now name value).2
  /-- A refusal shows the register as a read after it would, and leaves what that read leaves. -/
  refused : ∀ refusal, result = .error refusal →
    (s.set now name value).1 = .error refusal.error ∧
      (refusal.current = none ↔ s.entry? name = none) ∧
      (∀ r, refusal.current = some r → ((s.set now name value).2.get name).1 = .ok r) ∧
      after = ((s.set now name value).2.get name).2

theorem access_writeAgrees (s : Store σ) (now : Timestamp) (name : String) (value : Value) :
    WriteAgrees s now name value (s.access now name (some value)).1
      (s.access now name (some value)).2 := by
  simp only [access, accessWrite]
  rcases outcome : s.set now name value with ⟨e | r, after⟩
  · have entry : after.entry? name = s.entry? name := by
      have kept := entry_set_of_error (e := e) (by rw [outcome])
      rwa [outcome] at kept
    refine ⟨by simp [outcome], by simp, ?_⟩
    rintro refusal ⟨rfl⟩
    rw [outcome]
    refine ⟨rfl, ?_, ?_, rfl⟩
    · rw [← entry]
      exact unread_iff after name
    · intro r shown
      cases read : (after.get name).1 with
      | error e => simp [read, Except.toOption] at shown
      | ok r' => simpa [read, Except.toOption] using shown
  · refine ⟨by simp [outcome], fun _ _ => by rw [outcome], ?_⟩
    intro refusal refused
    cases refused

/-- On every name the service answers as the store does, and leaves what the store leaves. A setter is
called at most once, with a value that fits what the getter gave, and never where the write is
refused. -/
theorem service_agrees (backing : Backing World) (s : Store σ) (world : World) (now : Timestamp)
    (name : String) :
    Service.Ends backing (.access now name none) s world
        (.accessed ((s.get name).1.mapError fun e => ⟨e, none⟩)) (s.get name).2 world ∧
      ∀ value, ∃ result after calls,
        Service.Ends backing (.access now name (some value)) s world (.accessed result) after world ∧
        WriteAgrees s now name value result after ∧
        (s.watched []).set now name value =
          ((s.set now name value).1, (s.set now name value).2.watched calls) ∧
        Careful s name value result.isOk calls ∧
        Service.Ends backing (.access now name (some value)) (s.watched []) world (.accessed result)
          (after.watched (calls ++ s.callsAgain now name value)) world ∧
        Careful s name value result.isOk (calls ++ s.callsAgain now name value) := by
  refine ⟨Service.ends_access backing s world now name none, fun value => ?_⟩
  obtain ⟨calls, same, careful⟩ := set_watched s [] now name value
  have ends := Service.ends_access backing (s.watched []) world now name (some value)
  rw [access_watched same] at ends
  have outcome : (s.access now name (some value)).1.isOk = (s.set now name value).1.isOk := by
    simp only [access, accessWrite]
    rcases s.set now name value with ⟨e | r, after⟩ <;> rfl
  rw [← outcome] at careful
  exact ⟨_, _, calls, Service.ends_access backing s world now name (some value),
    access_writeAgrees s now name value, same, careful, ends,
    careful.append (handed_callsAgain s now name value)⟩

end Store

end RegisterPlane
