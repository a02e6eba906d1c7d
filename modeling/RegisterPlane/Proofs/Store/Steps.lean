import RegisterPlane.Proofs.Store.Computed
import RegisterPlane.Store.Service

/-! The steps of calls that go on at once. A call is decided in one step: by what it does under the lock
of the store, by the getter of a computed read, by the setter of a computed write that is taken, or by
the last getter of one that is refused. -/

namespace RegisterPlane.Service

open Store

variable {ι σ World : Type} {backing : Backing World}

/-- The register was looked up under a name for which the store still has it. -/
structure Detached.IsFound (register : Detached σ) (s : Store σ) (name : String) : Prop where
  entry : s.entry? name = some (register.key, .computed register.computed)
  policy : register.policy = s.policy

/-- What a write under the writers' lock knows of the live state. -/
def Phase.Fits (register : Detached σ) (value : Value) (live : σ) : Phase σ → Prop
  | .entered => True
  | .fetched write current =>
    register.computed.write = some write ∧ current = (register.computed.read live).1
  | .fitted write converted =>
    register.computed.write = some write ∧
      register.policy.assign (register.computed.read live).1 value = .ok converted
  | .written => True
  | .refused error =>
    writeComputed register.policy register.key register.computed value live = (.error error, live)

namespace Stage

def Fits (call : Call) (s : Store σ) : Stage σ → Prop
  | reading register => ∃ now name, call = .access now name none ∧ register.IsFound s name
  | waiting register value =>
    ∃ now name, call = .access now name (some value) ∧ register.IsFound s name
  | writing register value phase =>
    ∃ now name, call = .access now name (some value) ∧ register.IsFound s name ∧
      phase.Fits register value s.live
  | idle | invoked | settled _ | answered _ | returned _ => True

def Holds : Stage σ → Prop
  | writing _ _ _ | settled _ => True
  | idle | invoked | reading _ | waiting _ _ | answered _ | returned _ => False

def Underway : Stage σ → Prop
  | invoked | reading _ | waiting _ _ | writing _ _ _ | settled _ | answered _ => True
  | idle | returned _ => False

theorem underway_of_holds {stage : Stage σ} (held : stage.Holds) : stage.Underway := by
  cases stage with
  | writing register value phase => exact trivial
  | settled result => exact trivial
  | idle | invoked | reading | waiting | answered | returned => exact held.elim

/-- What the call will return, once that is decided. -/
def answer? (live : σ) : Stage σ → Option Answer
  | writing register _ .written => some (.accessed (.ok (register.read live).1))
  | settled result => some (.accessed result)
  | answered answer | returned answer => some answer
  | writing _ _ (.entered) | writing _ _ (.fetched _ _) | writing _ _ (.fitted _ _)
  | writing _ _ (.refused _) | idle | invoked | reading _ | waiting _ _ => none

theorem fits_frame {call : Call} {s s' : Store σ} (same : SameComputed s s') {stage : Stage σ}
    (live : stage.Holds → s'.live = s.live) (fits : stage.Fits call s) : stage.Fits call s' := by
  have found : ∀ {register : Detached σ} {name : String}, register.IsFound s name →
      register.IsFound s' name := by
    intro register name isFound
    exact ⟨(same.entry _ _ _).mpr isFound.entry, isFound.policy.trans same.policy.symm⟩
  cases stage with
  | reading register =>
      obtain ⟨now, name, made, isFound⟩ := fits
      exact ⟨now, name, made, found isFound⟩
  | waiting register value =>
      obtain ⟨now, name, made, isFound⟩ := fits
      exact ⟨now, name, made, found isFound⟩
  | writing register value phase =>
      obtain ⟨now, name, made, isFound, phaseFits⟩ := fits
      exact ⟨now, name, made, found isFound, by rwa [live trivial]⟩
  | idle | invoked | settled | answered | returned => exact trivial

theorem answer_frame {s s' : Store σ} {stage : Stage σ} (live : stage.Holds → s'.live = s.live) :
    stage.answer? s'.live = stage.answer? s.live := by
  cases stage with
  | writing register value phase => rw [live trivial]
  | idle | invoked | reading | waiting | settled | answered | returned => rfl

end Stage

/-- A step in which a call is decided, so that it is as if made alone at that moment, or one that
leaves the store and what is decided as it was. -/
inductive Decides (backing : Backing World) (call : Call) (s : Store σ) (world : World)
    (before after : Stage σ) : List Answer → Store σ → World → Prop where
  | passes (same : after.answer? s.live = before.answer? s.live) :
      Decides backing call s world before after [] s world
  | counts {answer : Answer} {s' : Store σ} {world' : World} (undecided : before.answer? s.live = none)
      (performed : call.perform backing s world = (answer, s', world'))
      (decided : after.answer? s'.live = some answer) :
      Decides backing call s world before after [answer] s' world'

namespace Decides

variable {call : Call} {s s' : Store σ} {world world' : World} {before after : Stage σ}
  {answers : List Answer}

theorem answer_iff (decides : Decides backing call s world before after answers s' world')
    (answer : Answer) :
    before.answer? s.live = some answer ∨ answer ∈ answers ↔ after.answer? s'.live = some answer := by
  cases decides with
  | passes same => simp [same]
  | counts undecided performed decided => simp [undecided, decided, eq_comm]

theorem answers_cases (decides : Decides backing call s world before after answers s' world') :
    answers = [] ∨ before.answer? s.live = none ∧ ∃ answer, answers = [answer] := by
  cases decides with
  | passes same => exact Or.inl rfl
  | counts undecided performed decided => exact Or.inr ⟨undecided, _, rfl⟩

end Decides

/-- What callers notice of a step. -/
inductive Notes (i : ι) : Stage σ → Stage σ → List (Moment ι) → Prop where
  | invoked : Notes i .idle .invoked [.invoked i]
  | returned (answer : Answer) : Notes i (.answered answer) (.returned answer) [.returned i answer]
  | nothing {before after : Stage σ} (started : before.Underway) (stays : after.Underway) :
      Notes i before after []

namespace Notes

variable {i j : ι} {before after : Stage σ} {moments : List (Moment ι)}

theorem moments_cases (notes : Notes i before after moments) :
    moments = [] ∨ ∃ moment, moments = [moment] := by
  cases notes with
  | nothing => exact Or.inl rfl
  | invoked => exact Or.inr ⟨_, rfl⟩
  | returned => exact Or.inr ⟨_, rfl⟩

theorem of_invoked (notes : Notes i before after moments) (member : .invoked j ∈ moments) :
    j = i ∧ after = .invoked := by
  cases notes with
  | nothing => cases member
  | invoked =>
      cases List.mem_singleton.mp member
      exact ⟨rfl, rfl⟩
  | returned answer => cases List.mem_singleton.mp member

theorem of_returned (notes : Notes i before after moments) {answer : Answer}
    (member : .returned j answer ∈ moments) : j = i ∧ after = .returned answer := by
  cases notes with
  | nothing => cases member
  | invoked => cases List.mem_singleton.mp member
  | returned answer =>
      cases List.mem_singleton.mp member
      exact ⟨rfl, rfl⟩

theorem invoked_mem (notes : Notes i before after moments) (idle : before = .idle) :
    .invoked i ∈ moments := by
  cases notes with
  | nothing started => exact (idle ▸ started : Stage.Underway .idle).elim
  | invoked => exact List.mem_singleton_self _
  | returned answer => cases idle

theorem after_ne_idle (notes : Notes i before after moments) : after ≠ .idle := by
  rintro rfl
  cases notes with
  | nothing started stays => exact stays

theorem before_ne_returned (notes : Notes i before after moments) (answer : Answer) :
    before ≠ .returned answer := by
  rintro rfl
  cases notes with
  | nothing started stays => exact started

end Notes

/-- Everything that a step of a call can do. -/
structure Stepped (backing : Backing World) (call : Call) (i : ι) (service service' : Service ι σ World)
    (answers : List Answer) (moments : List (Moment ι)) : Prop where
  decides : Decides backing call service.store service.world (service.stages i) (service'.stages i)
    answers service'.store service'.world
  notes : Notes i (service.stages i) (service'.stages i) moments
  history : service'.history = service.history ++ moments
  others : ∀ j, j ≠ i → service'.stages j = service.stages j
  computed : SameComputed service.store service'.store
  live : service'.store.live = service.store.live ∨ (service.stages i).Holds
  fits : (service'.stages i).Fits call service'.store
  holds : (service'.stages i).Holds → service'.writer = some i
  writer : ∀ j, j ≠ i → service.writer = some j → service'.writer = some j

/-! What the steps decide is what the calls come to when they are made alone. -/

theorem perform_read {s : Store σ} (quiet : Quiet s) (world : World) {register : Detached σ}
    {name : String} (isFound : register.IsFound s name) (now : Timestamp) :
    (Call.access now name none).perform backing s world =
      (.accessed (.ok (register.read s.live).1), s, world) := by
  simp only [Call.perform, access_read_quiet quiet, Store.get, isFound.entry]
  rfl

theorem perform_taken {s : Store σ} (quiet : Quiet s) (world : World) {register : Detached σ}
    {name : String} (isFound : register.IsFound s name) (now : Timestamp) {value converted : Value}
    {write : Value → σ → σ} (mutable : register.computed.write = some write)
    (fits : register.policy.assign (register.computed.read s.live).1 value = .ok converted) :
    (Call.access now name (some value)).perform backing s world =
      (.accessed (.ok (register.read (write converted s.live)).1),
        { s with live := write converted s.live }, world) := by
  have silent := quiet _ _ _ isFound.entry
  rw [isFound.policy] at fits
  simp only [Call.perform, access, accessWrite, Store.set, isFound.entry, writeComputed, mutable, silent,
    fits, readComputed]
  rfl

theorem perform_refused {s : Store σ} (quiet : Quiet s) (world : World) {register : Detached σ}
    {name : String} (isFound : register.IsFound s name) (now : Timestamp) {value : Value}
    {error : RegisterError} (refused : writeComputed register.policy register.key register.computed value
      s.live = (.error error, s.live)) :
    (Call.access now name (some value)).perform backing s world =
      (.accessed (.error ⟨error, some (register.read s.live).1⟩), s, world) := by
  have silent := quiet _ _ _ isFound.entry
  rw [isFound.policy] at refused
  simp only [Call.perform, access, accessWrite, Store.set, isFound.entry, refused, Store.get,
    readComputed, silent]
  rfl

inductive UnderLock (backing : Backing World) (s : Store σ) (world : World) (call : Call) :
    Stage σ × Store σ × World → Prop where
  | answered {answer : Answer} {s' : Store σ} {world' : World}
      (performed : call.perform backing s world = (answer, s', world')) (computed : SameComputed s s')
      (live : s'.live = s.live) : UnderLock backing s world call (.answered answer, s', world')
  | reading {register : Detached σ} {now : Timestamp} {name : String}
      (made : call = .access now name none) (isFound : register.IsFound s name) :
      UnderLock backing s world call (.reading register, s, world)
  | waiting {register : Detached σ} {now : Timestamp} {name : String} {value : Value}
      (made : call = .access now name (some value)) (isFound : register.IsFound s name) :
      UnderLock backing s world call (.waiting register value, s, world)

theorem underLock_access {s : Store σ} {name : String}
    (plain : ∀ key c, s.entry? name ≠ some (key, .computed c)) (world : World) (now : Timestamp)
    (value : Option Value) : UnderLock backing s world (.access now name value)
      (.answered (.accessed (s.access now name value).1), (s.access now name value).2, world) :=
  .answered rfl (sameComputed_access s now name value) (live_access plain now value)

theorem underLock_spec (backing : Backing World) (s : Store σ) (world : World) (call : Call) :
    UnderLock backing s world call (call.underLock backing s world) := by
  cases call with
  | list => exact .answered rfl (.refl s) rfl
  | nameAt index => exact .answered rfl (.refl s) rfl
  | flush now =>
      exact .answered rfl (sameComputed_flush s backing now world) (live_flush s backing now world)
  | access now name value =>
      unfold Call.underLock
      cases found : s.entry? name with
      | none =>
          simp only [lookup, found]
          exact underLock_access (by simp [found]) world now value
      | some entry =>
          obtain ⟨key, entry⟩ := entry
          cases entry with
          | stored stored =>
              simp only [lookup, found]
              exact underLock_access (by simp [found]) world now value
          | computed c =>
              simp only [lookup, found]
              cases value with
              | none => exact .reading rfl ⟨found, rfl⟩
              | some value => exact .waiting rfl ⟨found, rfl⟩

/-- A step under the writers' lock decides the write if it runs the setter, or reads what stands in
the way of a refused one. -/
theorem decides_next (backing : Backing World) {s : Store σ} (quiet : Quiet s) (world : World)
    {register : Detached σ} {name : String} (isFound : register.IsFound s name) (now : Timestamp)
    {value : Value} {phase : Phase σ} (fits : phase.Fits register value s.live) :
    ∃ answers stage live, phase.next register value s.live = (stage, live) ∧
      Decides backing (.access now name (some value)) s world (.writing register value phase) stage
        answers { s with live } world ∧
      stage.Holds ∧ stage.Fits (.access now name (some value)) { s with live } := by
  have silent := quiet _ _ _ isFound.entry
  have known : ∀ {phase' : Phase σ}, phase'.Fits register value s.live →
      (Stage.writing register value phase').Fits (.access now name (some value)) s :=
    fun phaseFits => ⟨now, name, rfl, isFound, phaseFits⟩
  cases phase with
  | entered =>
      cases mutable : register.computed.write with
      | none =>
          refine ⟨[], .writing register value (.refused (.immutable register.key.text)), s.live,
            by simp only [Phase.next, mutable], .passes rfl, trivial, known ?_⟩
          simp [Phase.Fits, writeComputed, mutable]
      | some write =>
          refine ⟨[], .writing register value (.fetched write (register.computed.read s.live).1), s.live,
            by simp only [Phase.next, mutable, silent], .passes rfl, trivial, known ?_⟩
          exact ⟨mutable, rfl⟩
  | fetched write current =>
      obtain ⟨mutable, rfl⟩ := fits
      cases converts : register.policy.assign (register.computed.read s.live).1 value with
      | error error =>
          refine ⟨[], .writing register value (.refused error), s.live,
            by simp only [Phase.next, converts], .passes rfl, trivial, known ?_⟩
          simp [Phase.Fits, writeComputed, mutable, silent, converts]
      | ok converted =>
          refine ⟨[], .writing register value (.fitted write converted), s.live,
            by simp only [Phase.next, converts], .passes rfl, trivial, known ?_⟩
          exact ⟨mutable, converts⟩
  | fitted write converted =>
      obtain ⟨mutable, converts⟩ := fits
      -- The setter runs: from here on the write is in the store for every reader.
      refine ⟨_, .writing register value .written, write converted s.live, rfl,
        .counts rfl (perform_taken quiet world isFound now mutable converts) rfl, trivial, now, name, rfl,
        ⟨isFound.entry, isFound.policy⟩, trivial⟩
  | written =>
      have same : (register.read s.live).2 = s.live := silent s.live
      exact ⟨[], .settled (.ok (register.read s.live).1), s.live, by simp only [Phase.next, same],
        .passes rfl, trivial, trivial⟩
  | refused error =>
      have same : (register.read s.live).2 = s.live := silent s.live
      exact ⟨_, .settled (.error ⟨error, some (register.read s.live).1⟩), s.live,
        by simp only [Phase.next, same],
        .counts rfl (perform_refused quiet world isFound now fits) rfl, trivial, trivial⟩

variable {service service' : Service ι σ World} {calls : ι → Call} {i : ι}

theorem stepped_put [DecidableEq ι] {call : Call} {before after : Stage σ} {store : Store σ}
    {world : World} {writer : Option ι} {history moments : List (Moment ι)} {answers : List Answer}
    (was : service.stages i = before)
    (decides : Decides backing call service.store service.world before after answers store world)
    (notes : Notes i before after moments) (noted : history = service.history ++ moments)
    (computed : SameComputed service.store store)
    (live : store.live = service.store.live ∨ before.Holds) (fits : after.Fits call store)
    (holds : after.Holds → writer = some i)
    (others : ∀ j, j ≠ i → service.writer = some j → writer = some j) :
    Stepped backing call i service { service.put i after with store, world, writer, history }
      answers moments := by
  have here : (service.put i after).stages i = after := by simp [put]
  subst was
  refine ⟨?_, ?_, noted, ?_, computed, live, ?_, ?_, others⟩
  all_goals simp only [here]
  · exact decides
  · exact notes
  · intro j other
    simp [put, other]
  · exact fits
  · exact holds

section

variable [DecidableEq ι] {call : Call} {register : Detached σ} {value : Value}

theorem stepped_within {before after : Stage σ} {store : Store σ} {world : World} {answers : List Answer}
    (was : service.stages i = before)
    (decides : Decides backing call service.store service.world before after answers store world)
    (started : before.Underway) (stays : after.Underway) (computed : SameComputed service.store store)
    (live : store.live = service.store.live ∨ before.Holds) (fits : after.Fits call store)
    (holds : after.Holds → service.writer = some i) :
    Stepped backing call i service { service.put i after with store, world } answers [] :=
  stepped_put was decides (.nothing started stays) (List.append_nil _).symm computed live fits holds
    fun _ _ held => held

theorem stepped_invoked (stage : service.stages i = .invoked) {after : Stage σ} {store : Store σ} {world : World}
    (taken : call.underLock backing service.store service.world = (after, store, world)) :
    ∃ answers, Stepped backing call i service { service.put i after with store, world } answers [] := by
  have spec := underLock_spec backing service.store service.world call
  rw [taken] at spec
  cases spec with
  | @answered answer s' world' performed computed live =>
      exact ⟨[answer], stepped_within stage (.counts rfl performed rfl) trivial trivial computed (Or.inl live)
        trivial False.elim⟩
  | @reading register now name made isFound =>
      exact ⟨[], stepped_within stage (.passes rfl) trivial trivial (.refl _) (Or.inl rfl)
        ⟨now, name, made, isFound⟩ False.elim⟩
  | @waiting register now name value made isFound =>
      exact ⟨[], stepped_within stage (.passes rfl) trivial trivial (.refl _) (Or.inl rfl)
        ⟨now, name, made, isFound⟩ False.elim⟩

theorem stepped_reading (quiet : Quiet service.store) (stage : service.stages i = .reading register)
    (fits : (Stage.reading register).Fits call service.store) :
    ∃ answers, Stepped backing call i service
      (service.put i (.answered (.accessed (.ok (register.read service.store.live).1)))) answers [] := by
  obtain ⟨now, name, rfl, isFound⟩ := fits
  exact ⟨_, stepped_within stage (.counts rfl (perform_read quiet service.world isFound now) rfl) trivial trivial
    (.refl _) (Or.inl rfl) trivial False.elim⟩

theorem stepped_waiting (stage : service.stages i = .waiting register value)
    (fits : (Stage.waiting register value).Fits call service.store) (free : service.writer = none) :
    Stepped backing call i service { service.put i (.writing register value .entered) with writer := some i }
      [] [] := by
  obtain ⟨now, name, made, isFound⟩ := fits
  refine stepped_put stage (.passes rfl) (.nothing trivial trivial) (List.append_nil _).symm (.refl _)
    (Or.inl rfl) ⟨now, name, made, isFound, trivial⟩ (fun _ => rfl) ?_
  intro j _ held
  rw [free] at held
  cases held

theorem stepped_writing (quiet : Quiet service.store) {phase : Phase σ}
    (stage : service.stages i = .writing register value phase)
    (fits : (Stage.writing register value phase).Fits call service.store) (holds : service.writer = some i)
    {after : Stage σ} {live : σ} (taken : phase.next register value service.store.live = (after, live)) :
    ∃ answers, Stepped backing call i service
      { service.put i after with store := { service.store with live } } answers [] := by
  obtain ⟨now, name, rfl, isFound, phaseFits⟩ := fits
  obtain ⟨answers, after', live', next, decides, held, fits'⟩ :=
    decides_next backing quiet service.world isFound now phaseFits
  cases next.symm.trans taken
  exact ⟨answers, stepped_within stage decides trivial (Stage.underway_of_holds held) (sameComputed_live _ live)
    (Or.inr trivial) fits' fun _ => holds⟩

theorem stepped_settled {result : Except Refusal Register} (stage : service.stages i = .settled result)
    (holds : service.writer = some i) :
    Stepped backing call i service { service.put i (.answered (.accessed result)) with writer := none }
      [] [] := by
  refine stepped_put stage (.passes rfl) (.nothing trivial trivial) (List.append_nil _).symm (.refl _)
    (Or.inl rfl) trivial False.elim ?_
  intro j other held
  rw [holds] at held
  exact absurd (Option.some.inj held).symm other

end

theorem stepped_of_step [DecidableEq ι] (quiet : Quiet service.store)
    (fits : (service.stages i).Fits (calls i) service.store)
    (holds : (service.stages i).Holds → service.writer = some i)
    (taken : step backing calls service i = some service') :
    ∃ answers moments, Stepped backing (calls i) i service service' answers moments := by
  unfold step at taken
  cases stage : service.stages i with
  | idle =>
      rw [stage] at taken
      cases taken
      exact ⟨[], _, stepped_put stage (.passes rfl) .invoked rfl (.refl _) (Or.inl rfl) trivial False.elim
        fun _ _ held => held⟩
  | invoked =>
      rw [stage] at taken
      cases taken
      obtain ⟨answers, stepped⟩ := stepped_invoked stage
        (rfl : (calls i).underLock backing service.store service.world = _)
      exact ⟨answers, [], stepped⟩
  | reading register =>
      rw [stage] at taken fits
      have ⟨_, _, _, isFound⟩ := fits
      have same : (register.read service.store.live).2 = service.store.live :=
        quiet _ _ _ isFound.entry service.store.live
      simp only [same] at taken
      cases taken
      obtain ⟨answers, stepped⟩ := stepped_reading quiet stage fits
      exact ⟨answers, [], stepped⟩
  | waiting register value =>
      rw [stage] at taken fits
      cases lock : service.writer with
      | some holder => simp [lock] at taken
      | none =>
          simp only [lock, Option.isSome_none, Bool.false_eq_true, if_false] at taken
          cases taken
          exact ⟨[], [], stepped_waiting stage fits lock⟩
  | writing register value phase =>
      rw [stage] at taken fits holds
      cases taken
      obtain ⟨answers, stepped⟩ := stepped_writing quiet stage fits (holds trivial) rfl
      exact ⟨answers, [], stepped⟩
  | settled result =>
      rw [stage] at taken holds
      cases taken
      exact ⟨[], [], stepped_settled stage (holds trivial)⟩
  | answered answer =>
      rw [stage] at taken
      cases taken
      exact ⟨[], _, stepped_put stage (.passes rfl) (.returned answer) rfl (.refl _) (Or.inl rfl) trivial
        False.elim fun _ _ held => held⟩
  | returned answer =>
      rw [stage] at taken
      cases taken

end RegisterPlane.Service
