import Mathlib.Tactic
import RegisterPlane.Group.Controller
import RegisterPlane.Proofs.Outcome

/-! The course of a group: what arrives at its controller from launch on, what the controller sees of
each process in that, and the single acts that every step of the controller is made of. -/

namespace RegisterPlane

/-- What the controller sees of a process: how its start goes, or its end and whether it was asked to
stop by then. -/
inductive Sighting where
  | start (index : Nat) (outcome : StartOutcome)
  | exit (index : Nat) (status : Except String ExitStatus) (asked : Bool)

def Sighting.index : Sighting → Nat
  | start index _ => index
  | exit index _ _ => index

/-- Every exit is that of a process started before, and the first of it. -/
def Accounted (seen : List Sighting) : Prop :=
  ∀ before index status asked after, seen = before ++ .exit index status asked :: after →
    (∃ id, .start index (.started id) ∈ before) ∧
      ∀ status asked, .exit index status asked ∉ before

theorem Accounted.of_append {seen later : List Sighting} (accounted : Accounted (seen ++ later)) :
    Accounted seen := by
  intro before index status asked after split
  exact accounted before index status asked (after ++ later) (by rw [split]; simp)

theorem accounted_nil : Accounted [] := by
  intro before index status asked after split
  simp at split

theorem accounted_start {seen : List Sighting} (accounted : Accounted seen) (index : Nat)
    (outcome : StartOutcome) : Accounted (seen ++ [.start index outcome]) := by
  intro before other status asked after split
  rcases List.append_eq_append_iff.mp split with ⟨between, rfl, rest⟩ | ⟨between, rfl, rest⟩
  · cases between <;> simp at rest
  · cases between with
    | nil => simp at rest
    | cons first between =>
        cases rest
        exact accounted _ _ _ _ _ rfl

theorem accounted_exit {seen : List Sighting} (accounted : Accounted seen) {index : Nat}
    (status : Except String ExitStatus) (asked : Bool)
    (started : ∃ id, .start index (.started id) ∈ seen)
    (first : ∀ status asked, .exit index status asked ∉ seen) :
    Accounted (seen ++ [.exit index status asked]) := by
  intro before other status' asked' after split
  rcases List.append_eq_append_iff.mp split with ⟨between, rfl, rest⟩ | ⟨between, rfl, rest⟩
  · cases between with
    | nil =>
        cases rest
        rw [List.append_nil]
        exact ⟨started, first⟩
    | cons one between => simp at rest
  · cases between with
    | nil =>
        cases rest
        rw [List.append_nil] at started first
        exact ⟨started, first⟩
    | cons one between =>
        cases rest
        exact accounted _ _ _ _ _ rfl

structure Arrival where
  state : GroupState
  event : Event

namespace Controller

def sightExit (c : Controller) (e : ProcessExit) : Sighting :=
  .exit e.index e.status ((c.slots[e.index]?).any (·.state == .stopping))

def sightExits (c : Controller) : List ProcessExit → List Sighting
  | [] => []
  | e :: rest => c.sightExit e :: sightExits (c.onExit e) rest

def sightings (c : Controller) : Event → List Sighting
  | .turn stop exits start =>
    if stop then []
    else
      let noted := exits.foldl onExit c
      c.sightExits exits ++ if noted.failed then [] else [.start noted.attempted start]
  | .exited e => [c.sightExit e]
  | .stopRequested => []
  | .graceElapsed => []

end Controller

/-- A group from its launch on: what has arrived, what was seen and told in it, and where that leads. -/
inductive Course (processes : List ResolvedProcess) :
    List Arrival → List Sighting → List StopMessage → Controller → Prop where
  | launched : Course processes [] [] (Controller.ofProcesses processes).launch.2
      (Controller.ofProcesses processes).launch.1
  | step {arrived : List Arrival} {seen : List Sighting} {sent told : List StopMessage}
      {c c' : Controller} {e : Event} (course : Course processes arrived seen sent c)
      (stepped : c.step? e = some (c', told)) :
      Course processes (arrived ++ [⟨c.state, e⟩]) (seen ++ c.sightings e) (sent ++ told) c'

theorem Course.run {processes : List ResolvedProcess} {arrived : List Arrival} {seen : List Sighting}
    {sent told : List StopMessage} {c c' : Controller} {events : List Event}
    (course : Course processes arrived seen sent c) (ran : c.run? events = some (c', told)) :
    ∃ more later, more.map Arrival.event = events ∧
      Course processes (arrived ++ more) (seen ++ later) (sent ++ told) c' := by
  induction events generalizing arrived seen sent told c with
  | nil =>
      obtain ⟨rfl, rfl⟩ := parts_of_some ran
      exact ⟨[], [], rfl, by simpa using course⟩
  | cons e events ih =>
      obtain ⟨⟨next, first⟩, stepped, ran⟩ := Option.bind_eq_some_iff.mp ran
      obtain ⟨⟨last, rest⟩, going, done⟩ := Option.bind_eq_some_iff.mp ran
      obtain ⟨rfl, rfl⟩ := parts_of_some done
      obtain ⟨more, later, same, onward⟩ := ih (course.step stepped) going
      exact ⟨⟨c.state, e⟩ :: more, c.sightings e ++ later, by rw [List.map_cons, same],
        by simpa using onward⟩

inductive DrainReason (arrived : List Arrival) (c : Controller) : Prop where
  | crash (failed : c.failed = true)
  | stopInLaunch {exits : List ProcessExit} {start : StartOutcome} (launching : c.state = .launching)
      (asked : ⟨.launching, .turn true exits start⟩ ∈ arrived)
  | stopInRun (running : c.state = .running) (asked : ⟨.running, .stopRequested⟩ ∈ arrived)
  | idle (running : c.state = .running) (gone : c.isAlive = false)

/-- One thing that the controller does, after what has arrived. -/
inductive Act (arrived : List Arrival) :
    Controller → List Sighting → List StopMessage → Controller → Prop where
  | launch {c : Controller} (loaded : c.state = .loaded) : Act arrived c [] [] (c.enter .launching)
  | exit {c : Controller} (e : ProcessExit) (going : c.state.isTerminal = false) :
      Act arrived c [c.sightExit e] [] (c.onExit e)
  | tell (c : Controller) : Act arrived c [] [] c.publish
  | attempt {c : Controller} (start : StartOutcome) (launching : c.state = .launching)
      (untried : c.attempted < c.slots.length) :
      Act arrived c [.start c.attempted start] [] (c.attempt start)
  | run {c : Controller} (launching : c.state = .launching)
      (tried : c.slots.length ≤ c.attempted) : Act arrived c [] [] (c.enter .running)
  | drain {c : Controller} (busy : c.state = .launching ∨ c.state = .running)
      (reason : DrainReason arrived c) :
      Act arrived c [] (c.messages .graceful) (c.enter .draining).askToStop
  | force {c : Controller} (draining : c.state = .draining) (first : c.forced = false)
      (elapsed : ⟨.draining, .graceElapsed⟩ ∈ arrived) :
      Act arrived c [] (c.messages .force) { c with forced := true }
  | finish {c : Controller} (draining : c.state = .draining) (gone : c.isAlive = false) :
      Act arrived c [] [] (c.enter (if c.failed then .failed else .terminated))

inductive Acts (arrived : List Arrival) :
    Controller → List Sighting → List StopMessage → Controller → Prop where
  | none (c : Controller) : Acts arrived c [] [] c
  | next {c c' c'' : Controller} {seen seen' : List Sighting} {sent sent' : List StopMessage}
      (act : Act arrived c seen sent c') (acts : Acts arrived c' seen' sent' c'') :
      Acts arrived c (seen ++ seen') (sent ++ sent') c''

theorem Act.acts {arrived : List Arrival} {c c' : Controller} {seen : List Sighting}
    {sent : List StopMessage} (act : Act arrived c seen sent c') : Acts arrived c seen sent c' := by
  simpa using Acts.next act (.none c')

theorem Acts.trans {arrived : List Arrival} {c c' c'' : Controller} {seen seen' : List Sighting}
    {sent sent' : List StopMessage} (first : Acts arrived c seen sent c')
    (second : Acts arrived c' seen' sent' c'') :
    Acts arrived c (seen ++ seen') (sent ++ sent') c'' := by
  induction first with
  | none => exact second
  | next act acts ih =>
      rw [List.append_assoc, List.append_assoc]
      exact .next act (ih second)

namespace Controller

variable {arrived : List Arrival} {c : Controller}

@[simp] theorem update_state (c : Controller) (index : Nat) (change : Slot → Slot) :
    (c.update index change).state = c.state := by
  unfold update
  split <;> rfl

@[simp] theorem update_attempted (c : Controller) (index : Nat) (change : Slot → Slot) :
    (c.update index change).attempted = c.attempted := by
  unfold update
  split <;> rfl

@[simp] theorem update_published (c : Controller) (index : Nat) (change : Slot → Slot) :
    (c.update index change).published = c.published := by
  unfold update
  split <;> rfl

theorem update_slots (c : Controller) (index : Nat) (change : Slot → Slot) :
    (c.update index change).slots = c.slots.modify index change := by
  unfold update
  rw [List.modify_eq_set_getElem?]
  cases c.slots[index]? with
  | none => rfl
  | some slot => rfl

theorem acts_finishIfDone (draining : c.state = .draining) : Acts arrived c [] [] c.finishIfDone := by
  unfold finishIfDone
  split
  · exact .none c
  · next gone => exact (Act.finish draining (by simpa using gone)).acts

theorem acts_drain (busy : c.state = .launching ∨ c.state = .running)
    (reason : DrainReason arrived c) : Acts arrived c [] c.drain.2 c.drain.1 := by
  have asked : Act arrived c [] (c.messages .graceful) (c.enter .draining).askToStop :=
    .drain busy reason
  simpa [drain] using asked.acts.trans (acts_finishIfDone rfl)

theorem acts_drainIfOver (running : c.state = .running) :
    Acts arrived c [] c.drainIfOver.2 c.drainIfOver.1 := by
  unfold drainIfOver
  split
  next ended =>
    rcases (Bool.or_eq_true ..).mp ended with failed | gone
    · exact acts_drain (.inr running) (.crash failed)
    · exact acts_drain (.inr running) (.idle running (by simpa using gone))
  next => exact .none c

theorem acts_proceed (launching : c.state = .launching) :
    Acts arrived c [] c.proceed.2 c.proceed.1 := by
  unfold proceed
  split_ifs with failed untried
  · exact acts_drain (.inl launching) (.crash failed)
  · exact .none c
  · have ran : Act arrived c [] [] (c.enter .running) := .run launching (not_lt.mp untried)
    simpa using ran.acts.trans (acts_drainIfOver rfl)

theorem acts_exits (exits : List ProcessExit) (going : c.state.isTerminal = false) :
    Acts arrived c (c.sightExits exits) [] (exits.foldl onExit c) := by
  induction exits generalizing c with
  | nil => exact .none c
  | cons e rest ih =>
      have still : (c.onExit e).state = c.state := update_state ..
      exact .next (.exit e going) (ih (by rw [still, going]))

theorem acts_observe (e : ProcessExit) (going : c.state.isTerminal = false) :
    Acts arrived c [c.sightExit e] [] (c.observe e) :=
  (Act.exit e going).acts.trans (Act.tell _).acts

@[simp] theorem foldl_onExit_state (exits : List ProcessExit) (c : Controller) :
    (exits.foldl onExit c).state = c.state := by
  induction exits generalizing c with
  | nil => rfl
  | cons e rest ih => exact (ih _).trans (update_state ..)

@[simp] theorem foldl_onExit_attempted (exits : List ProcessExit) (c : Controller) :
    (exits.foldl onExit c).attempted = c.attempted := by
  induction exits generalizing c with
  | nil => rfl
  | cons e rest ih => exact (ih _).trans (update_attempted ..)

@[simp] theorem update_size (c : Controller) (index : Nat) (change : Slot → Slot) :
    (c.update index change).slots.length = c.slots.length := by
  rw [update_slots, List.length_modify]

@[simp] theorem foldl_onExit_size (exits : List ProcessExit) (c : Controller) :
    (exits.foldl onExit c).slots.length = c.slots.length := by
  induction exits generalizing c with
  | nil => rfl
  | cons e rest ih => exact (ih _).trans (update_size ..)

def Told (c : Controller) : Prop := c.published.getLast? = some (c.report 0)

theorem told_publish (c : Controller) : Told c.publish := List.getLast?_concat

/-- What holds of a controller between events, in each state of its group. -/
structure Settled (c : Controller) : Prop where
  launching : c.state = .launching → c.attempted < c.slots.length
  running : c.state = .running → c.failed = false ∧ c.isAlive = true
  told : Told c

theorem settled_finishIfDone (draining : c.state = .draining) (told : Told c) :
    Settled c.finishIfDone := by
  unfold finishIfDone
  split_ifs with alive failed
  · refine ⟨?_, ?_, told⟩ <;> (rw [draining]; intro other; cases other)
  · refine ⟨?_, ?_, told_publish _⟩ <;> (intro other; cases other)
  · refine ⟨?_, ?_, told_publish _⟩ <;> (intro other; cases other)

theorem settled_drain (c : Controller) : Settled c.drain.1 :=
  settled_finishIfDone rfl (told_publish _)

theorem settled_drainIfOver (running : c.state = .running) (told : Told c) :
    Settled c.drainIfOver.1 := by
  unfold drainIfOver
  split
  · exact settled_drain c
  · next lasting =>
      rw [Bool.or_eq_true, not_or, Bool.not_eq_true, Bool.not_eq_true', Bool.not_eq_false] at lasting
      refine ⟨fun launching => ?_, fun _ => lasting, told⟩
      rw [running] at launching
      cases launching

theorem settled_proceed (launching : c.state = .launching) (told : Told c) :
    Settled c.proceed.1 := by
  unfold proceed
  split_ifs with failed untried
  · exact settled_drain c
  · refine ⟨fun _ => untried, fun running => ?_, told⟩
    rw [launching] at running
    cases running
  · exact settled_drainIfOver rfl (told_publish _)

theorem acts_turn {stop : Bool} {exits : List ProcessExit} {start : StartOutcome}
    (launching : c.state = .launching) (settled : Settled c)
    (here : ⟨.launching, .turn stop exits start⟩ ∈ arrived) :
    Acts arrived c (c.sightings (.turn stop exits start)) (c.turn stop exits start).2
      (c.turn stop exits start).1 := by
  unfold sightings turn
  cases stop with
  | true => exact acts_drain (.inl launching) (.stopInLaunch launching here)
  | false =>
      have noted : Acts arrived c (c.sightExits exits) [] (exits.foldl onExit c) :=
        acts_exits exits (by rw [launching]; rfl)
      have still := (foldl_onExit_state exits c).trans launching
      have left : (exits.foldl onExit c).attempted < (exits.foldl onExit c).slots.length := by
        rw [foldl_onExit_attempted, foldl_onExit_size]
        exact settled.launching launching
      simp only [Bool.false_eq_true, if_false]
      generalize exits.foldl onExit c = c' at noted still left
      split_ifs with failed
      · simpa using noted.trans (acts_drain (.inl still) (.crash failed))
      · have tried : Act arrived c' [.start c'.attempted start] [] (c'.attempt start) :=
          .attempt start still left
        have state : (c'.attempt start).state = .launching := (update_state ..).trans still
        simpa using noted.trans (tried.acts.trans (acts_proceed state))

theorem settled_turn {stop : Bool} {exits : List ProcessExit} {start : StartOutcome}
    (launching : c.state = .launching) : Settled (c.turn stop exits start).1 := by
  unfold turn
  split_ifs with asked
  · exact settled_drain c
  · dsimp only
    split_ifs with failed
    · exact settled_drain _
    · have still := (foldl_onExit_state exits c).trans launching
      exact settled_proceed ((update_state ..).trans still) (told_publish _)

theorem acts_step {c' : Controller} {e : Event} {told : List StopMessage} (settled : Settled c)
    (here : ⟨c.state, e⟩ ∈ arrived) (stepped : c.step? e = some (c', told)) :
    Acts arrived c (c.sightings e) told c' ∧ Settled c' := by
  unfold step? at stepped
  split at stepped
  next stop exits start launching =>
    obtain ⟨rfl, rfl⟩ := parts_of_some stepped
    rw [launching] at here
    exact ⟨acts_turn launching settled here, settled_turn launching⟩
  next exit running =>
    obtain ⟨rfl, rfl⟩ := parts_of_some stepped
    have state : (c.observe exit).state = .running := (update_state ..).trans running
    have going : c.state.isTerminal = false := by
      rw [running]
      rfl
    exact ⟨(acts_observe exit going).trans (acts_drainIfOver state),
      settled_drainIfOver state (told_publish _)⟩
  next running =>
    obtain ⟨rfl, rfl⟩ := parts_of_some stepped
    rw [running] at here
    exact ⟨acts_drain (.inr running) (.stopInRun running here), settled_drain c⟩
  next exit draining =>
    obtain ⟨rfl, rfl⟩ := parts_of_some stepped
    have state : (c.observe exit).state = .draining := (update_state ..).trans draining
    have going : c.state.isTerminal = false := by
      rw [draining]
      rfl
    exact ⟨(acts_observe exit going).trans (acts_finishIfDone state),
      settled_finishIfDone state (told_publish _)⟩
  next draining =>
    obtain ⟨rfl, rfl⟩ := parts_of_some stepped
    exact ⟨.none _, settled⟩
  next draining =>
    split_ifs at stepped with forced
    obtain ⟨rfl, rfl⟩ := parts_of_some stepped
    rw [draining] at here
    have first := (Bool.not_eq_true _).mp forced
    exact ⟨(Act.force draining first here).acts, ⟨settled.launching, settled.running, settled.told⟩⟩
  next => cases stepped

theorem acts_launch (processes : List ResolvedProcess) :
    Acts arrived (ofProcesses processes) [] (ofProcesses processes).launch.2
      (ofProcesses processes).launch.1 := by
  have entered : Act arrived (ofProcesses processes) [] [] ((ofProcesses processes).enter .launching) :=
    .launch rfl
  simpa [launch] using entered.acts.trans (acts_proceed rfl)

end Controller

theorem settled_of_course {processes : List ResolvedProcess} {arrived : List Arrival}
    {seen : List Sighting} {sent : List StopMessage} {c : Controller}
    (course : Course processes arrived seen sent c) : c.Settled := by
  induction course with
  | launched => exact Controller.settled_proceed rfl (Controller.told_publish _)
  | @step arrived seen sent told c c' e course stepped ih =>
      exact (Controller.acts_step ih (List.mem_singleton.mpr rfl) stepped).2

theorem acts_keep {arrived : List Arrival}
    (holds : List Sighting → List StopMessage → Controller → Prop)
    (act : ∀ {seen seen' sent sent' c c'}, Act arrived c seen' sent' c' → Accounted (seen ++ seen') →
      holds seen sent c → holds (seen ++ seen') (sent ++ sent') c')
    {c c' : Controller} {seen seen' : List Sighting} {sent sent' : List StopMessage}
    (acts : Acts arrived c seen' sent' c') (accounted : Accounted (seen ++ seen'))
    (start : holds seen sent c) : holds (seen ++ seen') (sent ++ sent') c' := by
  induction acts generalizing seen sent with
  | none c => simpa using start
  | next first rest ih =>
      rw [← List.append_assoc] at accounted
      simpa using ih accounted (act first accounted.of_append start)

/-- What holds before the launch and is kept by every arrival and every act holds all along. -/
theorem course_keeps {processes : List ResolvedProcess}
    (holds : List Arrival → List Sighting → List StopMessage → Controller → Prop)
    (start : holds [] [] [] (Controller.ofProcesses processes))
    (arrival : ∀ {arrived seen sent c} (a : Arrival), holds arrived seen sent c →
      holds (arrived ++ [a]) seen sent c)
    (act : ∀ {arrived seen seen' sent sent' c c'}, Act arrived c seen' sent' c' →
      Accounted (seen ++ seen') → holds arrived seen sent c →
      holds arrived (seen ++ seen') (sent ++ sent') c')
    {arrived : List Arrival} {seen : List Sighting} {sent : List StopMessage} {c : Controller}
    (course : Course processes arrived seen sent c) (accounted : Accounted seen) :
    holds arrived seen sent c := by
  induction course with
  | launched =>
      have launched : Acts [] (Controller.ofProcesses processes) []
          (Controller.ofProcesses processes).launch.2 (Controller.ofProcesses processes).launch.1 :=
        Controller.acts_launch processes
      have nothing : Accounted ([] ++ []) := accounted
      simpa using acts_keep (holds []) act launched nothing start
  | @step arrived seen sent told c c' e course stepped ih =>
      have held := arrival ⟨c.state, e⟩ (ih accounted.of_append)
      have done := (Controller.acts_step (settled_of_course course)
        (List.mem_append_right arrived (List.mem_singleton.mpr rfl)) stepped).1
      exact acts_keep (holds _) act done accounted held

end RegisterPlane
