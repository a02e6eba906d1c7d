import RegisterPlane.Proofs.Group.Course

namespace RegisterPlane

/-- A process crashes: it does not start, how it ended cannot be found out, or it fails before it was
asked to stop. -/
inductive Crashes (seen : List Sighting) (index : Nat) : Prop where
  | refused {reason : String} (sighted : .start index (.refused reason) ∈ seen)
  | unknown {reason : String} {asked : Bool} (sighted : .exit index (.error reason) asked ∈ seen)
  | unsuccessful {status : ExitStatus} (sighted : .exit index (.ok status) false ∈ seen)
      (failure : status.isSuccess = false)

/-- A process stops: it starts, and it ends in any other way. -/
structure Stops (seen : List Sighting) (index : Nat) : Prop where
  started : ∃ id, .start index (.started id) ∈ seen
  ended : ∃ status asked, .exit index status asked ∈ seen
  sound : ¬Crashes seen index

/-- What was seen of one process. -/
def about (seen : List Sighting) (index : Nat) : List Sighting := seen.filter (·.index == index)

theorem mem_about {seen : List Sighting} {index : Nat} {s : Sighting} :
    s ∈ about seen index ↔ s ∈ seen ∧ s.index = index := by
  simp [about]

theorem about_append_self (seen : List Sighting) (s : Sighting) :
    about (seen ++ [s]) s.index = about seen s.index ++ [s] := by
  simp [about]

theorem about_append_other {s : Sighting} {index : Nat} (other : s.index ≠ index)
    (seen : List Sighting) : about (seen ++ [s]) index = about seen index := by
  simp [about, other]

theorem crashes_about {seen : List Sighting} {index : Nat} :
    Crashes (about seen index) index ↔ Crashes seen index := by
  constructor
  · rintro (⟨sighted⟩ | ⟨sighted⟩ | ⟨sighted, failure⟩)
    · exact .refused (mem_about.mp sighted).1
    · exact .unknown (mem_about.mp sighted).1
    · exact .unsuccessful (mem_about.mp sighted).1 failure
  · rintro (⟨sighted⟩ | ⟨sighted⟩ | ⟨sighted, failure⟩)
    · exact .refused (mem_about.mpr ⟨sighted, rfl⟩)
    · exact .unknown (mem_about.mpr ⟨sighted, rfl⟩)
    · exact .unsuccessful (mem_about.mpr ⟨sighted, rfl⟩) failure

theorem stops_about {seen : List Sighting} {index : Nat} :
    Stops (about seen index) index ↔ Stops seen index := by
  constructor
  · rintro ⟨⟨id, started⟩, ⟨status, asked, ended⟩, sound⟩
    exact ⟨⟨id, (mem_about.mp started).1⟩, ⟨status, asked, (mem_about.mp ended).1⟩,
      fun crashes => sound (crashes_about.mpr crashes)⟩
  · rintro ⟨⟨id, started⟩, ⟨status, asked, ended⟩, sound⟩
    exact ⟨⟨id, mem_about.mpr ⟨started, rfl⟩⟩, ⟨status, asked, mem_about.mpr ⟨ended, rfl⟩⟩,
      fun crashes => sound (crashes_about.mp crashes)⟩

def endState (asked : Bool) : Except String ExitStatus → ProcessState
  | .error _ => .crashed
  | .ok status => if asked || status.isSuccess then .stopped else .crashed

namespace Slot

theorem exit_state (s : Slot) (status : Except String ExitStatus) :
    (s.exit status).state = endState (s.state == .stopping) status := by
  cases status with
  | error reason => rfl
  | ok status =>
      simp only [exit, endState]
      split_ifs <;> rfl

theorem exit_crash {s : Slot} (sound : s.crash = none) (status : Except String ExitStatus) :
    (s.exit status).crash.isSome = ((s.exit status).state == .crashed) := by
  cases status with
  | error reason => rfl
  | ok status =>
      simp only [exit]
      split_ifs
      · rw [sound]
        rfl
      · rfl

@[simp] theorem exit_process (s : Slot) (status : Except String ExitStatus) :
    (s.exit status).process = s.process := by
  cases status with
  | error reason => rfl
  | ok status =>
      simp only [exit]
      split_ifs <;> rfl

@[simp] theorem attempt_process (s : Slot) (start : StartOutcome) :
    (s.attempt start).process = s.process := by
  cases start <;> rfl

@[simp] theorem askToStop_process (s : Slot) : s.askToStop.process = s.process := by
  unfold askToStop
  split_ifs <;> rfl

@[simp] theorem askToStop_fails (s : Slot) : s.askToStop.fails = s.fails := by
  unfold askToStop
  split_ifs with alive
  · have other : (s.state == .crashed) = false := by
      cases state : s.state <;> rw [state] at alive <;> first | rfl | cases alive
    simp only [fails, other]
    rfl
  · rfl

end Slot

theorem endState_cases (asked : Bool) (status : Except String ExitStatus) :
    endState asked status = .stopped ∨ endState asked status = .crashed := by
  cases status with
  | error reason => exact Or.inr rfl
  | ok status =>
      simp only [endState]
      split_ifs
      · exact Or.inl rfl
      · exact Or.inr rfl

/-- What was seen of a process accounts for its slot. -/
inductive Tells (index : Nat) : List Sighting → Slot → Prop where
  | pending {s : Slot} (state : s.state = .pending) (crash : s.crash = none) : Tells index [] s
  | refused {s : Slot} {reason : String} (state : s.state = .crashed) (crash : s.crash.isSome = true) :
      Tells index [.start index (.refused reason)] s
  | alive {s : Slot} {id : Nat} (state : s.state = .running ∨ s.state = .stopping)
      (crash : s.crash = none) : Tells index [.start index (.started id)] s
  | ended {s : Slot} {id : Nat} {status : Except String ExitStatus} {asked : Bool}
      (state : s.state = endState asked status) (crash : s.crash.isSome = (s.state == .crashed)) :
      Tells index [.start index (.started id), .exit index status asked] s

variable {index : Nat} {own : List Sighting} {s : Slot}

theorem endState_eq_crashed_iff (asked : Bool) (status : Except String ExitStatus) (id : Nat) :
    endState asked status = .crashed ↔
      Crashes [.start index (.started id), .exit index status asked] index := by
  constructor
  · intro state
    cases status with
    | error reason => exact .unknown (List.mem_cons_of_mem _ (List.mem_singleton.mpr rfl))
    | ok status =>
        simp only [endState] at state
        split_ifs at state with fine
        obtain ⟨rfl, failure⟩ := (Bool.or_eq_false_iff).mp ((Bool.not_eq_true _).mp fine)
        exact .unsuccessful (List.mem_cons_of_mem _ (List.mem_singleton.mpr rfl)) failure
  · rintro (⟨sighted⟩ | ⟨sighted⟩ | ⟨sighted, failure⟩)
    · simp at sighted
    · simp at sighted
      simp [endState, ← sighted.1]
    · simp at sighted
      simp [endState, ← sighted.1, sighted.2, failure]

theorem not_crashes_nil (index : Nat) : ¬Crashes [] index := by
  rintro (⟨sighted⟩ | ⟨sighted⟩ | ⟨sighted, failure⟩) <;> cases sighted

theorem not_crashes_started (index id : Nat) : ¬Crashes [.start index (.started id)] index := by
  rintro (⟨sighted⟩ | ⟨sighted⟩ | ⟨sighted, failure⟩) <;> simp at sighted

theorem Tells.crashed_iff (tells : Tells index own s) : s.state = .crashed ↔ Crashes own index := by
  cases tells with
  | pending state =>
      rw [state]
      exact ⟨fun crashed => ProcessState.noConfusion crashed,
        fun crashes => absurd crashes (not_crashes_nil index)⟩
  | refused state => exact ⟨fun _ => .refused (List.mem_singleton.mpr rfl), fun _ => state⟩
  | alive state =>
      refine ⟨fun crashed => ?_, fun crashes => absurd crashes (not_crashes_started index _)⟩
      rw [crashed] at state
      rcases state with state | state <;> cases state
  | ended state => rw [state, endState_eq_crashed_iff]

theorem Tells.stopped_iff (tells : Tells index own s) : s.state = .stopped ↔ Stops own index := by
  cases tells with
  | pending state =>
      rw [state]
      refine ⟨fun stopped => ProcessState.noConfusion stopped, fun stops => ?_⟩
      obtain ⟨id, started⟩ := stops.started
      cases started
  | refused state =>
      rw [state]
      refine ⟨fun stopped => ProcessState.noConfusion stopped, fun stops => ?_⟩
      obtain ⟨id, started⟩ := stops.started
      simp at started
  | alive state =>
      constructor
      · intro stopped
        rw [stopped] at state
        rcases state with state | state <;> cases state
      · intro stops
        obtain ⟨status, asked, ended⟩ := stops.ended
        simp at ended
  | @ended s id status asked state =>
      rw [state]
      constructor
      · intro stopped
        refine ⟨⟨id, List.mem_cons_self⟩, ⟨status, asked, by simp⟩, fun crashes => ?_⟩
        rw [(endState_eq_crashed_iff asked status id).mpr crashes] at stopped
        cases stopped
      · intro stops
        have crashed := mt (endState_eq_crashed_iff asked status id).mp stops.sound
        exact (endState_cases asked status).resolve_right crashed

theorem Tells.crash_iff (tells : Tells index own s) : s.crash.isSome = (s.state == .crashed) := by
  cases tells with
  | pending state crash => rw [state, crash]; rfl
  | refused state crash => rw [state, crash]; rfl
  | alive state crash =>
      rcases state with state | state <;> rw [state, crash] <;> rfl
  | ended state crash => exact crash

theorem Tells.attempt (tells : Tells index own s) (untried : ∀ outcome, .start index outcome ∉ own)
    (outcome : StartOutcome) : own = [] ∧ Tells index [.start index outcome] (s.attempt outcome) := by
  cases tells with
  | pending state crash =>
      refine ⟨rfl, ?_⟩
      cases outcome with
      | started id => exact .alive (.inl rfl) crash
      | refused reason => exact .refused rfl rfl
  | refused => exact absurd List.mem_cons_self (untried _)
  | alive => exact absurd List.mem_cons_self (untried _)
  | ended => exact absurd List.mem_cons_self (untried _)

theorem Tells.started {id : Nat} (tells : Tells index own s) (started : .start index (.started id) ∈ own)
    (lasting : ∀ status asked, .exit index status asked ∉ own) :
    own = [.start index (.started id)] ∧ s.state.isAlive = true ∧ s.crash = none := by
  cases tells with
  | pending => cases started
  | refused => simp at started
  | alive state crash =>
      simp only [List.mem_singleton, Sighting.start.injEq, true_and] at started
      refine ⟨by rw [started], ?_, crash⟩
      rcases state with state | state <;> rw [state] <;> rfl
  | ended => exact absurd (List.mem_cons_of_mem _ List.mem_cons_self) (lasting _ _)

theorem Tells.askToStop (tells : Tells index own s) : Tells index own s.askToStop := by
  unfold Slot.askToStop
  split_ifs with alive
  · cases tells with
    | pending state => rw [state] at alive; cases alive
    | refused state => rw [state] at alive; cases alive
    | alive state crash => exact .alive (.inr rfl) crash
    | @ended s id status asked state =>
        rw [state] at alive
        rcases endState_cases asked status with other | other <;> (rw [other] at alive; cases alive)
  · exact tells

theorem Slot.fails_of_ne (other : s.state ≠ .crashed) : s.fails = false := by
  simp [Slot.fails, other]

theorem any_modify {α : Type} {p : α → Bool} {l : List α} {index : Nat} {old : α} (change : α → α)
    (found : l[index]? = some old) (before : p old = false) :
    (l.modify index change).any p = (l.any p || p (change old)) := by
  induction l generalizing index with
  | nil => simp at found
  | cons head rest ih =>
      cases index with
      | zero =>
          simp only [List.getElem?_cons_zero, Option.some.injEq] at found
          simp [found, before, Bool.or_comm]
      | succ index =>
          simp only [List.getElem?_cons_succ] at found
          simp [ih found, Bool.or_assoc]

/-- Every slot is accounted for by what was seen, and the group has failed if one of them has. -/
structure Matched (processes : List ResolvedProcess) (seen : List Sighting) (slots : List Slot)
    (failed : Bool) : Prop where
  processes : slots.map (·.process) = processes
  tells : ∀ {index s}, slots[index]? = some s → Tells index (about seen index) s
  failed : failed = slots.any Slot.fails

variable {processes : List ResolvedProcess} {seen : List Sighting} {c : Controller}

theorem Matched.update (matched : Matched processes seen c.slots c.failed) (sighting : Sighting)
    {change : Slot → Slot}
    (keeps : ∀ s, (change s).process = s.process)
    (seenThere : ∀ s, c.slots[sighting.index]? = some s →
      s.fails = false ∧ Tells sighting.index (about seen sighting.index ++ [sighting]) (change s)) :
    Matched processes (seen ++ [sighting]) (c.update sighting.index change).slots
      (c.update sighting.index change).failed := by
  refine ⟨?_, ?_, ?_⟩
  · rw [Controller.update_slots, ← matched.processes]
    apply List.ext_getElem?
    intro index
    rw [List.getElem?_map, List.getElem?_map, List.getElem?_modify]
    cases c.slots[index]? with
    | none => rfl
    | some s =>
        by_cases here : sighting.index = index
        · simp [here, keeps]
        · simp [here]
  · intro index s there
    rw [Controller.update_slots, List.getElem?_modify] at there
    by_cases here : sighting.index = index
    · subst here
      rw [about_append_self]
      cases found : c.slots[sighting.index]? with
      | none => simp [found] at there
      | some old =>
          simp only [found, if_true, Option.map_eq_map, Option.map_some, Option.some.injEq] at there
          rw [← there]
          exact (seenThere old found).2
    · rw [about_append_other here]
      apply matched.tells
      simpa [here] using there
  · unfold Controller.update
    cases found : c.slots[sighting.index]? with
    | none => exact matched.failed
    | some old =>
        have kept := any_modify change found (seenThere old found).1
        rw [List.modify_eq_set_getElem?, found] at kept
        rw [matched.failed]
        exact kept.symm

theorem Matched.askToStop {failed : Bool} {slots : List Slot}
    (matched : Matched processes seen slots failed) :
    Matched processes seen (slots.map Slot.askToStop) failed := by
  refine ⟨?_, ?_, ?_⟩
  · rw [List.map_map, ← matched.processes]
    exact List.map_congr_left fun s _ => s.askToStop_process
  · intro index s there
    rw [List.getElem?_map] at there
    obtain ⟨old, found, rfl⟩ := Option.map_eq_some_iff.mp there
    exact (matched.tells found).askToStop
  · rw [matched.failed, List.any_map]
    exact congrArg (slots.any ·) (funext fun s => s.askToStop_fails.symm)

/-- What a controller has at every moment: slots that fit what was seen, as many processes tried as
starts seen, and, once the group has ended, nothing alive and the verdict given. -/
structure Sound (processes : List ResolvedProcess) (seen : List Sighting) (c : Controller) : Prop where
  matched : Matched processes seen c.slots c.failed
  starts : ∀ index, (∃ outcome, .start index outcome ∈ seen) ↔ index < c.attempted
  verdict : c.state.isTerminal = true →
    c.isAlive = false ∧ c.state = if c.failed then .failed else .terminated

theorem sound_ofProcesses (processes : List ResolvedProcess) :
    Sound processes [] (Controller.ofProcesses processes) := by
  refine ⟨⟨?_, ?_, ?_⟩, ?_, ?_⟩
  · simp [Controller.ofProcesses, Controller.publish, Function.comp_def]
  · intro index s there
    simp only [Controller.ofProcesses, Controller.publish, List.getElem?_map] at there
    obtain ⟨process, -, rfl⟩ := Option.map_eq_some_iff.mp there
    exact .pending rfl rfl
  · simp [Controller.ofProcesses, Controller.publish, Slot.fails]
  · simp [Controller.ofProcesses, Controller.publish]
  · intro ended
    cases ended

theorem Sound.of_same {c' : Controller} (sound : Sound processes seen c)
    (slots : c'.slots = c.slots) (failed : c'.failed = c.failed) (attempted : c'.attempted = c.attempted)
    (verdict : c'.state.isTerminal = true →
      c'.isAlive = false ∧ c'.state = if c'.failed then .failed else .terminated) :
    Sound processes (seen ++ []) c' := by
  rw [List.append_nil]
  exact ⟨by rw [slots, failed]; exact sound.matched, by rw [attempted]; exact sound.starts, verdict⟩

theorem Sound.exiting (sound : Sound processes seen c) {e : ProcessExit}
    (accounted : Accounted (seen ++ [c.sightExit e])) (found : c.slots[e.index]? = some s) :
    ∃ id, about seen e.index = [.start e.index (.started id)] ∧ s.state.isAlive = true ∧
      s.crash = none := by
  obtain ⟨⟨id, started⟩, lasting⟩ := accounted seen e.index e.status _ [] rfl
  exact ⟨id, (sound.matched.tells found).started (mem_about.mpr ⟨started, rfl⟩)
    fun status asked member => lasting status asked (mem_about.mp member).1⟩

theorem sound_exit (sound : Sound processes seen c) (e : ProcessExit)
    (going : c.state.isTerminal = false) (accounted : Accounted (seen ++ [c.sightExit e])) :
    Sound processes (seen ++ [c.sightExit e]) (c.onExit e) := by
  refine ⟨?_, ?_, ?_⟩
  · refine sound.matched.update (c.sightExit e) (fun s => s.exit_process e.status) fun s found => ?_
    obtain ⟨id, only, alive, crash⟩ := sound.exiting accounted found
    refine ⟨Slot.fails_of_ne fun crashed => ?_, ?_⟩
    · rw [crashed] at alive
      cases alive
    · have asked : (c.slots[e.index]?).any (·.state == .stopping) = (s.state == .stopping) := by
        have there : c.slots[e.index]? = some s := found
        rw [there]
        rfl
      have own : about seen (c.sightExit e).index = [.start e.index (.started id)] := only
      rw [own, Controller.sightExit, asked]
      exact .ended (s.exit_state e.status) (Slot.exit_crash crash e.status)
  · intro index
    rw [Controller.onExit, Controller.update_attempted, ← sound.starts index]
    simp [Controller.sightExit]
  · intro ended
    rw [Controller.onExit, Controller.update_state, going] at ended
    cases ended

theorem sound_attempt (sound : Sound processes seen c) (start : StartOutcome)
    (launching : c.state = .launching) :
    Sound processes (seen ++ [.start c.attempted start]) (c.attempt start) := by
  have untried : ∀ outcome, .start c.attempted outcome ∉ seen := by
    intro outcome member
    exact lt_irrefl _ ((sound.starts c.attempted).mp ⟨outcome, member⟩)
  refine ⟨?_, ?_, ?_⟩
  · refine sound.matched.update (.start c.attempted start) (fun s => s.attempt_process start)
      fun s found => ?_
    have tells := sound.matched.tells found
    obtain ⟨none, tried⟩ := tells.attempt
      (fun outcome member => untried outcome (mem_about.mp member).1) start
    refine ⟨Slot.fails_of_ne fun crashed => ?_, ?_⟩
    · rw [none] at tells
      cases tells with
      | pending state =>
          rw [state] at crashed
          cases crashed
    · rw [none]
      exact tried
  · intro index
    have more : (c.attempt start).attempted = c.attempted + 1 := rfl
    rw [more, Nat.lt_succ_iff_lt_or_eq, ← sound.starts index]
    simp only [List.mem_append, List.mem_singleton, Sighting.start.injEq, exists_or, exists_eq_right]
  · intro ended
    have still : (c.attempt start).state = c.state := Controller.update_state ..
    rw [still, launching] at ended
    cases ended

theorem sound_act {arrived : List Arrival} {seen' : List Sighting} {sent : List StopMessage}
    {c' : Controller} (act : Act arrived c seen' sent c') (accounted : Accounted (seen ++ seen'))
    (sound : Sound processes seen c) : Sound processes (seen ++ seen') c' := by
  cases act with
  | launch loaded => exact sound.of_same rfl rfl rfl fun ended => by cases ended
  | exit e going => exact sound_exit sound e going accounted
  | tell => exact sound.of_same rfl rfl rfl sound.verdict
  | attempt start launching => exact sound_attempt sound start launching
  | run => exact sound.of_same rfl rfl rfl fun ended => by cases ended
  | drain =>
      rw [List.append_nil]
      exact ⟨sound.matched.askToStop, sound.starts, fun ended => by cases ended⟩
  | force => exact sound.of_same rfl rfl rfl sound.verdict
  | finish draining gone => exact sound.of_same rfl rfl rfl fun _ => ⟨gone, rfl⟩

theorem sound_of_course {arrived : List Arrival} {sent : List StopMessage}
    (course : Course processes arrived seen sent c) (accounted : Accounted seen) :
    Sound processes seen c :=
  course_keeps (fun _ seen _ c => Sound processes seen c) (sound_ofProcesses processes)
    (fun _ sound => sound) (fun act accounted sound => sound_act act accounted sound) course accounted

/-- How a process is reported in the end, as against what was seen of it. -/
structure ReportedAs (seen : List Sighting) (index : Nat) (process : ResolvedProcess)
    (p : ProcessReport) : Prop where
  name : p.name = process.name
  required : p.required = process.required
  crashed : p.state = .crashed ↔ Crashes seen index
  stopped : p.state = .stopped ↔ Stops seen index
  explained : p.state = .crashed → ∃ text, p.error = some text
  quiet : p.state = .stopped ∨ p.state = .pending → p.error = none

theorem reportedAs_of_tells (tells : Tells index (about seen index) s) :
    ReportedAs seen index s.process s.report := by
  have crash := tells.crash_iff
  refine ⟨rfl, rfl, tells.crashed_iff.trans crashes_about, tells.stopped_iff.trans stops_about, ?_, ?_⟩
  · intro crashed
    have state : s.state = .crashed := crashed
    rw [state] at crash
    obtain ⟨cause, here⟩ := Option.isSome_iff_exists.mp crash
    exact ⟨cause.message, by rw [Slot.report, here]; rfl⟩
  · intro quiet
    have other : (s.state == .crashed) = false := by
      have state : s.state = .stopped ∨ s.state = .pending := quiet
      rcases state with state | state <;> rw [state] <;> rfl
    rw [other] at crash
    have none := Option.isSome_eq_false_iff.mp crash
    simp [Slot.report, Option.isNone_iff_eq_none.mp none]

theorem failed_iff_reported (matched : Matched processes seen c.slots c.failed) (logLines : Nat) :
    c.failed = true ↔
      ∃ p ∈ (c.report logLines).processes, p.required = true ∧ p.state = .crashed := by
  rw [matched.failed]
  simp [Controller.report, Slot.fails, Slot.report, and_comm]

/-- Whatever arrives, and in whichever order: a group that ends has failed exactly if a required process
has crashed, and has terminated otherwise. Each process is reported as what was seen of it says. -/
theorem group_verdict {arrived : List Arrival} {sent : List StopMessage}
    (course : Course processes arrived seen sent c) (accounted : Accounted seen)
    (ended : c.state.isTerminal = true) (logLines : Nat) :
    ((c.report logLines).state = .failed ↔
        ∃ p ∈ (c.report logLines).processes, p.required = true ∧ p.state = .crashed) ∧
      ((c.report logLines).state ≠ .failed → (c.report logLines).state = .terminated) ∧
      (c.report logLines).processes.length = processes.length ∧
      ∀ index process, processes[index]? = some process →
        ∃ p, (c.report logLines).processes[index]? = some p ∧ ReportedAs seen index process p := by
  have sound := sound_of_course course accounted
  obtain ⟨-, state⟩ := sound.verdict ended
  refine ⟨?_, ?_, ?_, ?_⟩
  · refine Iff.trans ?_ (failed_iff_reported sound.matched logLines)
    simp only [Controller.report, state]
    cases c.failed <;> simp
  · simp only [Controller.report, state]
    cases c.failed <;> simp
  · simp [Controller.report, ← sound.matched.processes]
  · intro index process there
    rw [← sound.matched.processes, List.getElem?_map] at there
    obtain ⟨s, found, rfl⟩ := Option.map_eq_some_iff.mp there
    refine ⟨s.report, ?_, reportedAs_of_tells (sound.matched.tells found)⟩
    simp [Controller.report, found]

def crew : List ResolvedProcess :=
  [⟨"server", ["serve"], true, none, [], []⟩, ⟨"worker", ["work"], true, none, [], []⟩]

def crewSeen : List Sighting :=
  [.start 0 (.started 11), .start 1 (.started 12), .exit 1 (.ok (.code 3)) false,
    .exit 0 (.ok (.signal 9)) true]

theorem crew_course : ∃ arrived sent c, Course crew arrived crewSeen sent c ∧ c.state = .failed := by
  have begun : Course crew _ _ _ _ := .launched
  have started := begun.step (e := .turn false [] (.started 11)) rfl
  have running := started.step (e := .turn false [] (.started 12)) rfl
  have crashed := running.step (e := .exited ⟨1, .ok (.code 3)⟩) rfl
  have forced := crashed.step (e := .graceElapsed) rfl
  have ended := forced.step (e := .exited ⟨0, .ok (.signal 9)⟩) rfl
  exact ⟨_, _, _, ended, rfl⟩

theorem crew_accounted : Accounted crewSeen :=
  accounted_exit
    (accounted_exit (accounted_start (accounted_start accounted_nil 0 (.started 11)) 1 (.started 12))
      (.ok (.code 3)) false ⟨12, by simp⟩ (by simp))
    (.ok (.signal 9)) true ⟨11, by simp⟩ (by simp)

theorem group_verdict_crew :
    ∃ arrived sent c, Course crew arrived crewSeen sent c ∧ Accounted crewSeen ∧
      c.state.isTerminal = true ∧
      (∃ p ∈ (c.report 0).processes, p.required = true ∧ p.state = .crashed) ∧
      ∃ p, (c.report 0).processes[0]? = some p ∧
        ReportedAs crewSeen 0 ⟨"server", ["serve"], true, none, [], []⟩ p := by
  obtain ⟨arrived, sent, c, course, failed⟩ := crew_course
  have ended : c.state.isTerminal = true := by
    rw [failed]
    rfl
  obtain ⟨crash, -, -, reported⟩ := group_verdict course crew_accounted ended 0
  exact ⟨arrived, sent, c, course, crew_accounted, ended, crash.mp failed, reported 0 _ rfl⟩

end RegisterPlane
