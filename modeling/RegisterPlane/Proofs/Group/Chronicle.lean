import RegisterPlane.Proofs.Group.Verdict

/-! A group's course with the order of things in it: what is seen of processes, where draining begins,
where the grace period is over, and what processes are told. -/

namespace RegisterPlane

inductive Happening where
  | sighted (s : Sighting)
  /-- The group goes into draining. -/
  | drains
  /-- The grace period is over. -/
  | elapses
  | told (m : StopMessage)

def Happening.sighting? : Happening → Option Sighting
  | sighted s => some s
  | _ => none

def Happening.orderTo? (index : Nat) : Happening → Option StopMode
  | told m => if m.index = index then some m.mode else none
  | _ => none

def asSeen (seen : List Sighting) : List Happening := seen.map .sighted

def tellAll (mode : StopMode) (indices : List Nat) : List Happening :=
  indices.map fun index => .told ⟨index, mode⟩

def sightingsOf (history : List Happening) : List Sighting := history.filterMap Happening.sighting?

def ordersTo (index : Nat) (history : List Happening) : List StopMode :=
  history.filterMap (Happening.orderTo? index)

def GroupState.isWindingDown : GroupState → Bool
  | loaded | launching | running => false
  | draining | terminated | failed => true

def Event.isElapse : Event → Bool
  | graceElapsed => true
  | _ => false

def Event.isStop : Event → Bool
  | stopRequested => true
  | _ => false

namespace Controller

def passage (c c' : Controller) : List Happening :=
  if !c.state.isWindingDown && c'.state.isWindingDown then [.drains] else []

/-- An event, and the controller's answer to it. What was seen is noted before anything follows from it,
and messages are sent last. -/
def happenings (c : Controller) (e : Event) (answer : Controller × List StopMessage) : List Happening :=
  asSeen (c.sightings e) ++ c.passage answer.1 ++ (if e.isElapse then [.elapses] else []) ++
    answer.2.map .told

def launchHappenings (c : Controller) : List Happening := c.passage c.launch.1 ++ c.launch.2.map .told

end Controller

/-- A group from its launch on, with everything that happens. -/
inductive Chronicle (processes : List ResolvedProcess) : List Happening → Controller → Prop where
  | launched : Chronicle processes (Controller.ofProcesses processes).launchHappenings
      (Controller.ofProcesses processes).launch.1
  | step {history : List Happening} {c c' : Controller} {e : Event} {told : List StopMessage}
      (chronicle : Chronicle processes history c) (stepped : c.step? e = some (c', told)) :
      Chronicle processes (history ++ c.happenings e (c', told)) c'

/-- A process has been started, and its end has not been seen. -/
structure Living (seen : List Sighting) (index : Nat) : Prop where
  started : ∃ id, .start index (.started id) ∈ seen
  lasting : ∀ status asked, .exit index status asked ∉ seen

variable {processes : List ResolvedProcess} {seen : List Sighting} {history : List Happening}
  {c : Controller}

@[simp] theorem asSeen_nil : asSeen [] = [] := rfl

@[simp] theorem asSeen_append (a b : List Sighting) : asSeen (a ++ b) = asSeen a ++ asSeen b :=
  List.map_append

@[simp] theorem sightingsOf_append (a b : List Happening) :
    sightingsOf (a ++ b) = sightingsOf a ++ sightingsOf b := List.filterMap_append

@[simp] theorem sightingsOf_asSeen (seen : List Sighting) : sightingsOf (asSeen seen) = seen := by
  induction seen with
  | nil => rfl
  | cons s rest ih => exact congrArg (s :: ·) ih

@[simp] theorem sightingsOf_told (sent : List StopMessage) : sightingsOf (sent.map .told) = [] := by
  induction sent with
  | nil => rfl
  | cons m rest ih => exact ih

@[simp] theorem sightingsOf_tellAll (mode : StopMode) (indices : List Nat) :
    sightingsOf (tellAll mode indices) = [] := by
  induction indices with
  | nil => rfl
  | cons index rest ih => exact ih

@[simp] theorem sightingsOf_drains (rest : List Happening) :
    sightingsOf (.drains :: rest) = sightingsOf rest := rfl

@[simp] theorem sightingsOf_elapses (rest : List Happening) :
    sightingsOf (.elapses :: rest) = sightingsOf rest := rfl

@[simp] theorem sightingsOf_nil : sightingsOf [] = [] := rfl

@[simp] theorem ordersTo_append (index : Nat) (a b : List Happening) :
    ordersTo index (a ++ b) = ordersTo index a ++ ordersTo index b := List.filterMap_append

@[simp] theorem ordersTo_asSeen (index : Nat) (seen : List Sighting) :
    ordersTo index (asSeen seen) = [] := by
  induction seen with
  | nil => rfl
  | cons s rest ih => exact ih

@[simp] theorem ordersTo_drains (index : Nat) (rest : List Happening) :
    ordersTo index (.drains :: rest) = ordersTo index rest := rfl

@[simp] theorem ordersTo_elapses (index : Nat) (rest : List Happening) :
    ordersTo index (.elapses :: rest) = ordersTo index rest := rfl

@[simp] theorem ordersTo_nil (index : Nat) : ordersTo index [] = [] := rfl

theorem ordersTo_tellAll {indices : List Nat} (once : indices.Nodup) (mode : StopMode) (index : Nat) :
    ordersTo index (tellAll mode indices) = if index ∈ indices then [mode] else [] := by
  induction indices with
  | nil => rfl
  | cons first rest ih =>
      obtain ⟨fresh, once⟩ := List.nodup_cons.mp once
      have tail := ih once
      rw [tellAll, List.map_cons, ordersTo, List.filterMap_cons]
      by_cases here : first = index
      · subst here
        rw [if_neg fresh] at tail
        simpa [Happening.orderTo?, ordersTo, tellAll] using tail
      · simpa [Happening.orderTo?, ordersTo, tellAll, here, Ne.symm here] using tail

namespace Controller

def living (c : Controller) : List Nat := (c.slots.zipIdx.filter (·.1.state.isAlive)).map (·.2)

theorem told_messages (c : Controller) (mode : StopMode) :
    (c.messages mode).map .told = tellAll mode c.living := by
  rw [messages, living, tellAll, List.map_map, List.map_map]
  rfl

theorem living_nodup (c : Controller) : c.living.Nodup := by
  have places : (c.slots.zipIdx.map (·.2)).Nodup := by
    rw [List.zipIdx_map_snd]
    exact List.nodup_range'
  exact places.sublist (List.filter_sublist.map _)

theorem mem_living {index : Nat} :
    index ∈ c.living ↔ ∃ s, c.slots[index]? = some s ∧ s.state.isAlive = true := by
  simp [living, List.mem_zipIdx_iff_getElem?, and_comm]

end Controller

theorem Tells.living_iff {index : Nat} {own : List Sighting} {s : Slot} (tells : Tells index own s) :
    s.state.isAlive = true ↔ Living own index := by
  constructor
  · intro alive
    cases tells with
    | pending state =>
        rw [state] at alive
        cases alive
    | refused state =>
        rw [state] at alive
        cases alive
    | alive => exact ⟨⟨_, List.mem_singleton.mpr rfl⟩, by simp⟩
    | @ended s id status asked state =>
        rcases endState_cases asked status with other | other <;>
          (rw [state, other] at alive; cases alive)
  · rintro ⟨⟨id, started⟩, lasting⟩
    exact (tells.started started lasting).2.1

theorem living_about {seen : List Sighting} {index : Nat} :
    Living (about seen index) index ↔ Living seen index := by
  constructor
  · rintro ⟨⟨id, started⟩, lasting⟩
    exact ⟨⟨id, (mem_about.mp started).1⟩,
      fun status asked member => lasting status asked (mem_about.mpr ⟨member, rfl⟩)⟩
  · rintro ⟨⟨id, started⟩, lasting⟩
    exact ⟨⟨id, mem_about.mpr ⟨started, rfl⟩⟩,
      fun status asked member => lasting status asked (mem_about.mp member).1⟩

/-- A controller that fits what was seen, and tries no more processes than there are. -/
structure Tracked (processes : List ResolvedProcess) (seen : List Sighting) (c : Controller) : Prop where
  sound : Sound processes seen c
  within : c.attempted ≤ c.slots.length

theorem tracked_ofProcesses (processes : List ResolvedProcess) :
    Tracked processes [] (Controller.ofProcesses processes) :=
  ⟨sound_ofProcesses processes, Nat.zero_le _⟩

theorem tracked_act {arrived : List Arrival} {seen' : List Sighting} {sent : List StopMessage}
    {c' : Controller} (act : Act arrived c seen' sent c') (accounted : Accounted (seen ++ seen'))
    (tracked : Tracked processes seen c) : Tracked processes (seen ++ seen') c' := by
  refine ⟨sound_act act accounted tracked.sound, ?_⟩
  have within := tracked.within
  cases act with
  | launch | tell | run | force | finish => exact within
  | exit e => simpa [Controller.onExit] using within
  | attempt start launching untried =>
      have size : (c.attempt start).slots.length = c.slots.length := Controller.update_size ..
      rw [size]
      exact untried
  | drain => simpa [Controller.askToStop, Controller.publish, Controller.enter] using within

theorem tracked_acts {arrived : List Arrival} {seen' : List Sighting} {sent : List StopMessage}
    {c' : Controller} (acts : Acts arrived c seen' sent c') (accounted : Accounted (seen ++ seen'))
    (tracked : Tracked processes seen c) : Tracked processes (seen ++ seen') c' :=
  @acts_keep arrived (fun seen _ c => Tracked processes seen c) (fun act => tracked_act act) c c' seen
    seen' [] sent acts accounted tracked

theorem Tracked.mem_living (tracked : Tracked processes seen c) (index : Nat) :
    index ∈ c.living ↔ Living seen index := by
  rw [Controller.mem_living]
  constructor
  · rintro ⟨s, found, alive⟩
    exact living_about.mp ((tracked.sound.matched.tells found).living_iff.mp alive)
  · intro living
    obtain ⟨id, started⟩ := living.started
    have tried := (tracked.sound.starts index).mp ⟨_, started⟩
    have found := List.getElem?_eq_getElem (tried.trans_le tracked.within)
    exact ⟨_, found, (tracked.sound.matched.tells found).living_iff.mpr (living_about.mpr living)⟩

theorem sightingsOf_happenings (c : Controller) (e : Event) (answer : Controller × List StopMessage) :
    sightingsOf (c.happenings e answer) = c.sightings e := by
  have passed : sightingsOf (c.passage answer.1) = [] := by
    unfold Controller.passage
    split_ifs <;> rfl
  have elapsed : sightingsOf (if e.isElapse then [.elapses] else []) = [] := by
    split_ifs <;> rfl
  simp [Controller.happenings, passed, elapsed]

theorem sightingsOf_launchHappenings (c : Controller) : sightingsOf c.launchHappenings = [] := by
  have passed : sightingsOf (c.passage c.launch.1) = [] := by
    unfold Controller.passage
    split_ifs <;> rfl
  simp [Controller.launchHappenings, passed]

theorem Chronicle.course (chronicle : Chronicle processes history c) :
    ∃ arrived sent, Course processes arrived (sightingsOf history) sent c := by
  induction chronicle with
  | launched =>
      rw [sightingsOf_launchHappenings]
      exact ⟨_, _, .launched⟩
  | step chronicle stepped ih =>
      obtain ⟨arrived, sent, course⟩ := ih
      rw [sightingsOf_append, sightingsOf_happenings]
      exact ⟨_, _, course.step stepped⟩

end RegisterPlane
