import Mathlib.Data.List.Forall2
import RegisterPlane.Proofs.Group.Verdict

namespace RegisterPlane

theorem forall₂_trans {α : Type} {R : α → α → Prop} (trans : ∀ {x y z}, R x y → R y z → R x z)
    {l l' l'' : List α} (first : List.Forall₂ R l l') (second : List.Forall₂ R l' l'') :
    List.Forall₂ R l l'' := by
  induction first generalizing l'' with
  | nil => exact second
  | cons here _ ih =>
      cases second with
      | cons next rest => exact .cons (trans here next) (ih rest)

theorem forall₂_modify {α : Type} {R : α → α → Prop} (refl : ∀ x, R x x) {l : List α} {index : Nat}
    {change : α → α} (there : ∀ x, l[index]? = some x → R x (change x)) :
    List.Forall₂ R l (l.modify index change) := by
  induction l generalizing index with
  | nil => simp
  | cons head rest ih =>
      cases index with
      | zero => exact .cons (there head rfl) (List.forall₂_same.mpr fun x _ => refl x)
      | succ index => exact .cons (refl head) (ih fun x found => there x found)

def ProcessState.place : ProcessState → Nat
  | .pending => 0
  | .starting => 1
  | .running => 2
  | .stopping => 3
  | .stopped => 4
  | .crashed => 4

/-- A process stays as it is, or goes on. -/
def ProcessState.Leads (before after : ProcessState) : Prop :=
  before = after ∨ before.place < after.place

structure ProcessReport.Leads (before after : ProcessReport) : Prop where
  name : before.name = after.name
  required : before.required = after.required
  state : before.state.Leads after.state

namespace GroupReport

def Leads (before after : GroupReport) : Prop :=
  List.Forall₂ ProcessReport.Leads before.processes after.processes

/-- The processes tried come first, and all others are pending. -/
def Queued (r : GroupReport) : Prop :=
  ∃ tried, ∀ (index : Nat) (p : ProcessReport), r.processes[index]? = some p →
    (p.state = .pending ↔ tried ≤ index)

def Untried (r : GroupReport) : Prop := ∃ p ∈ r.processes, p.state = .pending

def Failing (r : GroupReport) : Prop := ∃ p ∈ r.processes, p.required = true ∧ p.state = .crashed

def Idle (r : GroupReport) : Prop := ∀ p ∈ r.processes, p.state.isAlive = false

end GroupReport

theorem ProcessState.Leads.trans {a b c : ProcessState} (first : a.Leads b) (second : b.Leads c) :
    a.Leads c := by
  rcases first with rfl | first
  · exact second
  · rcases second with rfl | second
    · exact .inr first
    · exact .inr (first.trans second)

theorem ProcessState.Leads.pending {a : ProcessState} (leads : a.Leads .pending) : a = .pending := by
  rcases leads with same | less
  · exact same
  · exact absurd less (Nat.not_lt_zero _)

theorem ProcessState.Leads.crashed {a : ProcessState} (leads : crashed.Leads a) : a = .crashed := by
  rcases leads with same | more
  · exact same.symm
  · cases a <;> exact absurd more (by decide)

theorem ProcessReport.Leads.refl (p : ProcessReport) : p.Leads p := ⟨rfl, rfl, .inl rfl⟩

theorem ProcessReport.Leads.trans {p q r : ProcessReport} (first : p.Leads q) (second : q.Leads r) :
    p.Leads r :=
  ⟨first.name.trans second.name, first.required.trans second.required, first.state.trans second.state⟩

namespace GroupReport

variable {before after : GroupReport}

theorem Leads.refl (r : GroupReport) : r.Leads r :=
  List.forall₂_same.mpr fun p _ => ProcessReport.Leads.refl p

theorem Leads.trans {r r' r'' : GroupReport} (first : r.Leads r') (second : r'.Leads r'') :
    r.Leads r'' :=
  forall₂_trans (fun here next => here.trans next) first second

theorem Leads.untried (leads : before.Leads after) (untried : after.Untried) : before.Untried := by
  obtain ⟨p', there, pending⟩ := untried
  obtain ⟨p, here, on⟩ := forall₂_mem_right leads there
  exact ⟨p, here, (pending ▸ on.state).pending⟩

theorem Leads.failing (leads : before.Leads after) (failing : before.Failing) : after.Failing := by
  obtain ⟨p, here, required, crashed⟩ := failing
  obtain ⟨p', there, on⟩ := forall₂_mem_left leads here
  exact ⟨p', there, on.required ▸ required, (crashed ▸ on.state).crashed⟩

end GroupReport

theorem ProcessState.leads_of_alive {state after : ProcessState} (alive : state.isAlive = true)
    (gone : after = .stopped ∨ after = .crashed) : state.Leads after := by
  unfold ProcessState.Leads
  revert alive
  rcases gone with rfl | rfl <;> cases state <;> decide

theorem ProcessState.leads_stopping {state : ProcessState} (alive : state.isAlive = true) :
    state.Leads .stopping := by
  unfold ProcessState.Leads
  revert alive
  cases state <;> decide

theorem Slot.askToStop_leads (s : Slot) : s.report.Leads s.askToStop.report := by
  unfold Slot.askToStop
  split_ifs with alive
  · exact ⟨rfl, rfl, ProcessState.leads_stopping alive⟩
  · exact ProcessReport.Leads.refl _

theorem Slot.askToStop_isAlive (s : Slot) : s.askToStop.state.isAlive = s.state.isAlive := by
  unfold Slot.askToStop
  split_ifs with alive
  · exact alive.symm
  · rfl

namespace Controller

theorem report_idle_iff (c : Controller) (logLines : Nat) :
    (c.report logLines).Idle ↔ c.isAlive = false := by
  simp [GroupReport.Idle, report, isAlive, Slot.report]

theorem leads_update (c : Controller) (index : Nat) {change : Slot → Slot}
    (keeps : ∀ s, (change s).process = s.process)
    (leads : ∀ s, c.slots[index]? = some s → s.state.Leads (change s).state) :
    (c.report 0).Leads ((c.update index change).report 0) := by
  unfold GroupReport.Leads report
  rw [update_slots, List.forall₂_map_left_iff, List.forall₂_map_right_iff]
  refine forall₂_modify (fun s => ProcessReport.Leads.refl s.report) fun s found => ?_
  have name : s.process.name = (change s).process.name := by rw [keeps s]
  have required : s.process.required = (change s).process.required := by rw [keeps s]
  exact ⟨name, required, leads s found⟩

theorem leads_askToStop (c : Controller) : (c.report 0).Leads (c.askToStop.report 0) := by
  unfold GroupReport.Leads report askToStop publish
  rw [List.forall₂_map_left_iff, List.forall₂_map_right_iff, List.forall₂_map_right_iff,
    List.forall₂_same]
  exact fun s _ => s.askToStop_leads

theorem idle_askToStop (c : Controller) (idle : (c.report 0).Idle) : (c.askToStop.report 0).Idle := by
  rw [report_idle_iff] at idle ⊢
  simpa [isAlive, askToStop, publish, Slot.askToStop_isAlive] using idle

end Controller

variable {processes : List ResolvedProcess} {seen : List Sighting} {c : Controller}

theorem Tells.pending_iff {index : Nat} {own : List Sighting} {s : Slot} (tells : Tells index own s) :
    s.state = .pending ↔ ∀ outcome, .start index outcome ∉ own := by
  constructor
  · intro pending outcome started
    cases tells with
    | pending => cases started
    | refused state =>
        rw [state] at pending
        cases pending
    | alive state =>
        rw [pending] at state
        rcases state with state | state <;> cases state
    | @ended s id status asked state =>
        rw [pending] at state
        rcases endState_cases asked status with other | other <;> (rw [other] at state; cases state)
  · intro none
    cases tells with
    | pending state => exact state
    | refused => exact absurd List.mem_cons_self (none _)
    | alive => exact absurd List.mem_cons_self (none _)
    | ended => exact absurd List.mem_cons_self (none _)

theorem Sound.pending_iff (sound : Sound processes seen c) {index : Nat} {s : Slot}
    (found : c.slots[index]? = some s) : s.state = .pending ↔ c.attempted ≤ index := by
  rw [(sound.matched.tells found).pending_iff, ← not_lt, ← sound.starts index, not_exists]
  refine forall_congr' fun outcome => not_congr ?_
  exact mem_about.trans (and_iff_left rfl)

theorem Sound.queued (sound : Sound processes seen c) : (c.report 0).Queued := by
  refine ⟨c.attempted, fun index p there => ?_⟩
  simp only [Controller.report, List.getElem?_map] at there
  obtain ⟨s, found, rfl⟩ := Option.map_eq_some_iff.mp there
  exact sound.pending_iff found

theorem mem_report {index : Nat} {s : Slot} (found : c.slots[index]? = some s) (logLines : Nat) :
    s.report ∈ (c.report logLines).processes :=
  List.mem_map_of_mem (List.mem_of_getElem? found)

theorem Sound.exit_leads (sound : Sound processes seen c) {e : ProcessExit}
    (accounted : Accounted (seen ++ [c.sightExit e])) :
    (c.report 0).Leads ((c.onExit e).report 0) := by
  refine c.leads_update e.index (fun s => s.exit_process e.status) fun s found => ?_
  obtain ⟨-, -, alive, -⟩ := sound.exiting accounted found
  rw [s.exit_state e.status]
  exact ProcessState.leads_of_alive alive (endState_cases _ _)

theorem Sound.exit_idle (sound : Sound processes seen c) {e : ProcessExit}
    (accounted : Accounted (seen ++ [c.sightExit e])) (idle : (c.report 0).Idle) :
    ((c.onExit e).report 0).Idle := by
  cases found : c.slots[e.index]? with
  | none =>
      have same : c.onExit e = c := by simp [Controller.onExit, Controller.update, found]
      rw [same]
      exact idle
  | some s =>
      obtain ⟨-, -, alive, -⟩ := sound.exiting accounted found
      have gone : s.state.isAlive = false := idle s.report (mem_report found 0)
      rw [alive] at gone
      cases gone

theorem Sound.attempt_leads (sound : Sound processes seen c) (start : StartOutcome) :
    (c.report 0).Leads ((c.attempt start).report 0) := by
  refine c.leads_update c.attempted (fun s => s.attempt_process start) fun s found => ?_
  rw [(sound.pending_iff found).mpr le_rfl]
  cases start <;> exact .inr (Nat.succ_pos _)

end RegisterPlane
