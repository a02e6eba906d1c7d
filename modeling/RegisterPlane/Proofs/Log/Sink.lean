import RegisterPlane.Log.Sink
import RegisterPlane.Proofs.Log.Rendering

/-!
Runs of a sink. Whatever the order in which senders get their lines into the queue, the log has that
order, and a run that can go no further has written every line.
-/

namespace RegisterPlane.Sink

variable {programs : List (List LogLine)} {sink sink' : Sink} {act : Act}

/-- What an act does to a sink, where it is the time for it. -/
inductive Stepped (sink : Sink) : Act → Sink → Prop where
  | send (sender : Nat) (line : LogLine) (pending : List LogLine)
      (next : sink.senders[sender]? = some (some (line :: pending)))
      (room : sink.queue.length < capacity) :
      Stepped sink (.send sender) { sink with
        senders := sink.senders.set sender (some pending), queue := sink.queue ++ [line] }
  | leave (sender : Nat) (next : sink.senders[sender]? = some (some [])) :
      Stepped sink (.leave sender) { sink with senders := sink.senders.set sender none }
  | write (line : LogLine) (queue : List LogLine) (next : sink.queue = line :: queue) :
      Stepped sink .write { sink with
        queue := queue, count := sink.count + 1
        written := sink.written ++ Text.Utf8.encode (line.render (sink.count + 1)) }
  | finish (drained : sink.queue = []) (gone : ∀ sender ∈ sink.senders, sender = none)
      (working : sink.returned = none) :
      Stepped sink .finish { sink with returned := some sink.count }

theorem stepped_of_step (stepped : sink.step act = some sink') : Stepped sink act sink' := by
  cases act with
  | send sender =>
      simp only [step] at stepped
      split at stepped
      · rename_i line pending next
        split at stepped
        · rename_i room
          cases stepped
          exact .send sender line pending next room
        · cases stepped
      · cases stepped
  | leave sender =>
      simp only [step] at stepped
      split at stepped
      · rename_i next
        cases stepped
        exact .leave sender next
      · cases stepped
  | write =>
      simp only [step] at stepped
      split at stepped
      · rename_i line queue next
        cases stepped
        exact .write line queue next
      · cases stepped
  | finish =>
      simp only [step] at stepped
      split at stepped
      · rename_i done
        cases stepped
        exact .finish done.1 done.2.1 done.2.2
      · cases stepped

/-! Sums over the senders. -/

theorem sum_set {α : Type} (weight : α → Nat) {xs : List α} {place : Nat} {x : α} (y : α)
    (here : xs[place]? = some x) :
    ((xs.set place y).map weight).sum + weight x = (xs.map weight).sum + weight y := by
  induction xs generalizing place with
  | nil => cases here
  | cons first rest ih =>
      cases place with
      | zero =>
          cases here
          simp only [List.set_cons_zero, List.map_cons, List.sum_cons]
          omega
      | succ place =>
          have others := ih here
          simp only [List.set_cons_succ, List.map_cons, List.sum_cons]
          omega

def owed (sender : Option (List LogLine)) : Nat := (sender.getD []).length

/-- How many acts a sender is still good for: two for each line and one to leave. -/
def effort : Option (List LogLine) → Nat
  | some pending => 2 * pending.length + 1
  | none => 0

def remaining (sink : Sink) : Nat :=
  (sink.senders.map effort).sum + sink.queue.length + if sink.returned = none then 1 else 0

theorem remaining_stepped (stepped : Stepped sink act sink') :
    sink.remaining = sink'.remaining + 1 := by
  cases stepped with
  | send sender line pending next room =>
      have moved := sum_set effort (some pending) next
      simp only [effort, List.length_cons] at moved
      simp only [remaining, List.length_append, List.length_singleton]
      omega
  | leave sender next =>
      have moved := sum_set effort none next
      simp only [effort, List.length_nil] at moved
      simp only [remaining]
      omega
  | write line queue next =>
      simp only [remaining, next, List.length_cons]
      omega
  | finish drained gone working => simp [remaining, working]

/-! Which line is where. -/

/-- The lines of one sender among lines with their senders. -/
def lane (sender : Nat) (order : List (Nat × LogLine)) : List LogLine :=
  (order.filter (·.1 = sender)).map (·.2)

def pending (sink : Sink) (sender : Nat) : List LogLine := (sink.senders.getD sender none).getD []

/-- Every line is accounted for: `order` is the order in which lines came into the queue, with their
senders, and `taken` are those that have been written. -/
structure Accounts (programs : List (List LogLine)) (order : List (Nat × LogLine))
    (taken : List LogLine) (sink : Sink) : Prop where
  sent : ∀ sender, lane sender order ++ sink.pending sender = programs.getD sender []
  total : order.length + (sink.senders.map owed).sum = (programs.map List.length).sum
  queued : order.map (·.2) = taken ++ sink.queue
  numbered : sink.count = taken.length
  written : sink.written = Text.Utf8.encode (LogLine.renderAll taken)
  bounded : sink.queue.length ≤ capacity
  returned : ∀ n, sink.returned = some n →
    n = sink.count ∧ sink.queue = [] ∧ ∀ sender ∈ sink.senders, sender = none

theorem lane_concat (sender other : Nat) (order : List (Nat × LogLine)) (line : LogLine) :
    lane sender (order ++ [(other, line)]) =
      lane sender order ++ if other = sender then [line] else [] := by
  unfold lane
  rw [List.filter_append, List.map_append, List.filter_singleton]
  by_cases same : other = sender <;> simp [same]

theorem accounts_start (programs : List (List LogLine)) : Accounts programs [] [] (start programs) where
  sent := by
    intro sender
    simp only [lane, pending, start, List.getD_eq_getElem?_getD, List.getElem?_map]
    cases programs[sender]? <;> rfl
  total := by
    simp [start, owed, Function.comp_def]
  queued := rfl
  numbered := rfl
  written := Text.Utf8.encode_empty.symm
  bounded := Nat.zero_le _
  returned := by
    intro n done
    cases done

theorem pending_of_present {sender : Nat} {lines : List LogLine}
    (here : sink.senders[sender]? = some (some lines)) : sink.pending sender = lines := by
  rw [Sink.pending, List.getD_eq_getElem?_getD, here]
  rfl

theorem pending_set {sender : Nat} {before after : Option (List LogLine)}
    (here : sink.senders[sender]? = some before) (other : Nat) :
    ((sink.senders.set sender after).getD other none).getD [] =
      if sender = other then after.getD [] else sink.pending other := by
  obtain ⟨inside, -⟩ := List.getElem?_eq_some_iff.mp here
  unfold Sink.pending
  simp only [List.getD_eq_getElem?_getD, List.getElem?_set]
  by_cases same : sender = other
  · rw [if_pos same, if_pos same, if_pos (same ▸ inside)]
    rfl
  · rw [if_neg same, if_neg same]

theorem Accounts.not_returned {order : List (Nat × LogLine)} {taken : List LogLine}
    (accounts : Accounts programs order taken sink) {sender : Nat} {lines : List LogLine}
    (here : sink.senders[sender]? = some (some lines)) (n : Nat) : sink.returned ≠ some n := by
  intro done
  have gone := (accounts.returned n done).2.2 _ (List.mem_of_getElem? here)
  cases gone

theorem accounts_stepped {order : List (Nat × LogLine)} {taken : List LogLine}
    (accounts : Accounts programs order taken sink) (stepped : Stepped sink act sink') :
    ∃ order' taken', Accounts programs order' taken' sink' := by
  have working := @accounts.not_returned
  obtain ⟨sent, total, queued, numbered, written, bounded, returned⟩ := accounts
  cases stepped with
  | send sender line pending next room =>
      -- the line leaves its sender and ends the sender's lane, which together stay what they were
      refine ⟨order ++ [(sender, line)], taken, ?_, ?_, ?_, numbered, written, ?_, ?_⟩
      · intro other
        unfold Sink.pending
        rw [lane_concat, pending_set next, List.append_assoc, ← sent other]
        by_cases same : sender = other
        · rw [if_pos same, if_pos same, ← same, pending_of_present next]
          rfl
        · rw [if_neg same, if_neg same, List.nil_append]
      · have moved := sum_set owed (some pending) next
        simp only [owed, Option.getD_some, List.length_cons] at moved
        rw [List.length_append, List.length_singleton]
        dsimp only
        omega
      · rw [List.map_append, queued, List.append_assoc]
        rfl
      · rw [List.length_append, List.length_singleton]
        omega
      · intro n done
        exact absurd done (working next n)
  | leave sender next =>
      refine ⟨order, taken, ?_, ?_, queued, numbered, written, bounded, ?_⟩
      · intro other
        unfold Sink.pending
        rw [pending_set next, ← sent other]
        by_cases same : sender = other
        · rw [if_pos same, ← same, pending_of_present next]
          rfl
        · rw [if_neg same]
      · have moved := sum_set owed none next
        simp only [owed, Option.getD_some, Option.getD_none, List.length_nil] at moved
        dsimp only
        omega
      · intro n done
        exact absurd done (working next n)
  | write line queue next =>
      refine ⟨order, taken ++ [line], sent, total, ?_, ?_, ?_, ?_, ?_⟩
      · rw [queued, next, List.append_assoc]
        rfl
      · rw [numbered, List.length_append]
        rfl
      · rw [LogLine.renderAll_concat, Text.Utf8.encode_append, ← written, ← numbered]
      · rw [next, List.length_cons] at bounded
        exact Nat.le_of_succ_le bounded
      · intro n done
        have drained := (returned n done).2.1
        rw [next] at drained
        cases drained
  | finish drained gone working =>
      refine ⟨order, taken, sent, total, queued, numbered, written, bounded, ?_⟩
      intro n done
      exact ⟨(Option.some.inj done).symm, drained, gone⟩

theorem run_cons {acts : List Act} (ran : sink.run (act :: acts) = some sink') :
    ∃ between, Stepped sink act between ∧ between.run acts = some sink' := by
  obtain ⟨between, stepped, rest⟩ := Option.bind_eq_some_iff.mp ran
  exact ⟨between, stepped_of_step stepped, rest⟩

theorem accounts_run {acts : List Act} {order : List (Nat × LogLine)} {taken : List LogLine}
    (accounts : Accounts programs order taken sink) (ran : sink.run acts = some sink') :
    ∃ order' taken', Accounts programs order' taken' sink' := by
  induction acts generalizing sink order taken with
  | nil =>
      cases ran
      exact ⟨order, taken, accounts⟩
  | cons act acts ih =>
      obtain ⟨between, stepped, rest⟩ := run_cons ran
      obtain ⟨order', taken', accounts'⟩ := accounts_stepped accounts stepped
      exact ih accounts' rest

theorem remaining_run {acts : List Act} (ran : sink.run acts = some sink') :
    sink.remaining = acts.length + sink'.remaining := by
  induction acts generalizing sink with
  | nil =>
      cases ran
      exact (Nat.zero_add _).symm
  | cons act acts ih =>
      obtain ⟨between, stepped, rest⟩ := run_cons ran
      rw [remaining_stepped stepped, ih rest, List.length_cons]
      omega

theorem remaining_start (programs : List (List LogLine)) :
    (start programs).remaining = 2 * (programs.map List.length).sum + programs.length + 1 := by
  have efforts : ((programs.map some).map effort).sum =
      2 * (programs.map List.length).sum + programs.length := by
    induction programs with
    | nil => rfl
    | cons first rest ih =>
        simp only [List.map_cons, List.sum_cons, List.length_cons, effort, ih]
        omega
  simp [remaining, start, ← efforts]

theorem step_of_working (working : sink.returned = none) : ∃ act, (sink.step act).isSome := by
  cases waiting : sink.queue with
  | cons line queue => exact ⟨.write, by simp [step, waiting]⟩
  | nil =>
      by_cases gone : ∀ sender ∈ sink.senders, sender = none
      · exact ⟨.finish, by simpa [step, waiting, working] using gone⟩
      · push Not at gone
        obtain ⟨sender, member, left⟩ := gone
        obtain ⟨place, here⟩ := List.getElem?_of_mem member
        obtain ⟨pending, rfl⟩ := Option.ne_none_iff_exists'.mp left
        cases pending with
        | nil => exact ⟨.leave place, by simp [step, here]⟩
        | cons line pending => exact ⟨.send place, by simp [step, here, waiting, capacity]⟩

theorem accounts_returned {order : List (Nat × LogLine)} {taken : List LogLine}
    (accounts : Accounts programs order taken sink) {n : Nat} (done : sink.returned = some n) :
    n = (programs.map List.length).sum ∧ order.length = n ∧
      (∀ sender, lane sender order = programs.getD sender []) ∧
      sink.written = Text.Utf8.encode (LogLine.renderAll (order.map (·.2))) := by
  obtain ⟨count, drained, gone⟩ := accounts.returned n done
  have all : order.map (·.2) = taken := by
    rw [accounts.queued, drained, List.append_nil]
  have size : order.length = n := by
    rw [count, accounts.numbered, ← all, List.length_map]
  have settled : (sink.senders.map owed).sum = 0 := by
    rw [List.sum_eq_zero_iff_forall_eq_nat]
    intro lines member
    obtain ⟨sender, here, rfl⟩ := List.mem_map.mp member
    rw [gone sender here]
    rfl
  have total := accounts.total
  rw [settled, size] at total
  refine ⟨total, size, ?_, ?_⟩
  · intro sender
    have idle : sink.pending sender = [] := by
      unfold Sink.pending
      rw [List.getD_eq_getElem?_getD]
      cases here : sink.senders[sender]? with
      | none => rfl
      | some left => rw [gone left (List.mem_of_getElem? here)]; rfl
    rw [← accounts.sent sender, idle, List.append_nil]
  · rw [all, accounts.written]

/-- The combined log is complete, ordered and unambiguous. -/
theorem combined_log (programs : List (List LogLine)) {acts : List Act} {sink : Sink}
    (ran : (start programs).run acts = some sink) :
    (∃ order taken, Accounts programs order taken sink) ∧
      acts.length + sink.remaining = 2 * (programs.map List.length).sum + programs.length + 1 ∧
      (sink.returned = none → ∃ act, (sink.step act).isSome) ∧
      (∀ n, sink.returned = some n →
        n = (programs.map List.length).sum ∧ ∃ order : List (Nat × LogLine), order.length = n ∧
          (∀ sender, lane sender order = programs.getD sender []) ∧
          sink.written = Text.Utf8.encode (LogLine.renderAll (order.map (·.2)))) ∧
      ∀ lines lines' : List LogLine, (∀ line ∈ lines, line.IsLegible) →
        (∀ line ∈ lines', line.IsLegible) →
        Text.Utf8.encode (LogLine.renderAll lines) = Text.Utf8.encode (LogLine.renderAll lines') →
        lines = lines' := by
  obtain ⟨order, taken, accounts⟩ := accounts_run (accounts_start programs) ran
  refine ⟨⟨order, taken, accounts⟩, ?_, step_of_working, ?_, ?_⟩
  · rw [← remaining_run ran, remaining_start]
  · intro n done
    obtain ⟨total, size, lanes, written⟩ := accounts_returned accounts done
    exact ⟨total, order, size, lanes, written⟩
  · intro lines lines' legible legible' same
    exact LogLine.renderAll_injective legible legible' same

def pumpPrograms : List (List LogLine) :=
  [[⟨"pump", .stdout, "primed"⟩, ⟨"pump", .stdout, ""⟩], [⟨"pump|", .stderr, "2 pump| dry"⟩]]

def pumpActs : List Act :=
  [.send 0, .send 1, .write, .leave 1, .send 0, .write, .leave 0, .write, .finish]

theorem combined_log_pump : ∃ sink, (start pumpPrograms).run pumpActs = some sink ∧
    sink.returned = some 3 ∧ ∃ order : List (Nat × LogLine), order.length = 3 ∧
      (∀ sender, lane sender order = pumpPrograms.getD sender []) ∧
      sink.written = Text.Utf8.encode (LogLine.renderAll (order.map (·.2))) := by
  have runs : ((start pumpPrograms).run pumpActs).isSome = true := by decide
  obtain ⟨sink, ran⟩ := Option.isSome_iff_exists.mp runs
  have returned : ((start pumpPrograms).run pumpActs).bind returned = some 3 := by decide
  rw [ran] at returned
  obtain ⟨-, -, -, finished, -⟩ := combined_log pumpPrograms ran
  obtain ⟨-, order, size, lanes, written⟩ := finished 3 returned
  exact ⟨sink, ran, returned, order, size, lanes, written⟩

end RegisterPlane.Sink
