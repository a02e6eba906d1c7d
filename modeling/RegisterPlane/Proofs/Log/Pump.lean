import RegisterPlane.Group.Rehearsal
import RegisterPlane.Proofs.Text.Division
import RegisterPlane.Proofs.Text.Utf8

/-!
Runs of a pump. However its output is cut into chunks, what a pump hands on are the texts of the lines of
the whole output, and it reads on when they are no longer taken.
-/

namespace RegisterPlane

/-! The texts of an output. -/

theorem noFeed_of_lossy {octets : List UInt8} {cs : List Char} (lossy : Text.Utf8.Lossy octets cs)
    (bare : 10 ∉ octets) : '\n' ∉ cs := by
  intro member
  exact bare (lossy.mem member (by decide) (by decide))

theorem noReturn_of_lossy {octets : List UInt8} {cs : List Char} (lossy : Text.Utf8.Lossy octets cs)
    (kept : octets.getLast? ≠ some 13) : cs.getLast? ≠ some '\r' := by
  intro last
  obtain ⟨front, rfl⟩ := List.getLast?_eq_some_iff.mp last
  obtain ⟨before, rfl⟩ : [13] <:+ octets := lossy.last (by decide)
  exact kept List.getLast?_concat

theorem divided_decode {octets : List UInt8} {bodies : List (List UInt8)}
    (divided : Text.Divided 10 13 octets bodies) :
    Text.Divided '\n' '\r' (Text.Utf8.decode octets) (bodies.map Text.Utf8.decode) := by
  have read : ∀ octets, Text.Utf8.Lossy octets (Text.Utf8.decode octets) :=
    fun octets => Text.Utf8.lossy_iff.mpr rfl
  -- line feeds and carriage returns are ASCII, so that no character goes on across them
  have feed : ∀ front back,
      Text.Utf8.decode (front ++ 10 :: back) = Text.Utf8.decode front ++ '\n' :: Text.Utf8.decode back :=
    fun front back => Text.Utf8.decode_append_ascii front back (by decide)
  have return' : ∀ front back,
      Text.Utf8.decode (front ++ 13 :: back) = Text.Utf8.decode front ++ '\r' :: Text.Utf8.decode back :=
    fun front back => Text.Utf8.decode_append_ascii front back (by decide)
  induction divided with
  | nothing => exact .nothing
  | @unended rest filled bare =>
      refine .unended ?_ (noFeed_of_lossy (read rest) bare)
      intro empty
      have lossy := read rest
      rw [empty] at lossy
      exact filled lossy.eq_nil
  | @ended line xs lines bare kept later ih =>
      rw [feed]
      exact .ended (noFeed_of_lossy (read line) bare) (noReturn_of_lossy (read line) kept) ih
  | @returned line xs lines bare later ih =>
      have next : Text.Utf8.decode (10 :: xs) = '\n' :: Text.Utf8.decode xs := feed [] xs
      rw [return', next]
      exact .returned (noFeed_of_lossy (read line) bare) ih

theorem map_lineText_iff {bodies : List (List UInt8)} {texts : List String} :
    bodies.map lineText = texts ↔ bodies.map Text.Utf8.decode = texts.map String.toList := by
  constructor
  · rintro rfl
    simp [lineText]
  · intro same
    calc
      bodies.map lineText = (bodies.map Text.Utf8.decode).map String.ofList := by
        rw [List.map_map]
        rfl
      _ = (texts.map String.toList).map String.ofList := by rw [same]
      _ = texts := by simp

theorem outputTexts_iff (output : List UInt8) (texts : List String) :
    (∃ bodies, Text.Divided 10 13 output bodies ∧
      List.Forall₂ (fun body text => Text.Utf8.Lossy body text.toList) bodies texts) ↔
      outputTexts output = texts := by
  have decoded : ∀ bodies : List (List UInt8),
      List.Forall₂ (fun body text => Text.Utf8.Lossy body text.toList) bodies texts ↔
        bodies.map lineText = texts := by
    intro bodies
    simp only [Text.Utf8.lossy_iff]
    rw [map_lineText_iff]
    calc
      List.Forall₂ (fun body text => Text.Utf8.decode body = text.toList) bodies texts ↔
          List.Forall₂ Eq (bodies.map Text.Utf8.decode) (texts.map String.toList) := by
        rw [List.forall₂_map_left_iff, List.forall₂_map_right_iff]
      _ ↔ bodies.map Text.Utf8.decode = texts.map String.toList := by rw [List.forall₂_eq_eq_eq]
  simp only [decoded, Text.divided_iff (show (13 : UInt8) ≠ 10 by decide)]
  constructor
  · rintro ⟨bodies, rfl, written⟩
    exact written
  · intro written
    exact ⟨_, rfl, written⟩

theorem outputTexts_decoded_iff (output : List UInt8) (texts : List String) :
    (∃ cs, Text.Utf8.Lossy output cs ∧ Text.Divided '\n' '\r' cs (texts.map String.toList)) ↔
      outputTexts output = texts := by
  have divided := divided_decode (Text.divided_lines output)
  rw [Text.divided_iff (by decide)] at divided
  simp only [Text.Utf8.lossy_iff, Text.divided_iff (show '\r' ≠ '\n' by decide)]
  unfold outputTexts
  rw [map_lineText_iff, ← divided]
  constructor
  · rintro ⟨cs, rfl, written⟩
    exact written
  · intro written
    exact ⟨_, rfl, written⟩

theorem bare_outputTexts (output : List UInt8) : ∀ text ∈ outputTexts output, '\n' ∉ text.toList := by
  obtain ⟨cs, -, divided⟩ := (outputTexts_decoded_iff output _).mpr rfl
  intro text member
  exact divided.bare _ (List.mem_map_of_mem member)

namespace Pump

variable {σ : Type} {send : σ → String → Bool × σ} {sink sink' : σ} {texts : List String}

inductive Takes (send : σ → String → Bool × σ) (sink : σ) : List String → σ → Prop
  | none : Takes send sink [] sink
  | next {texts : List String} {text : String} {between sink' : σ}
      (earlier : Takes send sink texts between) (taken : send between text = (true, sink')) :
      Takes send sink (texts ++ [text]) sink'

/-- What comes of texts that are handed on: all are taken, or the first ones, and nothing is sent after the
one that is not. -/
inductive HandsOn (send : σ → String → Bool × σ) (sink : σ) (texts : List String) : Bool → σ → Prop
  | all {sink' : σ} (taken : Takes send sink texts sink') : HandsOn send sink texts true sink'
  | closed {front rest : List String} {text : String} {between sink' : σ}
      (parts : texts = front ++ text :: rest) (taken : Takes send sink front between)
      (refused : send between text = (false, sink')) : HandsOn send sink texts false sink'

theorem HandsOn.forward {forwarding : Bool} (handed : HandsOn send sink texts forwarding sink')
    (more : List String) :
    HandsOn send sink (texts ++ more) (forward send forwarding sink' more).1
      (forward send forwarding sink' more).2 := by
  induction more generalizing texts forwarding sink' with
  | nil =>
      rw [List.append_nil]
      cases forwarding <;> exact handed
  | cons text more ih =>
      cases handed with
      -- a text has been refused before, so that this one is not sent
      | @closed front rest last between _ parts taken refused =>
          have parts' : texts ++ text :: more = front ++ last :: (rest ++ text :: more) := by
            rw [parts, List.append_assoc]
            rfl
          exact .closed parts' taken refused
      | all taken =>
          rw [List.append_cons, Pump.forward]
          cases answer : send sink' text with
          | mk accepted sink'' =>
              apply ih
              cases accepted with
              | true => exact .all (.next taken answer)
              | false => exact .closed rfl taken answer

/-- A pump that has read some octets. Those up to a line end it has handed on as their lines, and what
follows is pending. -/
structure Follows (send : σ → String → Bool × σ) (sink : σ) (octets : List UInt8) (p : Pump)
    (sink' : σ) : Prop where
  bare : 10 ∉ p.pending
  handed : ∃ ended bodies, ended ++ p.pending = octets ∧ Text.Complete 10 ended ∧
    Text.Divided 10 13 ended bodies ∧
    HandsOn send sink (bodies.map lineText) p.forwarding sink'

theorem follows_start (send : σ → String → Bool × σ) (sink : σ) : Follows send sink [] {} sink where
  bare := List.not_mem_nil
  handed := ⟨[], [], rfl, Text.complete_nil, .nothing, .all .none⟩

theorem Follows.read {octets : List UInt8} {p : Pump} (follows : Follows send sink octets p sink')
    (chunk : List UInt8) :
    Follows send sink (octets ++ chunk) (p.read send sink' chunk).1 (p.read send sink' chunk).2 := by
  obtain ⟨ended, bodies, rfl, complete, divided, handed⟩ := follows.handed
  -- what is pending is the beginning of the first line that the chunk completes
  obtain ⟨bare, ended', parts, complete', divided'⟩ := Text.cutLines_spec 10 13 (p.pending ++ chunk)
  refine ⟨bare, ended ++ ended', _, ?_, ?_, divided.append complete divided', ?_⟩
  · rw [List.append_assoc, List.append_assoc, ← parts]
    rfl
  · exact complete.append complete'
  · rw [List.map_append, List.map_map]
    exact handed.forward _

def readAll (send : σ → String → Bool × σ) (p : Pump) (sink : σ) (chunks : List (List UInt8)) : Pump × σ :=
  chunks.foldl (fun (p, sink) chunk => p.read send sink chunk) (p, sink)

theorem Follows.readAll {octets : List UInt8} {p : Pump} (follows : Follows send sink octets p sink')
    (chunks : List (List UInt8)) :
    Follows send sink (octets ++ chunks.flatten) (p.readAll send sink' chunks).1
      (p.readAll send sink' chunks).2 := by
  induction chunks generalizing octets p sink' with
  | nil =>
      rw [List.flatten_nil, List.append_nil]
      exact follows
  | cons chunk chunks ih =>
      rw [List.flatten_cons, ← List.append_assoc]
      exact ih (follows.read chunk)

theorem run_append (p : Pump) (sink : σ) (front back : List (List UInt8)) :
    p.run send sink (front ++ back) =
      (p.readAll send sink front).1.run send (p.readAll send sink front).2 back := by
  induction front generalizing p sink with
  | nil => rfl
  | cons chunk front ih => exact ih (p.read send sink chunk).1 (p.read send sink chunk).2

theorem Follows.finish {octets : List UInt8} {p : Pump} (follows : Follows send sink octets p sink') :
    HandsOn send sink (outputTexts octets) (p.finish send sink').1.forwarding (p.finish send sink').2 := by
  obtain ⟨ended, bodies, rfl, complete, divided, handed⟩ := follows.handed
  have texts : outputTexts (ended ++ p.pending) =
      bodies.map lineText ++ if p.pending = [] then [] else [lineText p.pending] := by
    unfold outputTexts
    by_cases empty : p.pending = []
    · rw [if_pos empty, empty, List.append_nil, List.append_nil,
        Text.lines_of_divided (by decide) divided]
    · have whole := divided.append complete (.unended empty follows.bare)
      rw [if_neg empty, Text.lines_of_divided (by decide) whole, List.map_append]
      rfl
  rw [texts]
  exact handed.forward _

theorem run_handsOn (send : σ → String → Bool × σ) (sink : σ) (chunks : List (List UInt8)) :
    HandsOn send sink (outputTexts chunks.flatten) (({} : Pump).run send sink chunks).1.forwarding
      (({} : Pump).run send sink chunks).2 := by
  have ended : ({} : Pump).run send sink (chunks ++ []) = _ := run_append {} sink chunks []
  rw [List.append_nil] at ended
  rw [ended]
  exact ((follows_start send sink).readAll chunks).finish

section Logged

variable {process : String} {stream : Stream} {log log' : Log}

theorem Takes.lines (taken : Takes (Rehearsal.sendLine process stream) log texts log')
    (isOpen : log.isOpen = true) :
    log' = { log with lines := log.lines ++ texts.map fun text => ⟨process, stream, text⟩ } := by
  induction taken with
  | none => simp
  | next earlier accepted ih =>
      rw [ih] at accepted
      simp only [Rehearsal.sendLine, Log.send, isOpen, if_true, Prod.mk.injEq, true_and] at accepted
      simp [← accepted, isOpen]

theorem HandsOn.lines {forwarding : Bool}
    (handed : HandsOn (Rehearsal.sendLine process stream) log texts forwarding log')
    (isOpen : log.isOpen = true) :
    log' = { log with lines := log.lines ++ texts.map fun text => ⟨process, stream, text⟩ } := by
  cases handed with
  | all taken => exact taken.lines isOpen
  | closed parts taken refused =>
      rw [taken.lines isOpen] at refused
      simp [Rehearsal.sendLine, Log.send, isOpen] at refused

end Logged

/-- The output of a process is handed on line by line. Its texts are those of its lines, each decoded alone,
and they are the same as those of the decoded output. However the output is cut into chunks, the texts are
sent in order as long as they are taken, all of them where the log is open. Every chunk is read, also
after a text that has not been taken. -/
theorem output_pumped (send : σ → String → Bool × σ) (sink : σ) (chunks : List (List UInt8)) :
    (∀ texts, (∃ bodies, Text.Divided 10 13 chunks.flatten bodies ∧
        List.Forall₂ (fun body text => Text.Utf8.Lossy body text.toList) bodies texts) ↔
          outputTexts chunks.flatten = texts) ∧
      (∀ texts, (∃ cs, Text.Utf8.Lossy chunks.flatten cs ∧
        Text.Divided '\n' '\r' cs (texts.map String.toList)) ↔ outputTexts chunks.flatten = texts) ∧
      (∀ text ∈ outputTexts chunks.flatten, '\n' ∉ text.toList) ∧
      HandsOn send sink (outputTexts chunks.flatten) (({} : Pump).run send sink chunks).1.forwarding
        (({} : Pump).run send sink chunks).2 ∧
      (∀ process stream (log : Log), log.isOpen = true →
        (({} : Pump).run (Rehearsal.sendLine process stream) log chunks).2 = { log with
          lines := log.lines ++ (outputTexts chunks.flatten).map fun text => ⟨process, stream, text⟩ }) ∧
      ∀ front back, front ++ back = chunks →
        Follows send sink front.flatten (({} : Pump).readAll send sink front).1
            (({} : Pump).readAll send sink front).2 ∧
          ({} : Pump).run send sink chunks =
            (({} : Pump).readAll send sink front).1.run send (({} : Pump).readAll send sink front).2 back := by
  refine ⟨outputTexts_iff _, outputTexts_decoded_iff _, bare_outputTexts _, run_handsOn send sink chunks,
    ?_, ?_⟩
  · intro process stream log isOpen
    exact (run_handsOn _ log chunks).lines isOpen
  · rintro front back rfl
    exact ⟨(follows_start send sink).readAll front, run_append {} sink front back⟩

example : outputTexts [0x61, 0xFF, 0xE2, 0x82, 13, 10, 10, 0xF0, 0x90, 13] =
    ["a\ufffd\ufffd", "", "\ufffd\r"] := by
  decide

end Pump

end RegisterPlane
