import RegisterPlane.Proofs.Json.Page
import RegisterPlane.Proofs.Node.Framing

/-!
A connection, whatever is sent on it. Lines that are no requests are answered and change nothing, blank
lines are not even answered, and requests are answered as if they were alone.
-/

namespace RegisterPlane.Server

open Wire

variable {σ : Type}

/-- What the store of a connection meets with: a line that arrives, or a change between lines, by time
or by others. -/
inductive Event (σ : Type) where
  | line (now : Timestamp) (text : String)
  | meanwhile (change : Store σ → Store σ)

namespace Event

def isAnswered : Event σ → Bool
  | line _ text => !isBlankLine text
  | meanwhile _ => false

def acts : Event σ → Bool
  | line _ text => (readRequest? text).isSome
  | meanwhile _ => true

end Event

variable (words : String → Option String)

/-- The responses on a connection, and the store that it leaves. -/
def serve (s : Store σ) : List (Event σ) → List Response × Store σ
  | [] => ([], s)
  | .meanwhile change :: events => serve (change s) events
  | .line now text :: events =>
    let (response, s') := answer s now text words
    let (responses, s'') := serve s' events
    (response.toList ++ responses, s'')

def written (responses : List Response) : String :=
  String.join ((responses.map writeResponse).map (· ++ "\n"))

theorem serve_line (s : Store σ) (now : Timestamp) (text : String) (events : List (Event σ)) :
    serve words s (.line now text :: events) =
      ((answer s now text words).1.toList ++ (serve words (answer s now text words).2 events).1,
        (serve words (answer s now text words).2 events).2) :=
  rfl

theorem serve_append (s : Store σ) (front back : List (Event σ)) :
    serve words s (front ++ back) =
      ((serve words s front).1 ++ (serve words (serve words s front).2 back).1,
        (serve words (serve words s front).2 back).2) := by
  induction front generalizing s with
  | nil => rfl
  | cons event front ih =>
      cases event with
      | meanwhile change => exact ih (change s)
      | line now text => rw [List.cons_append, serve_line, ih, serve_line, List.append_assoc]

theorem answerAll_serve (s : Store σ) (now : Timestamp) (lines : List String) :
    answerAll s now lines words = serve words s (lines.map (.line now)) := by
  induction lines generalizing s with
  | nil => rfl
  | cons text lines ih =>
      rw [List.map_cons, serve_line, ← ih]
      rfl

/-! One line. -/

theorem readRequest_blank {text : String} (blank : isBlankLine text = true) : readRequest? text = none := by
  have every : ∀ c ∈ text.toList, Text.isBlank c = true := List.all_eq_true.mp blank
  rw [readRequest?, Json.read_blank every]
  rfl

theorem written_of_request {text : String} {request : Request} (reads : readRequest? text = some request) :
    isBlankLine text = false := by
  by_contra blank
  rw [readRequest_blank (Bool.not_eq_false _ ▸ blank)] at reads
  cases reads

theorem answer_blank (s : Store σ) (now : Timestamp) {text : String} (blank : isBlankLine text = true) :
    answer s now text words = (none, s) := by
  rw [answer, if_pos blank]

theorem answer_undecodable (s : Store σ) (now : Timestamp) {text : String}
    (filled : isBlankLine text = false) (refused : readRequest? text = none) :
    answer s now text words = (some (undecodable (words text)), s) := by
  rw [answer, filled, refused]
  rfl

theorem answer_decodable (s : Store σ) (now : Timestamp) {text : String} {request : Request}
    (reads : readRequest? text = some request) :
    answer s now text words = (some (respond s now request).1, (respond s now request).2) := by
  rw [answer, written_of_request reads, reads]
  rfl

theorem isSome_answer (s : Store σ) (now : Timestamp) (text : String) :
    (answer s now text words).1.isSome = !isBlankLine text := by
  cases filled : isBlankLine text with
  | true => rw [answer_blank words s now filled]; rfl
  | false =>
      cases reads : readRequest? text with
      | none => rw [answer_undecodable words s now filled reads]; rfl
      | some request => rw [answer_decodable words s now reads]; rfl

theorem answer_idle (s : Store σ) (now : Timestamp) {text : String} (refused : readRequest? text = none) :
    (answer s now text words).2 = s := by
  cases filled : isBlankLine text with
  | true => rw [answer_blank words s now filled]
  | false => rw [answer_undecodable words s now filled refused]

/-! The whole connection. -/

theorem length_serve (s : Store σ) (events : List (Event σ)) :
    (serve words s events).1.length = events.countP Event.isAnswered := by
  induction events generalizing s with
  | nil => rfl
  | cons event events ih =>
      cases event with
      | meanwhile change =>
          rw [List.countP_cons_of_neg Bool.false_ne_true]
          exact ih (change s)
      | line now text =>
          have first := isSome_answer words s now text
          rw [serve_line, List.length_append, ih, List.countP_cons, Nat.add_comm]
          congr 1
          change _ = if (!isBlankLine text) = true then 1 else 0
          rw [← first]
          cases (answer s now text words).1 <;> rfl

theorem serve_acting (s : Store σ) (events : List (Event σ)) :
    (serve words s (events.filter Event.acts)).2 = (serve words s events).2 := by
  induction events generalizing s with
  | nil => rfl
  | cons event events ih =>
      cases event with
      | meanwhile change =>
          rw [List.filter_cons_of_pos rfl]
          exact ih (change s)
      | line now text =>
          cases reads : readRequest? text with
          | none =>
              have idle : ¬(Event.line now text : Event σ).acts = true := by
                simp [Event.acts, reads]
              rw [List.filter_cons_of_neg idle, ih, serve_line, answer_idle words s now reads]
          | some request =>
              have active : (Event.line now text : Event σ).acts = true := by
                simp [Event.acts, reads]
              rw [List.filter_cons_of_pos active, serve_line, serve_line, ih]

theorem getElem_serve (s : Store σ) (before : List (Event σ)) (now : Timestamp) {text : String}
    (after : List (Event σ)) {response : Response}
    (answered : (answer (serve words s before).2 now text words).1 = some response) :
    (serve words s (before ++ .line now text :: after)).1[before.countP Event.isAnswered]? = some response := by
  rw [serve_append, serve_line, answered, ← length_serve words s before,
    List.getElem?_append_right (Nat.le_refl _), Nat.sub_self]
  rfl

theorem serve_without (s : Store σ) (before : List (Event σ)) (now : Timestamp) {text : String}
    (after : List (Event σ)) (refused : readRequest? text = none) :
    serve words s (before ++ after) =
      (if isBlankLine text then (serve words s (before ++ .line now text :: after)).1
        else (serve words s (before ++ .line now text :: after)).1.eraseIdx (before.countP Event.isAnswered),
        (serve words s (before ++ .line now text :: after)).2) := by
  rw [serve_append words s before after, serve_append words s before (.line now text :: after), serve_line]
  cases filled : isBlankLine text with
  | true =>
      rw [answer_blank words _ now filled]
      rfl
  | false =>
      rw [answer_undecodable words _ now filled refused, ← length_serve words s before]
      simp [List.eraseIdx_append_of_length_le]

theorem receivedLines_written (responses : List Response) :
    receivedLines (written responses) = responses.map writeResponse := by
  apply receivedLines_ended
  intro line member
  obtain ⟨response, -, rfl⟩ := List.mem_map.mp member
  exact isMessageLine_writeResponse response

/-- A connection is answered line by line and survives whatever is sent on it, and whatever the decoder says of
what it cannot read. -/
theorem answered_line_by_line (s : Store σ) (events : List (Event σ)) :
    (serve words s events).1.length = events.countP Event.isAnswered ∧
      receivedLines (written (serve words s events).1) = (serve words s events).1.map writeResponse ∧
      (serve words s events).2 = (serve words s (events.filter Event.acts)).2 ∧
      (∀ before now text after, events = before ++ .line now text :: after →
        (∀ request, readRequest? text = some request →
          isBlankLine text = false ∧
            (serve words s events).1[before.countP Event.isAnswered]? =
              some (respond (serve words s (before.filter Event.acts)).2 now request).1) ∧
        (readRequest? text = none →
          (isBlankLine text = false → ∃ response message,
            (serve words s events).1[before.countP Event.isAnswered]? = some response ∧
              response.ok = false ∧ response.message = some message ∧ response.error = none ∧
              response.register = none ∧ response.names = none ∧ response.name = none) ∧
          (serve words s (before ++ after)).1 =
            (if isBlankLine text then (serve words s events).1
              else (serve words s events).1.eraseIdx (before.countP Event.isAnswered)) ∧
          (serve words s (before ++ after)).2 = (serve words s events).2)) ∧
      ∀ now sent, events = (receivedLines sent).map (.line now) →
        converse s now sent words = ((serve words s events).1.map writeResponse, (serve words s events).2) := by
  refine ⟨length_serve words s events, receivedLines_written _, (serve_acting words s events).symm, ?_, ?_⟩
  · rintro before now text after rfl
    constructor
    · intro request reads
      refine ⟨written_of_request reads, ?_⟩
      rw [serve_acting]
      apply getElem_serve
      rw [answer_decodable words _ now reads]
    · intro refused
      rw [serve_without words s before now after refused]
      refine ⟨?_, rfl, rfl⟩
      intro filled
      refine ⟨undecodable (words text), _, ?_, rfl, rfl, rfl, rfl, rfl, rfl⟩
      apply getElem_serve
      rw [answer_undecodable words _ now filled refused]
  · rintro now sent rfl
    unfold converse
    rw [answerAll_serve]

end RegisterPlane.Server
