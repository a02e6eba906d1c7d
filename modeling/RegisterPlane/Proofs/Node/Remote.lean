import RegisterPlane.Node.Exchange
import RegisterPlane.Proofs.Node.Framing

namespace RegisterPlane

open Wire

variable {σ World : Type}

def NodeError.ofRefusal (refusal : Refusal) : NodeError := .rejected refusal.error refusal.current

/-- What a call comes back with. -/
inductive Outcome where
  | names (result : Except NodeError (List RegisterName))
  | name (result : Except NodeError (Option RegisterName))
  | accessed (result : Except NodeError Register)
  deriving DecidableEq

namespace Outcome

def error? : Outcome → Option NodeError
  | names (.error error) | name (.error error) | accessed (.error error) => some error
  | names (.ok _) | name (.ok _) | accessed (.ok _) => none

def register? : Outcome → Option Register
  | accessed (.ok register) => some register
  | accessed (.error (.rejected _ current)) => current
  | _ => none

end Outcome

/-- A call over a socket. -/
def Exchange.call (exchange : Exchange World) (socket : String) (world : World) :
    Request → Outcome × World
  | .list => (exchange.list socket world).map .names id
  | .nameAt index => (exchange.nameAt socket index world).map .name id
  | .access name value => (exchange.access socket name value world).map .accessed id

def Store.call (s : Store σ) (now : Timestamp) : Request → Outcome × Store σ
  | .list => (.names (.ok s.names), s)
  | .nameAt index => (.name (.ok (s.nameAt? index.toNat)), s)
  | .access name value =>
    (.accessed ((s.access now name value).1.mapError NodeError.ofRefusal), (s.access now name value).2)

structure Call (σ : Type) where
  since : σ → σ
  now : Timestamp
  request : Request

def Call.found (call : Call σ) (s : Store σ) : Store σ := { s with live := call.since s.live }

def Store.callAll (call : Timestamp → Request → Store σ → Outcome × Store σ) (s : Store σ) :
    List (Call σ) → List Outcome × Store σ
  | [] => ([], s)
  | next :: rest =>
    let (outcome, s') := call next.now next.request (next.found s)
    let (outcomes, s'') := s'.callAll call rest
    (outcome :: outcomes, s'')

theorem Store.callAll_cons (call : Timestamp → Request → Store σ → Outcome × Store σ) (s : Store σ)
    (next : Call σ) (rest : List (Call σ)) :
    s.callAll call (next :: rest) =
      ((call next.now next.request (next.found s)).1 ::
          ((call next.now next.request (next.found s)).2.callAll call rest).1,
        ((call next.now next.request (next.found s)).2.callAll call rest).2) :=
  rfl

def Store.callsHere (s : Store σ) (calls : List (Call σ)) : List Outcome × Store σ :=
  s.callAll (fun now request s => s.call now request) calls

def Store.callsOver (isServed : String → Bool) (socket : String) (s : Store σ) (calls : List (Call σ)) :
    List Outcome × Store σ :=
  s.callAll (fun now request s => (Exchange.withStore isServed now).call socket s request) calls

namespace Server

def respondAll (s : Store σ) (now : Timestamp) : List Request → List Response × Store σ
  | [] => ([], s)
  | request :: rest =>
    let (response, s') := respond s now request
    let (responses, s'') := respondAll s' now rest
    (response :: responses, s'')

theorem answer_request (s : Store σ) (now : Timestamp) {request : Request}
    (carried : RequestCarried request) :
    answer s now (writeRequest request) =
      (some (respond s now request).1, (respond s now request).2) := by
  unfold answer
  rw [(isMessageLine_writeRequest carried).written, readRequest_writeRequest carried]
  rfl

theorem answerAll_requests (s : Store σ) (now : Timestamp) {requests : List Request}
    (asked : ∀ r ∈ requests, RequestCarried r) :
    answerAll s now (requests.map writeRequest) = respondAll s now requests := by
  induction requests generalizing s with
  | nil => rfl
  | cons request rest ih =>
      have first := answer_request s now (asked request List.mem_cons_self)
      have others := ih (respond s now request).2 fun r member => asked r (List.mem_cons_of_mem _ member)
      simp only [List.map_cons, answerAll, respondAll, first, others, Option.toList_some,
        List.singleton_append]

theorem converse_requests (s : Store σ) (now : Timestamp) {requests : List Request}
    (asked : ∀ r ∈ requests, RequestCarried r) :
    converse s now (String.join ((requests.map writeRequest).map (· ++ "\n"))) =
      ((respondAll s now requests).1.map writeResponse, (respondAll s now requests).2) := by
  have lines : ∀ line ∈ requests.map writeRequest, IsMessageLine line := by
    intro line member
    obtain ⟨r, here, rfl⟩ := List.mem_map.mp member
    exact isMessageLine_writeRequest (asked r here)
  unfold converse
  rw [receivedLines_ended lines, answerAll_requests s now asked]

theorem converse_request (s : Store σ) (now : Timestamp) {request : Request}
    (carried : RequestCarried request) :
    converse s now (writeRequest request ++ "\n") =
      ([writeResponse (respond s now request).1], (respond s now request).2) := by
  have asked : ∀ r ∈ [request], RequestCarried r := by
    intro r member
    rw [List.mem_singleton.mp member]
    exact carried
  have single : String.join (([request].map writeRequest).map (· ++ "\n")) =
      writeRequest request ++ "\n" := by
    simp [String.join]
  rw [← single, converse_requests s now asked]
  rfl

end Server

namespace Client

theorem trimEnd_filled {cs : List Char} {c : Char} (filled : Text.isBlank c = false) :
    Text.trimEnd (cs ++ [c]) = cs ++ [c] := by
  simp [Text.trimEnd, filled]

theorem trimEnd_writeResponse (r : Response) :
    Text.trimEnd (writeResponse r).toList = (writeResponse r).toList := by
  have closed : (writeResponse r).toList =
      ('\x7b' :: Json.compactMembers (Json.filled (responseFields r))) ++ ['\x7d'] := by
    rw [writeResponse, responseToJson_filled, Json.line, String.toList_ofList]
    rfl
  rw [closed]
  exact trimEnd_filled (by decide)

theorem receive_line (socket : String) (r : Response) :
    receive socket (.text (writeResponse r ++ "\n")) =
      match readResponse? (writeResponse r) with
      | none => .error .json
      | some r' => .ok r' := by
  have bare := (Server.isMessageLine_writeResponse r).noFeed
  have text : (writeResponse r ++ "\n").toList = (writeResponse r).toList ++ ['\n'] := by
    rw [String.toList_append]
    rfl
  have sent : writeResponse r ++ "\n" ≠ "" := by
    intro empty
    rw [empty] at text
    cases h : (writeResponse r).toList <;> simp [h] at text
  have first : (writeResponse r ++ "\n").toList.takeWhile (· ≠ '\n') = (writeResponse r).toList := by
    rw [text, List.takeWhile_append_of_pos]
    · simp
    · intro c member
      simp only [ne_eq, decide_eq_true_eq]
      rintro rfl
      exact bare member
  cases read : readResponse? (writeResponse r) with
  | none => simp only [receive, if_neg sent, first, trimEnd_writeResponse, String.ofList_toList, read]
  | some r' => simp only [receive, if_neg sent, first, trimEnd_writeResponse, String.ofList_toList, read]

theorem receive_response (socket : String) {r : Response} (carried : ResponseCarried r) :
    receive socket (.text (writeResponse r ++ "\n")) = .ok r := by
  rw [receive_line, readResponse_writeResponse carried]

theorem receive_misread (socket : String) (r : Response) :
    receive socket (.text (writeResponse r ++ "\n")) = .error .json ∨
      ∃ register, receive socket (.text (writeResponse r ++ "\n")) = .ok { r with register } ∧
        register.map (fun shown => shown.value.kind) = r.register.map fun shown => shown.value.kind := by
  rw [receive_line]
  cases read : readResponse? (writeResponse r) with
  | none => exact Or.inl rfl
  | some r' =>
      rw [readResponse?, writeResponse, Json.read_line (isSpelled_responseToJson r), Option.bind_some] at read
      obtain ⟨register, rfl, same⟩ := responseOfJson_misread read
      exact Or.inr ⟨register, rfl, same⟩

end Client

open Server Client

theorem Exchange.withStore_served {isServed : String → Bool} {socket : String}
    (served : isServed socket = true) (now : Timestamp) (s : Store σ) {request : Request}
    (asked : RequestCarried request) :
    Exchange.withStore isServed now socket request s =
      (.text (writeResponse (respond s now request).1 ++ "\n"), (respond s now request).2) := by
  unfold Exchange.withStore
  rw [if_pos served, converse_request s now asked]
  simp [String.join]

theorem register_respond (s : Store σ) (now : Timestamp) (request : Request) :
    (respond s now request).1.register = (s.call now request).1.register? := by
  cases request with
  | list => rfl
  | nameAt index => rfl
  | access name value =>
      simp only [respond, Store.call]
      rcases s.access now name value with ⟨_ | _, _⟩ <;> rfl

theorem Exchange.call_withStore {isServed : String → Bool} {socket : String}
    (served : isServed socket = true) (now : Timestamp) (s : Store σ) {request : Request}
    (asked : RequestCarried request) (shown : ∀ r ∈ (s.call now request).1.register?, RegisterCarried r) :
    (Exchange.withStore isServed now).call socket s request = s.call now request := by
  have answered : ResponseCarried (respond s now request).1 := by
    intro r here
    rw [register_respond] at here
    exact shown r here
  have exchanged := Exchange.withStore_served served now s asked
  have received := receive_response socket answered
  cases request with
  | list =>
      simp only [Exchange.call, Exchange.list, exchanged, received]
      rfl
  | nameAt index =>
      simp only [Exchange.call, Exchange.nameAt, exchanged, received]
      rfl
  | access name value =>
      simp only [Exchange.call, Exchange.access, exchanged, received]
      simp only [Store.call, respond]
      rcases s.access now name value with ⟨_ | _, _⟩ <;> rfl

/-- The register that a write shows, if it shows one, is the same on both sides of the wire. -/
def IsShown (s : Store σ) (now : Timestamp) (name : String) (value : Value) : Prop :=
  ∀ r ∈ (s.call now (.access name (some value))).1.register?, RegisterCarried r

instance (s : Store σ) (now : Timestamp) (name : String) (value : Value) : Decidable (IsShown s now name value) :=
  inferInstanceAs (Decidable (∀ r ∈ (s.call now (.access name (some value))).1.register?, RegisterCarried r))

/-- What may be heard of an answer. The reason of a refusal that is heard is right, and so is the kind of the
register. -/
inductive Heard : Except Refusal Register → Except NodeError Register → Prop where
  | taken (r r' : Register) : Heard (.ok r) (.ok r')
  | refused (e : RegisterError) {current current' : Option Register}
      (kind : current'.map (fun shown => shown.value.kind) = current.map fun shown => shown.value.kind) :
      Heard (.error ⟨e, current⟩) (.error (.rejected e current'))
  | lost (answer : Except Refusal Register) : Heard answer (.error .json)

theorem heard_of_respond (socket : String) (s : Store σ) (now : Timestamp) (name : String) (value : Value) :
    Heard (s.access now name (some value)).1 (accessResult (receive socket
      (.text (writeResponse (respond s now (.access name (some value))).1 ++ "\n")))) := by
  simp only [respond]
  rcases s.access now name (some value) with ⟨refusal | r, s'⟩
  · rcases receive_misread socket (.rejected refusal.error refusal.current) with
      lost | ⟨current, misread, kind⟩
    · rw [lost]
      exact .lost _
    · rw [misread]
      exact .refused refusal.error kind
  · rcases receive_misread socket (.ofRegister r) with lost | ⟨register, misread, kind⟩
    · rw [lost]
      exact .lost _
    · obtain ⟨r', rfl, -⟩ := Option.map_eq_some_iff.mp kind
      rw [misread]
      exact .taken r r'

theorem Exchange.access_withStore {isServed : String → Bool} {socket : String}
    (served : isServed socket = true) (now : Timestamp) (s : Store σ) (name : String) {value : Value}
    (asked : Carried value) :
    ∃ heard, (Exchange.withStore isServed now).access socket name (some value) s =
        (heard, (s.access now name (some value)).2) ∧
      Heard (s.access now name (some value)).1 heard ∧
      (IsShown s now name value → heard = (s.access now name (some value)).1.mapError NodeError.ofRefusal) := by
  have carried : RequestCarried (.access name (some value)) := asked
  have left : (respond s now (.access name (some value))).2 = (s.access now name (some value)).2 := by
    simp only [respond]
    rcases s.access now name (some value) with ⟨_ | _, _⟩ <;> rfl
  refine ⟨_, ?_, heard_of_respond socket s now name value, fun shown => ?_⟩
  · simp only [Exchange.access, Exchange.withStore_served served now s carried, left]
  · have same := Exchange.call_withStore served now s carried shown
    simp only [Exchange.call, Exchange.access, Exchange.withStore_served served now s carried] at same
    injection congrArg Prod.fst same

theorem Store.error_call {s : Store σ} {now : Timestamp} {request : Request} {error : NodeError}
    (failed : (s.call now request).1.error? = some error) :
    ∃ refusal, error = NodeError.ofRefusal refusal := by
  cases request with
  | list => cases failed
  | nameAt index => cases failed
  | access name value =>
      simp only [Store.call] at failed
      rcases access : s.access now name value with ⟨refusal | register, s'⟩ <;> rw [access] at failed
      · cases failed
        exact ⟨refusal, rfl⟩
      · cases failed

theorem Store.error_callsHere {s : Store σ} {calls : List (Call σ)} {outcome : Outcome}
    (member : outcome ∈ (s.callsHere calls).1) {error : NodeError}
    (failed : outcome.error? = some error) :
    ∃ refusal, error = NodeError.ofRefusal refusal := by
  induction calls generalizing s with
  | nil => cases member
  | cons next rest ih =>
      rcases List.mem_cons.mp member with rfl | later
      · exact Store.error_call failed
      · exact ih later

theorem Store.callsOver_same {isServed : String → Bool} {socket : String}
    (served : isServed socket = true) (s : Store σ) {calls : List (Call σ)}
    (asked : ∀ call ∈ calls, RequestCarried call.request)
    (shown : ∀ outcome ∈ (s.callsHere calls).1, ∀ r ∈ outcome.register?, RegisterCarried r) :
    s.callsOver isServed socket calls = s.callsHere calls := by
  induction calls generalizing s with
  | nil => rfl
  | cons next rest ih =>
      have first : (Exchange.withStore isServed next.now).call socket (next.found s) next.request =
          (next.found s).call next.now next.request :=
        Exchange.call_withStore served next.now (next.found s) (asked next List.mem_cons_self)
          (shown _ List.mem_cons_self)
      have others : ((next.found s).call next.now next.request).2.callsOver isServed socket rest =
          ((next.found s).call next.now next.request).2.callsHere rest :=
        ih ((next.found s).call next.now next.request).2
          (fun call member => asked call (List.mem_cons_of_mem next member))
          fun outcome member => shown outcome (List.mem_cons_of_mem _ member)
      unfold Store.callsOver Store.callsHere at others ⊢
      rw [Store.callAll_cons, Store.callAll_cons, first, others]

/-- Calls over a socket come back, one after another, with what the same calls where the store is
come back with. They leave the store as those do, and only refusals are errors. -/
theorem calls_over_socket {isServed : String → Bool} {socket : String} (served : isServed socket = true)
    (s : Store σ) {calls : List (Call σ)} (asked : ∀ call ∈ calls, RequestCarried call.request)
    (shown : ∀ outcome ∈ (s.callsHere calls).1, ∀ r ∈ outcome.register?, RegisterCarried r) :
    s.callsOver isServed socket calls = s.callsHere calls ∧
      ∀ outcome ∈ (s.callsOver isServed socket calls).1, ∀ error, outcome.error? = some error →
        ∃ refusal current, error = .rejected refusal current := by
  have same := Store.callsOver_same served s asked shown
  refine ⟨same, ?_⟩
  rw [same]
  intro outcome member error failed
  obtain ⟨refusal, rfl⟩ := Store.error_callsHere member failed
  exact ⟨refusal.error, refusal.current, rfl⟩

def pumpStore : Store Nat where
  entries := [(⟨"pump.flow", by decide⟩,
      .stored ⟨.array (.real .double) [.ofRatio .double false 1 10], ⟨true, true⟩, some ⟨1699999999, 0⟩⟩),
    (⟨"pump.load", by decide⟩,
      .computed ⟨fun live => (.array (.natural .w32) [BitVec.ofNat 32 live], live), none⟩),
    (⟨"pump.serial", by decide⟩, .stored ⟨.string "p1\n", .readOnly, none⟩)]
  policy := .implicit
  durable := true
  dirty := false
  live := 12

def pumpCalls : List (Call Nat) :=
  [⟨id, ⟨1700000000, 0⟩, .list⟩, ⟨id, ⟨1700000001, 0⟩, .nameAt 1⟩,
    ⟨id, ⟨1700000002, 5⟩, .access "pump.flow" (some (.array (.real .half) [.ofRatio .half true 3 8]))⟩,
    ⟨id, ⟨1700000003, 0⟩, .access "pump.serial" (some (.string "p2"))⟩,
    ⟨(· + 1), ⟨1700000004, 0⟩, .access "pump.load" none⟩,
    ⟨id, ⟨1700000005, 0⟩, .access "pump.head" none⟩]

def isPumpSocket (socket : String) : Bool := socket == "pump.sock"

theorem calls_over_socket_pump :
    pumpStore.callsOver isPumpSocket "pump.sock" pumpCalls = pumpStore.callsHere pumpCalls ∧
      (pumpStore.callsOver isPumpSocket "pump.sock" pumpCalls).1.map Outcome.error? =
        [none, none, none,
          some (.rejected (.immutable "pump.serial")
            (some ⟨⟨"pump.serial", by decide⟩, .string "p1\n", false, false, none⟩)),
          none, some (.rejected (.notFound "pump.head") none)] := by
  have served : isPumpSocket "pump.sock" = true := by decide
  have asked : ∀ call ∈ pumpCalls, RequestCarried call.request := by decide +kernel
  have shown : ∀ outcome ∈ (pumpStore.callsHere pumpCalls).1, ∀ r ∈ outcome.register?,
      RegisterCarried r := by decide +kernel
  have same := (calls_over_socket served pumpStore asked shown).1
  refine ⟨same, ?_⟩
  rw [same]
  decide +kernel

end RegisterPlane
