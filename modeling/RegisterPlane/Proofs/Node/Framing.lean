import Mathlib.Data.String.Basic
import RegisterPlane.Node.Server
import RegisterPlane.Proofs.Json.Line
import RegisterPlane.Proofs.Text.Lines
import RegisterPlane.Proofs.Wire.Message

namespace RegisterPlane.Server

open Wire

/-- A line that is neither cut nor passed over. -/
structure IsMessageLine (line : String) : Prop where
  noFeed : '\n' ∉ line.toList
  noReturn : '\r' ∉ line.toList
  written : isBlankLine line = false

theorem isMessageLine_object {members : List (String × Json)} (spelled : (Json.object members).IsSpelled) :
    IsMessageLine (Json.object members).line := by
  have text : (Json.object members).line.toList = (Json.object members).compact :=
    String.toList_ofList
  have printed := Json.isPrinted_compact (Json.object members) spelled
  refine ⟨?_, ?_, ?_⟩
  · intro feed
    rw [text] at feed
    exact absurd (printed '\n' feed) (by decide)
  · intro return'
    rw [text] at return'
    exact absurd (printed '\r' return') (by decide)
  · unfold isBlankLine
    rw [text]
    rfl

theorem isLine_of_message {line : String} (isLine : IsMessageLine line) :
    Text.IsLine '\n' '\r' line.toList := by
  refine ⟨?_, isLine.noFeed, isLine.noReturn⟩
  intro empty
  have written := isLine.written
  rw [isBlankLine, empty] at written
  cases written

theorem lines_toList {lines : List String} (areLines : ∀ line ∈ lines, IsMessageLine line) :
    ∀ cs ∈ lines.map String.toList, Text.IsLine '\n' '\r' cs := by
  intro cs member
  obtain ⟨line, here, rfl⟩ := List.mem_map.mp member
  exact isLine_of_message (areLines line here)

theorem ofList_toList (lines : List String) : (lines.map String.toList).map String.ofList = lines := by
  simp

theorem receivedLines_joined {lines : List String} (areLines : ∀ line ∈ lines, IsMessageLine line) :
    receivedLines ("\n".intercalate lines) = lines := by
  have feed : "\n".toList = ['\n'] := rfl
  unfold receivedLines
  rw [String.toList_intercalate, feed, Text.lines_intercalate (lines_toList areLines), ofList_toList]

theorem receivedLines_ended {lines : List String} (areLines : ∀ line ∈ lines, IsMessageLine line) :
    receivedLines (String.join (lines.map (· ++ "\n"))) = lines := by
  have ended : (String.join (lines.map (· ++ "\n"))).toList =
      (lines.map String.toList).flatMap (· ++ ['\n']) := by
    simp [String.toList_join, List.flatMap_map]
  unfold receivedLines
  rw [ended, Text.lines_ended (lines_toList areLines), ofList_toList]

theorem isMessageLine_writeRequest {r : Request} (carried : RequestCarried r) :
    IsMessageLine (writeRequest r) := by
  have spelled := isSpelled_requestToJson carried
  rw [requestToJson_filled] at spelled
  rw [writeRequest, requestToJson_filled]
  exact isMessageLine_object spelled

theorem isMessageLine_writeResponse (r : Response) : IsMessageLine (writeResponse r) := by
  have spelled := isSpelled_responseToJson r
  rw [responseToJson_filled] at spelled
  rw [writeResponse, responseToJson_filled]
  exact isMessageLine_object spelled

/-- Messages that are sent one to a line are received as the same messages. -/
theorem messages_received {requests : List Request} {responses : List Response}
    (asked : ∀ r ∈ requests, RequestCarried r) (answered : ∀ r ∈ responses, ResponseCarried r) :
    (∀ r ∈ requests, IsMessageLine (writeRequest r) ∧ readRequest? (writeRequest r) = some r) ∧
      (∀ r ∈ responses, IsMessageLine (writeResponse r) ∧ readResponse? (writeResponse r) = some r) ∧
      receivedLines ("\n".intercalate (requests.map writeRequest)) = requests.map writeRequest ∧
      (receivedLines ("\n".intercalate (requests.map writeRequest))).mapM readRequest? = some requests ∧
      receivedLines ("\n".intercalate (responses.map writeResponse)) = responses.map writeResponse ∧
      (receivedLines ("\n".intercalate (responses.map writeResponse))).mapM readResponse? =
        some responses := by
  have asking : ∀ line ∈ requests.map writeRequest, IsMessageLine line := by
    intro line member
    obtain ⟨r, here, rfl⟩ := List.mem_map.mp member
    exact isMessageLine_writeRequest (asked r here)
  have answering : ∀ line ∈ responses.map writeResponse, IsMessageLine line := by
    intro line member
    obtain ⟨r, -, rfl⟩ := List.mem_map.mp member
    exact isMessageLine_writeResponse r
  rw [receivedLines_joined asking, receivedLines_joined answering]
  refine ⟨?_, ?_, rfl, ?_, rfl, ?_⟩
  · intro r member
    have carried := asked r member
    exact ⟨isMessageLine_writeRequest carried, readRequest_writeRequest carried⟩
  · intro r member
    have carried := answered r member
    exact ⟨isMessageLine_writeResponse r, readResponse_writeResponse carried⟩
  · exact Json.mapM_back fun r member => readRequest_writeRequest (asked r member)
  · exact Json.mapM_back fun r member => readResponse_writeResponse (answered r member)

def pumpWrite : Request :=
  .access "pump.rate\n" (some (.array (.real .half) [.ofRatio .half true 3 7, .nan]))

def pumpAnswer : Response where
  ok := false
  names := none
  name := some ⟨"pump.rate", by decide⟩
  register := some {
    name := ⟨"pump.rate", by decide⟩
    value := .array (.real .double) [.ofRatio .double false 1 10, .infinite true]
    mutable := true
    persistent := false
    timestamp := some ⟨1700000000, 123000000⟩ }
  error := some (.incompatibleKind .string (.array (.real .half)) "\r\n")
  message := some "\u0000"

theorem messages_received_pump :
    (receivedLines ("\n".intercalate ([.list, pumpWrite].map writeRequest))).mapM readRequest? =
        some [.list, pumpWrite] ∧
      (receivedLines ("\n".intercalate ([pumpAnswer].map writeResponse))).mapM readResponse? =
        some [pumpAnswer] := by
  have asked : ∀ r ∈ [Request.list, pumpWrite], RequestCarried r := by decide +kernel
  have answered : ∀ r ∈ [pumpAnswer], ResponseCarried r := by decide +kernel
  obtain ⟨-, -, -, requests, -, responses⟩ := messages_received asked answered
  exact ⟨requests, responses⟩

end RegisterPlane.Server
