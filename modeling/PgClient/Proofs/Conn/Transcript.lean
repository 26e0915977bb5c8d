/-
The messages of a server in what has been read from it.

All whole messages are taken off the front of the input and decoded. A session that parses
the input handles these messages one after the other, and keeps what they leave of it. So
messages that were laid out one behind the other are found again, all of them and in their
order, and a message that has been cut stays for the next time.
-/

import PgClient.Proofs.Conn.Intake
import PgClient.Proofs.Wire.Division
import PgClient.Proofs.Wire.Layout

namespace PgClient

/-! ### Decoding -/

namespace BackendMessage

def decodeAll (input : Bytes) : Except ProtocolFault (List BackendMessage × Bytes) :=
  Frame.readAll (fun frame => decode frame.first frame.body) input

def stream (messages : List BackendMessage) : Bytes :=
  Frame.stream (messages.map frame)

private theorem decode_unknown {first : UInt8} (foreign : ∀ tag : Tag, tag.byte ≠ first)
    (body : Bytes) :
    decode first body = .error (.unexpected none first none) := by
  have unknown : Tag.ofByte? first = none := by
    rw [Tag.ofByte?, List.find?_eq_none]
    intro tag _ same
    exact foreign tag (eq_of_beq same)
  rw [decode, unknown]

private theorem decodeAll_stream {messages : List BackendMessage} {trailing : Bytes}
    (writable : ∀ message ∈ messages, message.Writable)
    (fits : ∀ message ∈ messages, message.frame.Fits) (cut : Frame.Incomplete trailing) :
    decodeAll (stream messages ++ trailing) = .ok (messages, trailing) :=
  Frame.readAll_stream fits (fun message member => decode_frame (writable message member)) cut

end BackendMessage

/-! ### Handling what was decoded -/

namespace Conn

def handleAll : List BackendMessage → Conn → Except ProtocolFault Conn
  | [], conn => .ok conn
  | message :: messages, conn =>
      match conn.handle message with
      | .error fault => .error fault
      | .ok conn => conn.handleAll messages

/-- A session parses input by handling the messages that are in it. -/
theorem parse_of_decodeAll {messages : List BackendMessage} {input rest : Bytes}
    {conn after : Conn} (decoded : BackendMessage.decodeAll input = .ok (messages, rest))
    (handled : conn.handleAll messages = .ok after) :
    conn.parse input = (.ok (), { after with inbox := rest }) := by
  unfold BackendMessage.decodeAll at decoded
  induction input, conn using parse.induct generalizing messages with
  | case1 input conn fault found =>
      rw [Frame.readAll_of_fault found] at decoded
      cases decoded
  | case2 input conn found =>
      rw [Frame.readAll_of_partial found] at decoded
      cases decoded
      cases handled
      exact parse_of_partial found
  | case3 input conn frame behind found fault refused =>
      obtain ⟨message, others, known, further, rfl⟩ := Frame.readAll_ok_of_frame found decoded
      unfold handleFrame at refused
      rw [known] at refused
      unfold handleAll at handled
      dsimp only at refused
      rw [refused] at handled
      cases handled
  | case4 input conn frame behind found next taken _ ih =>
      obtain ⟨message, others, known, further, rfl⟩ := Frame.readAll_ok_of_frame found decoded
      rw [parse_of_taken found taken]
      unfold handleFrame at taken
      rw [known] at taken
      unfold handleAll at handled
      dsimp only at taken
      rw [taken] at handled
      exact ih further handled

end Conn

/-! ### Laid out and read back -/

namespace BackendMessage

/-- Messages that were laid out are decoded, all of them and in their order, and what has
been cut behind them stays in the inbox of a session that takes them in. A message that
begins with any other byte is not decoded. -/
theorem stream_decoded {messages : List BackendMessage} {trailing : Bytes}
    (writable : ∀ message ∈ messages, message.Writable)
    (fits : ∀ message ∈ messages, message.frame.Fits) (cut : Frame.Incomplete trailing) :
    decodeAll (stream messages ++ trailing) = .ok (messages, trailing) ∧
      (∀ conn after : Conn, conn.handleAll messages = .ok after →
        conn.parse (stream messages ++ trailing) =
          (.ok (), { after with inbox := trailing })) ∧
      ∀ first body, (∀ tag : Tag, tag.byte ≠ first) →
        decode first body = .error (.unexpected none first none) := by
  have decoded := decodeAll_stream writable fits cut
  refine ⟨decoded, ?_, ?_⟩
  · intro conn after handled
    exact Conn.parse_of_decodeAll decoded handled
  · intro first body foreign
    exact decode_unknown foreign body

/-- An answer with a report in front of it and a notification within it. -/
def interruptedAnswer : List BackendMessage :=
  [.parameterStatus "TimeZone" "Europe/Tallinn", .backendKeyData ⟨7, 11⟩, .rowDescription 0 [],
    .notificationResponse 7 "news" "", .dataRow 0 [], .commandComplete "SELECT 1",
    .readyForQuery 73]

theorem stream_decoded_interruptedAnswer :
    (∀ message ∈ interruptedAnswer, message.Writable) ∧
      (∀ message ∈ interruptedAnswer, message.frame.Fits) ∧ Frame.Incomplete [90, 0, 0] ∧
      decodeAll (stream interruptedAnswer ++ [90, 0, 0]) = .ok (interruptedAnswer, [90, 0, 0]) ∧
      ∃ after, Conn.handleAll interruptedAnswer {} = .ok after ∧
        Conn.parse (stream interruptedAnswer ++ [90, 0, 0]) {} =
          (.ok (), { after with inbox := [90, 0, 0] }) := by
  have writable : ∀ message ∈ interruptedAnswer, message.Writable := by
    intro message member
    simp only [interruptedAnswer, List.mem_cons, List.not_mem_nil, or_false] at member
    rcases member with rfl | rfl | rfl | rfl | rfl | rfl | rfl
    · exact ⟨by decide, by decide⟩
    · exact True.intro
    · exact True.intro
    · exact ⟨by decide, by decide⟩
    · exact True.intro
    · change ZeroFree "SELECT 1"
      decide
    · exact True.intro
  have fits : ∀ message ∈ interruptedAnswer, message.frame.Fits := by decide
  have cut : Frame.Incomplete [90, 0, 0] :=
    ⟨{ first := 90, body := [73] }, by decide, ⟨[0, 5, 73], rfl⟩, by decide⟩
  obtain ⟨decoded, taken, _⟩ := stream_decoded writable fits cut
  exact ⟨writable, fits, cut, decoded, _, rfl, taken _ _ rfl⟩

end BackendMessage

end PgClient
