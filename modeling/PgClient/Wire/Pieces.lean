/-
Messages in pieces.

A message can be longer than a list of all its bytes that is held at once. In pieces a value is
the same list in the message as it is in the parameter, however many parameters there are that
have it. The pieces one behind the other are the bytes of the message.
-/

import PgClient.Wire.Frontend

namespace PgClient.FrontendMessage

def valuePieces (parameter : Parameter) : List Bytes :=
  match parameter.value with
  | some value => [Bytes.ofUInt32 (UInt32.ofNat value.length), value]
  | none => [Bytes.ofUInt32 0xFFFFFFFF]

/-- The body of a message, or as much of it as is written, and whether that is all of it. -/
def pieces : FrontendMessage → List Bytes × Bool
  | bind portal statement parameters =>
      let before := [textBytes portal, textBytes statement, Bytes.ofUInt16 0]
      match count16 parameters.length with
      | .ok count =>
          (before ++ Bytes.ofUInt16 count ::
            (parameters.flatMap valuePieces ++ [Bytes.ofUInt16 0]), true)
      | .error _ => (before, false)
  | message => ([message.body.bytes], message.body.whole)

def appendPieces (message : FrontendMessage) (buffer : List Bytes) :
    Except Defect Unit × List Bytes :=
  match message.size with
  | .error defect => (.error defect, buffer)
  | .ok size =>
      match sum 4 size with
      | .error defect => (.error defect, buffer ++ [[message.first]])
      | .ok length =>
          let (body, whole) := message.pieces
          (if whole then .ok () else .error .oversizedMessage,
            buffer ++ (message.first :: Bytes.ofUInt32 length) :: body)

/-! ### The pieces one behind the other -/

theorem valuePieces_flatten (parameters : List Parameter) :
    (parameters.flatMap valuePieces).flatten = parameters.flatMap valueBytes := by
  induction parameters with
  | nil => rfl
  | cons parameter parameters ih =>
      have first : (valuePieces parameter).flatten = valueBytes parameter := by
        unfold valuePieces valueBytes
        cases parameter.value with
        | none => rfl
        | some value =>
            change Bytes.ofUInt32 (UInt32.ofNat value.length) ++ (value ++ []) = _
            rw [List.append_nil]
            rfl
      rw [List.flatMap_cons, List.flatten_append, first, ih, List.flatMap_cons]

theorem pieces_flatten (message : FrontendMessage) :
    message.pieces.1.flatten = message.body.bytes ∧ message.pieces.2 = message.body.whole := by
  cases message with
  | bind portal statement parameters =>
      simp only [pieces, body, withCount]
      cases count16 parameters.length with
      | error defect => simp
      | ok count => simp [valuePieces_flatten]
  | _ => exact ⟨List.append_nil _, rfl⟩

theorem appendPieces_flatten (message : FrontendMessage) (buffer : List Bytes) :
    (message.appendPieces buffer).map id List.flatten = message.append buffer.flatten := by
  obtain ⟨bytes, whole⟩ := message.pieces_flatten
  unfold appendPieces append
  cases message.size with
  | error defect => rfl
  | ok size =>
      dsimp only
      cases sum 4 size with
      | error defect => simp
      | ok length => simp [bytes, whole]

end PgClient.FrontendMessage
