/-
What taking in messages does not depend on.

Messages never look at the link, at what has not been taken in yet or at what is still
to be written; they only put answers behind the latter. So a session may be thought to
have written nothing so far and to keep everything it ever wrote, and what it makes of
its input is the same. That is its gist.
-/

import PgClient.Proofs.Conn.Effect

namespace PgClient

namespace FrontendMessage

private theorem append_behind (message : FrontendMessage) (front buffer : Bytes) :
    message.append (front ++ buffer) =
      ((message.append buffer).1, front ++ (message.append buffer).2) := by
  unfold append
  cases message.size with
  | error defect => rfl
  | ok size =>
      dsimp only
      cases sum 4 size with
      | error defect => simp only [List.append_assoc]
      | ok length => simp only [List.append_assoc]

private theorem appendAll_behind (messages : List FrontendMessage) (front buffer : Bytes) :
    appendAll messages (front ++ buffer) =
      ((appendAll messages buffer).1, front ++ (appendAll messages buffer).2) := by
  induction messages generalizing buffer with
  | nil => rfl
  | cons message messages ih =>
      simp only [appendAll, message.append_behind front buffer]
      cases message.append buffer with
      | mk outcome written =>
          cases outcome with
          | error defect => rfl
          | ok done => exact ih written

end FrontendMessage

namespace Conn

def rehouse (link : Link) (inbox front : Bytes) (conn : Conn) : Conn :=
  { conn with link, inbox, outbox := front ++ conn.outbox }

variable {link : Link} {inbox front input : Bytes} {conn after : Conn} {fault : ProtocolFault}

private theorem refuseCopy_rehouse :
    (conn.rehouse link inbox front).refuseCopy = conn.refuseCopy.rehouse link inbox front := by
  simp only [refuseCopy, enqueue, rehouse, record, FrontendMessage.appendAll_behind]
  rfl

private theorem handle_rehouse (message : BackendMessage) :
    (conn.rehouse link inbox front).handle message =
      (conn.handle message).map (rehouse link inbox front) := by
  cases message with
  | rowDescription count body =>
      simp only [handle, receiveFields]
      cases Field.readMany count.toNat body with
      | error fault => rfl
      | ok fields =>
          change (if conn.describing then _ else _) = _
          dsimp only
          split
          · rfl
          · rfl
  | dataRow columns body =>
      simp only [handle, receiveRow]
      dsimp only [rehouse]
      cases conn.builder with
      | none => rfl
      | some builder =>
          dsimp only
          cases builder.push columns body with
          | error fault => rfl
          | ok builder => rfl
  | errorResponse body =>
      simp only [handle, receiveError]
      cases Diagnostic.parse body with
      | error fault => rfl
      | ok report => rfl
  | noticeResponse body =>
      simp only [handle, receiveNotice]
      cases Diagnostic.parse body with
      | error fault => rfl
      | ok report => rfl
  | noData =>
      simp only [handle]
      change (if conn.describing then _ else _) = _
      split
      · rfl
      · rfl
  | copyInResponse format body => exact congrArg Except.ok refuseCopy_rehouse
  | copyBothResponse format body => exact congrArg Except.ok refuseCopy_rehouse
  | _ => rfl

private theorem handleFrame_rehouse (frame : Frame) :
    (conn.rehouse link inbox front).handleFrame frame =
      (conn.handleFrame frame).map (rehouse link inbox front) := by
  unfold handleFrame
  cases BackendMessage.decode frame.first frame.body with
  | error fault => rfl
  | ok message => exact handle_rehouse message

theorem parse_rehouse :
    (conn.rehouse link inbox front).parse input =
      ((conn.parse input).1,
        (conn.parse input).2.rehouse link (conn.parse input).2.inbox front) := by
  induction input, conn using parse.induct with
  | case1 input conn fault found =>
      rw [parse_of_fault found, parse_of_fault found]
      rfl
  | case2 input conn found =>
      rw [parse_of_partial found, parse_of_partial found]
      rfl
  | case3 input conn frame rest found fault refused =>
      have elsewhere : (conn.rehouse link inbox front).handleFrame frame = .error fault := by
        rw [handleFrame_rehouse, refused]
        rfl
      rw [parse_of_refused found refused, parse_of_refused found elsewhere]
      rfl
  | case4 input conn frame rest found next taken _ ih =>
      have elsewhere : (conn.rehouse link inbox front).handleFrame frame =
          .ok (next.rehouse link inbox front) := by
        rw [handleFrame_rehouse, taken]
        rfl
      rw [parse_of_taken found taken, parse_of_taken found elsewhere]
      exact ih

theorem parse_link : (conn.parse input).2.link = conn.link := by
  induction input, conn using parse.induct with
  | case1 input conn fault found => rw [parse_of_fault found]
  | case2 input conn found => rw [parse_of_partial found]
  | case3 input conn frame rest found fault refused => rw [parse_of_refused found refused]
  | case4 input conn frame rest found next taken _ ih =>
      rw [parse_of_taken found taken, ih, (handleFrame_effect taken).link]

/-- The input is what is given, and not what the session has not taken in. -/
theorem parse_inbox : ({ conn with inbox } : Conn).parse input = conn.parse input := by
  have link : (conn.parse input).2.link = conn.link := parse_link
  have same : ({ conn with inbox } : Conn) = conn.rehouse conn.link inbox [] := rfl
  rw [same, parse_rehouse, ← link]
  rfl

/-! ### Input in two parts -/

theorem parse_append_of_ok (parsed : conn.parse input = (.ok (), after)) (more : Bytes) :
    conn.parse (input ++ more) = after.parse (after.inbox ++ more) := by
  induction input, conn using parse.induct with
  | case1 input conn fault found =>
      rw [parse_of_fault found] at parsed
      cases parsed
  | case2 input conn found =>
      rw [parse_of_partial found] at parsed
      cases parsed
      exact parse_inbox.symm
  | case3 input conn frame rest found fault refused =>
      rw [parse_of_refused found refused] at parsed
      cases parsed
  | case4 input conn frame rest found next taken _ ih =>
      rw [parse_of_taken found taken] at parsed
      rw [parse_of_taken (Frame.next_more found more) taken]
      exact ih parsed

/-- What cannot be understood does not depend on what follows it. -/
theorem parse_append_of_error (parsed : conn.parse input = (.error fault, after))
    (more : Bytes) :
    conn.parse (input ++ more) = (.error fault, { after with inbox := after.inbox ++ more }) := by
  induction input, conn using parse.induct with
  | case1 input conn fault found =>
      rw [parse_of_fault found] at parsed
      cases parsed
      rw [parse_of_fault (Frame.next_more_of_fault found more)]
  | case2 input conn found =>
      rw [parse_of_partial found] at parsed
      cases parsed
  | case3 input conn frame rest found fault refused =>
      rw [parse_of_refused found refused] at parsed
      cases parsed
      rw [parse_of_refused (Frame.next_more found more) refused]
  | case4 input conn frame rest found next taken _ ih =>
      rw [parse_of_taken found taken] at parsed
      rw [parse_of_taken (Frame.next_more found more) taken]
      exact ih parsed

/-! ### The gist of a session -/

/-- The session on a link of which nothing is known, with all it has ever written before it
again. -/
def gist (conn : Conn) : Conn :=
  conn.rehouse {} conn.inbox conn.link.delivered

theorem parse_gist :
    conn.gist.parse input = ((conn.parse input).1, (conn.parse input).2.gist) := by
  rw [gist, parse_rehouse, gist, parse_link]

end Conn

end PgClient
