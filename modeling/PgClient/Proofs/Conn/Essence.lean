/-
A session apart from what it is told on the side.

What a server reports on itself, the key to cancel with and the log are kept for others to
look at, and what arrives is looked at in one place only. So no other operation of a session
depends on any of them. What is left of a session without them is its essence.
-/

import PgClient.Proofs.Conn.Settled
import PgClient.Transport

namespace PgClient

namespace Link

private theorem await_unread (link : Link) :
    ({ link with arrivals := [] } : Link).await =
      (link.await.1, { link.await.2 with arrivals := [] }) := by
  obtain ⟨arrivals, uptakes, reports, delivered⟩ := link
  cases reports with
  | nil => rfl
  | cons report reports => rfl

private theorem await_arrivals (link : Link) : link.await.2.arrivals = link.arrivals := by
  obtain ⟨arrivals, uptakes, reports, delivered⟩ := link
  cases reports with
  | nil => rfl
  | cons report reports => rfl

private theorem offer_unread (output : Bytes) (link : Link) :
    ({ link with arrivals := [] } : Link).offer output =
      { link.offer output with arrivals := [] } := by
  obtain ⟨arrivals, uptakes, reports, delivered⟩ := link
  cases uptakes with
  | nil => rfl
  | cons uptake uptakes =>
      cases uptake with
      | accepted count => rfl
      | refused => rfl
      | failed fault => rfl

end Link

namespace Conn

/-- The session without the reports, the key, the log and the input. -/
def essence (conn : Conn) : Conn :=
  { conn with
    link := { conn.link with arrivals := [] }
    inbox := []
    parameters := []
    keyData := none
    journal := [] }

variable {conn other : Conn}

/-- What can be told from the essence is told alike. -/
theorem tell_alike {α : Type} (tell : Conn → α) (essential : ∀ conn, tell conn.essence = tell conn)
    (same : conn.essence = other.essence) : tell conn = tell other := by
  rw [← essential conn, same, essential]

theorem isClosed_of_essence (same : conn.essence = other.essence) :
    conn.isClosed = other.isClosed :=
  tell_alike isClosed (fun _ => rfl) same

/-! ### Messages -/

/-- What a message comes to depends on the essence of a session. -/
theorem handle_essence (message : BackendMessage) (conn : Conn) :
    (conn.essence.handle message).map essence = (conn.handle message).map essence := by
  cases message with
  | rowDescription count body =>
      simp only [handle, receiveFields]
      cases Field.readMany count.toNat body with
      | error fault => rfl
      | ok fields =>
          change Except.map essence (if conn.describing then _ else _) = _
          dsimp only
          split
          · rfl
          · rfl
  | dataRow columns body =>
      simp only [handle, receiveRow]
      dsimp only [essence]
      cases conn.builder with
      | none => rfl
      | some builder =>
          dsimp only
          cases builder.push columns body with
          | error fault => rfl
          | ok builder => rfl
  | errorResponse body =>
      simp only [handle, receiveError]
      cases Diagnostic.parse body with
      | error fault => rfl
      | ok report => rfl
  | noticeResponse body =>
      simp only [handle, receiveNotice]
      cases Diagnostic.parse body with
      | error fault => rfl
      | ok report => rfl
  | noData =>
      simp only [handle]
      change Except.map essence (if conn.describing then _ else _) = _
      split
      · rfl
      · rfl
  | _ => rfl

private theorem handleFrame_essence (frame : Frame) (conn : Conn) :
    (conn.essence.handleFrame frame).map essence = (conn.handleFrame frame).map essence := by
  unfold handleFrame
  cases BackendMessage.decode frame.first frame.body with
  | error fault => rfl
  | ok message => exact handle_essence message conn

theorem handleFrame_same (same : conn.essence = other.essence) (frame : Frame) :
    (conn.handleFrame frame).map essence = (other.handleFrame frame).map essence := by
  rw [← handleFrame_essence frame conn, same, handleFrame_essence]

/-! ### Operations that do not read -/

/-- The operation depends on the essence of a session. What has arrived it leaves alone, or
it leaves the session closed, and then nothing will be read any more. -/
structure Heedless {α : Type} (operation : Conn → α × Conn) : Prop where
  essence : ∀ conn, Prod.map id Conn.essence (operation conn.essence) =
    Prod.map id Conn.essence (operation conn)
  input : ∀ conn, (operation conn).2.isClosed = true ∨ conn.isClosed = false ∧
    (operation conn).2.inbox = conn.inbox ∧
    (operation conn).2.link.arrivals = conn.link.arrivals

theorem Heedless.same {α : Type} {operation : Conn → α × Conn} (heedless : Heedless operation)
    (same : conn.essence = other.essence) :
    Prod.map id Conn.essence (operation conn) = Prod.map id Conn.essence (operation other) := by
  rw [← heedless.essence conn, same, heedless.essence]

/-- The session is closed already, or it has left its input alone. -/
theorem Heedless.of_kept {α : Type} {operation : Conn → α × Conn}
    (essence : ∀ conn, Prod.map id Conn.essence (operation conn.essence) =
      Prod.map id Conn.essence (operation conn))
    (closed : ∀ conn, conn.isClosed = true → (operation conn).2.isClosed = true)
    (kept : ∀ conn, (operation conn).2.inbox = conn.inbox ∧
      (operation conn).2.link.arrivals = conn.link.arrivals) : Heedless operation := by
  refine ⟨essence, ?_⟩
  intro conn
  cases isClosed : conn.isClosed with
  | true => exact .inl (closed conn isClosed)
  | false => exact .inr ⟨rfl, kept conn⟩

theorem send_heedless (command : Command) : Heedless (send command) := by
  apply Heedless.of_kept
  · intro conn
    unfold send enqueue
    cases allowed : conn.checkSendable with
    | error error =>
        have refused : conn.essence.checkSendable = .error error := allowed
        rw [refused]
        rfl
    | ok _ =>
        have sendable : conn.essence.checkSendable = .ok () := allowed
        rw [sendable]
        simp only [record, essence]
        cases FrontendMessage.appendAll command.messages conn.outbox with
        | mk outcome outbox =>
            cases outcome with
            | error defect => rfl
            | ok done => rfl
  · intro conn closed
    unfold send checkSendable
    rw [if_pos closed]
    exact closed
  · intro conn
    unfold send enqueue
    cases conn.checkSendable with
    | error error => exact ⟨rfl, rfl⟩
    | ok allowed =>
        simp only [record]
        cases FrontendMessage.appendAll command.messages conn.outbox with
        | mk outcome outbox =>
            cases outcome with
            | error defect => exact ⟨rfl, rfl⟩
            | ok done => exact ⟨rfl, rfl⟩

theorem flush_heedless : Heedless flush := by
  apply Heedless.of_kept
  · intro conn
    unfold flush
    have outbox : conn.essence.outbox = conn.outbox := rfl
    have closed : conn.essence.isClosed = conn.isClosed := rfl
    have uptakes : conn.essence.link.uptakes = conn.link.uptakes := rfl
    rw [outbox, closed, uptakes]
    by_cases empty : conn.outbox.isEmpty = true
    · simp only [if_pos empty]
      rfl
    · simp only [if_neg empty]
      by_cases isClosed : conn.isClosed = true
      · simp only [if_pos isClosed]
        rfl
      · simp only [if_neg isClosed]
        cases (Link.push conn.outbox conn.link.uptakes).ending with
        | complete => rfl
        | refused => rfl
        | nothingTaken => rfl
        | failed fault => rfl
  · intro conn closed
    unfold flush
    simp only [if_pos closed]
    split
    · exact closed
    · exact closed
  · intro conn
    unfold flush
    split
    · exact ⟨rfl, rfl⟩
    · split
      · exact ⟨rfl, rfl⟩
      · dsimp only
        split
        · exact ⟨rfl, rfl⟩
        · exact ⟨rfl, rfl⟩
        · exact ⟨rfl, rfl⟩
        · exact ⟨rfl, rfl⟩

theorem takeResult_heedless : Heedless takeResult := by
  apply Heedless.of_kept
  · intro conn
    unfold takeResult
    have results : conn.essence.results = conn.results := rfl
    rw [results]
    cases conn.results.take? with
    | none => rfl
    | some taken => rfl
  · intro conn closed
    unfold takeResult
    cases conn.results.take? with
    | none => exact closed
    | some taken => exact closed
  · intro conn
    unfold takeResult
    cases conn.results.take? with
    | none => exact ⟨rfl, rfl⟩
    | some taken => exact ⟨rfl, rfl⟩

theorem takeResults_heedless : Heedless takeResults :=
  .of_kept (fun _ => rfl) (fun _ closed => closed) (fun _ => ⟨rfl, rfl⟩)

theorem record_heedless (event : Event) : Heedless fun conn => ((), conn.record event) :=
  .of_kept (fun _ => rfl) (fun _ closed => closed) (fun _ => ⟨rfl, rfl⟩)

theorem await_heedless (wait : Wait) :
    Heedless (Transport.await wait : Conn → Option Ready × Conn) := by
  have shape (conn : Conn) : Transport.await wait conn =
      (conn.link.await.1, { conn with link := conn.link.await.2 }) := rfl
  apply Heedless.of_kept
  · intro conn
    rw [shape, shape]
    change Prod.map id essence
      (({ conn.link with arrivals := [] } : Link).await.1,
        { conn.essence with link := ({ conn.link with arrivals := [] } : Link).await.2 }) = _
    rw [Link.await_unread]
    rfl
  · intro conn closed
    exact closed
  · intro conn
    rw [shape]
    exact ⟨rfl, conn.link.await_arrivals⟩

theorem finish_heedless : Heedless fun conn => ((), conn.finish) := by
  refine ⟨?_, ?_⟩
  · intro conn
    have gone : conn.essence.released = conn.released := rfl
    have broken : conn.essence.broken = conn.broken := rfl
    have outbox : conn.essence.outbox = conn.outbox := rfl
    have offered : conn.essence.link.offer terminate =
        { conn.link.offer terminate with arrivals := [] } := conn.link.offer_unread terminate
    unfold finish
    rw [gone, broken, outbox, offered]
    by_cases released : conn.released = true
    · simp only [if_pos released]
      rfl
    · simp only [if_neg released]
      by_cases willing : (!conn.broken && conn.outbox.isEmpty) = true
      · simp only [if_pos willing]
        rfl
      · simp only [if_neg willing]
        rfl
  · intro conn
    exact .inl (finish_isClosed conn)

end Conn

end PgClient
