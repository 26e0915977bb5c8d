/-
What an exchange needs of a session: to send one command, to read and to write without
waiting, to take results, and to wait.
-/

import PgClient.Conn.Input

namespace PgClient

class Transport (τ : Type) where
  /-- Prepares a command; nothing of it is written yet. -/
  send : Command → τ → Except Failure Unit × τ
  /-- Writes what can be written at once, and says whether something is left. -/
  flush : τ → Except Error Bool × τ
  /-- Reads what can be read at once. -/
  consumeInput : τ → Except Error Unit × τ
  isBusy : τ → Bool
  takeResult : τ → Option QueryResult × τ
  takeResults : τ → List QueryResult × τ
  checkOpen : τ → Except Error Unit
  /-- Waits, and tells what was seen, or nothing when it was not seen in time. -/
  await : Wait → τ → Option Ready × τ
  /-- How often waiting can still see something. -/
  patience : τ → Nat
  transactionStatus : τ → TransactionStatus
  clientEncoding : τ → String
  isClosed : τ → Bool
  finish : τ → τ
  record : Event → τ → τ

instance : Transport Conn where
  send := Conn.send
  flush := Conn.flush
  consumeInput := Conn.consumeInput
  isBusy := Conn.isBusy
  takeResult := Conn.takeResult
  takeResults := Conn.takeResults
  checkOpen := Conn.checkOpen
  await _ conn :=
    let (ready, link) := conn.link.await
    (ready, { conn with link })
  patience conn := conn.link.reports.length
  transactionStatus := Conn.transactionStatus
  clientEncoding := Conn.clientEncoding
  isClosed := Conn.isClosed
  finish := Conn.finish
  record := Conn.record

end PgClient
