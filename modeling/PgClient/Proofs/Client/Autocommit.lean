/-
The mode of a session.

Whether transactions are wanted is asked for by one call alone. That call is refused where
a transaction is open, and no other call touches the mode, however it ends.
-/

import PgClient.Proofs.Client.Calls

namespace PgClient

variable {α γ τ : Type} [Exchange γ α] [Transport τ]

/-! ### Calls on a session -/

namespace Session

omit [Exchange γ α] in
private theorem settle_autocommit (outcome : Except Failure α) (session : Session τ) :
    (settle outcome session).autocommit = session.autocommit :=
  settle_part autocommit (fun _ _ => rfl) (fun _ _ => rfl) ..

private theorem run_autocommit (manner : Manner) (exchange : γ) (session : Session τ) :
    (session.run manner exchange).session.autocommit = session.autocommit :=
  settle_autocommit ..

variable (manner : Manner) (session : Session τ)

private theorem execute_autocommit (sql : String) (parameters : List Parameter) :
    (session.execute manner sql parameters).2.autocommit = session.autocommit := by
  unfold execute
  cases session.checkOpen with
  | error error => rfl
  | ok checked => exact run_autocommit ..

private theorem endTransaction_autocommit (sql : String) :
    (session.endTransaction manner sql).2.autocommit = session.autocommit := by
  unfold endTransaction
  cases session.checkOpen with
  | error error => rfl
  | ok checked =>
      dsimp only
      split
      · rfl
      · exact run_autocommit ..

/-- The mode is set where no transaction is open, or it is not set. -/
theorem setAutocommit_cases (autocommit : Bool) (session : Session τ) :
    (session.setAutocommit autocommit).2 = session ∨
      session.transactionStatus = .idle ∧
        (session.setAutocommit autocommit).2 = { session with autocommit } := by
  unfold setAutocommit
  cases session.checkOpen with
  | error error => exact .inl rfl
  | ok checked =>
      dsimp only
      split
      · exact .inl rfl
      · rename_i idle
        exact .inr ⟨Decidable.not_not.mp idle, rfl⟩

end Session

/-! ### Calls on a cursor -/

namespace Cursor

variable (manner : Manner) (cursor : Cursor) (session : Session τ)

private theorem execute_autocommit (query : String) (parameters : List Parameter)
    (options : DeclareOptions) :
    (cursor.execute manner query parameters options session).2.2.autocommit =
      session.autocommit := by
  unfold execute
  cases cursor.portal.declare query parameters options with
  | error error => rfl
  | ok declaring =>
      cases session.checkOpen with
      | error error => rfl
      | ok checked =>
          have kept := Session.run_autocommit manner (session.inTransaction declaring) session
          dsimp only
          generalize session.run manner (session.inTransaction declaring) = answered at kept ⊢
          obtain ⟨outcome, exchange, after⟩ := answered
          cases outcome with
          | error failure => exact kept
          | ok done => exact kept

private theorem work_autocommit (asked : Except Error Working) :
    (cursor.work manner asked session).2.2.autocommit = session.autocommit := by
  unfold work
  cases asked with
  | error error => rfl
  | ok working =>
      cases session.checkOpen with
      | error error => rfl
      | ok checked => exact Session.run_autocommit ..

private theorem describe_autocommit :
    (cursor.describe manner session).2.2.autocommit = session.autocommit := by
  have kept := cursor.work_autocommit manner session cursor.portal.describe
  unfold describe
  generalize cursor.work manner cursor.portal.describe session = worked at kept ⊢
  obtain ⟨failure | rows, next, after⟩ := worked
  · exact kept
  · exact kept

private theorem fetch_autocommit (count : Option Nat) :
    (cursor.fetch manner count session).2.2.autocommit = session.autocommit := by
  have kept := cursor.work_autocommit manner session (cursor.portal.fetch count)
  unfold fetch
  generalize cursor.work manner (cursor.portal.fetch count) session = worked at kept ⊢
  obtain ⟨failure | rows, next, after⟩ := worked
  · exact kept
  · exact kept

private theorem scroll_autocommit (value : Int64) (mode : ScrollMode) :
    (cursor.scroll manner value mode session).2.2.autocommit = session.autocommit := by
  have kept := cursor.work_autocommit manner session (cursor.portal.scroll value.toInt mode)
  unfold scroll
  generalize cursor.work manner (cursor.portal.scroll value.toInt mode) session = worked at kept ⊢
  obtain ⟨failure | rows, next, after⟩ := worked
  · exact kept
  · exact kept

private theorem scrollNamed_autocommit (value : Int64) (mode : String) :
    (cursor.scrollNamed manner value mode session).2.2.autocommit = session.autocommit := by
  unfold scrollNamed
  cases ScrollMode.ofName mode with
  | error error => rfl
  | ok mode => exact scroll_autocommit ..

private theorem close_autocommit :
    (cursor.close manner session).2.2.autocommit = session.autocommit := by
  unfold close
  rcases cursor.portal.close session.transactionStatus with ⟨none | closing, portal⟩
  · rfl
  · exact Session.run_autocommit manner closing session

private theorem drop_autocommit (flavour : Flavour) (insideTask : Bool) :
    (cursor.drop flavour insideTask session).autocommit = session.autocommit := by
  unfold drop
  split
  · rfl
  · dsimp only
    split
    · rfl
    · split
      · rfl
      · rename_i closing portal asked
        have kept := Session.run_autocommit .blocking closing
          { session with
            transport :=
              Transport.record (.cursorLeftOpen cursor.name flavour) session.transport }
        split
        · rename_i ended
          rw [ended] at kept
          exact kept
        · rename_i ended
          rw [ended] at kept
          exact kept

end Cursor

namespace Rows

variable (rows : Rows) (cursor : Cursor) (session : Session τ)

private theorem next_autocommit :
    (rows.next cursor session).session.autocommit = session.autocommit := by
  have kept := cursor.fetch_autocommit .blocking session (some cursor.iterationSize)
  unfold next
  split
  · rfl
  · split
    · rfl
    · dsimp only
      generalize cursor.fetch .blocking (some cursor.iterationSize) session = fetched at kept ⊢
      obtain ⟨failure | batch, cursor, after⟩ := fetched
      · exact kept
      · dsimp only
        split
        · exact kept
        · exact kept

private theorem nextAsync_autocommit (givenUpAt : Option Nat) :
    (rows.nextAsync givenUpAt cursor session).session.autocommit = session.autocommit := by
  have kept : (cursor.fetchMany (.async givenUpAt) cursor.iterationSize session).2.2.autocommit =
      session.autocommit := Cursor.fetch_autocommit ..
  unfold nextAsync
  split
  · rfl
  · split
    · rfl
    · generalize cursor.fetchMany (.async givenUpAt) cursor.iterationSize session = fetched
        at kept ⊢
      obtain ⟨failure | batch, cursor, after⟩ := fetched
      · exact kept
      · dsimp only
        split
        · exact kept
        · exact kept

end Rows

/-! ### Calls of a client -/

private theorem Handle.perform_autocommit (manner : Manner) (call : CursorCall) (handle : Handle)
    (session : Session τ) :
    (handle.perform manner call session).session.autocommit = session.autocommit := by
  unfold perform
  cases call with
  | create name => rfl
  | adopt name => rfl
  | setIterationSize size => rfl
  | setArraySize size => rfl
  | iterate => rfl
  | prepare query parameters options =>
      dsimp only
      cases handle.cursor.portal.declare query parameters options with
      | error error => rfl
      | ok declaring => rfl
  | execute query parameters options => exact Cursor.execute_autocommit ..
  | describe => exact Cursor.describe_autocommit ..
  | fetchOne => exact Cursor.fetch_autocommit ..
  | fetchMany size => exact Cursor.fetch_autocommit ..
  | fetchAll => exact Cursor.fetch_autocommit ..
  | scroll value mode => exact Cursor.scroll_autocommit ..
  | scrollNamed value mode => exact Cursor.scrollNamed_autocommit ..
  | close => exact Cursor.close_autocommit ..
  | drop insideTask => exact Cursor.drop_autocommit ..
  | next =>
      cases manner with
      | blocking => exact Rows.next_autocommit ..
      | async givenUpAt => exact Rows.nextAsync_autocommit ..

/-- The mode is another one only after a call that asks for it where no transaction is
open. -/
theorem Client.perform_autocommit (manner : Manner) (call : Call) (client : Client τ) :
    (client.perform manner call).client.session.autocommit = client.session.autocommit ∨
      client.session.transactionStatus = .idle ∧
        call = .setAutocommit (client.perform manner call).client.session.autocommit := by
  cases call with
  | execute sql parameters => exact .inl (Session.execute_autocommit ..)
  | commit => exact .inl (Session.endTransaction_autocommit ..)
  | rollback => exact .inl (Session.endTransaction_autocommit ..)
  | setTimeout timeout => exact .inl rfl
  | close => exact .inl rfl
  | cursor number call => exact .inl (Handle.perform_autocommit ..)
  | setAutocommit autocommit =>
      rcases Session.setAutocommit_cases autocommit client.session with same | ⟨idle, set⟩
      · exact .inl (congrArg Session.autocommit same)
      · exact .inr ⟨idle, congrArg Call.setAutocommit (congrArg Session.autocommit set).symm⟩

end PgClient
