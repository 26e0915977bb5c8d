/-
The rows in the hands of a session.

A row is built from a description and a message with its values, and carries the fields of
the description with it. It has one value for each of them, while it is gathered with
others and when it waits to be taken in a result, and the result has the same fields.
-/

import PgClient.Proofs.Conn.Conversation
import PgClient.Proofs.Conn.Effect
import PgClient.Proofs.Conn.Guarded
import PgClient.Proofs.Conn.Settled
import PgClient.Proofs.Wire.Layout

namespace PgClient

/-- The row shares these fields, and has one value for each. -/
def Row.Fills (fields : List Field) (row : Row) : Prop :=
  row.fields = fields ∧ row.values.length = fields.length

def QueryResult.Filled (result : QueryResult) : Prop :=
  ∀ row ∈ result.rows, row.Fills result.fields

def ResultBuilder.Filled (builder : ResultBuilder) : Prop :=
  ∀ row ∈ builder.rows, row.Fills builder.fields

/-! ### Messages -/

namespace ResultBuilder

private theorem push_filled {builder after : ResultBuilder} {columns : UInt16} {body : Bytes}
    (filled : builder.Filled) (pushed : builder.push columns body = .ok after) :
    after.Filled := by
  unfold push at pushed
  split at pushed
  · cases pushed
  · rename_i matching
    split at pushed
    · cases pushed
    · rename_i values read
      cases pushed
      intro row member
      cases member with
      | head =>
          constructor
          · rfl
          · rw [readValues_length read]
            exact Decidable.not_not.mp matching
      | tail _ earlier => exact filled row earlier

private theorem finish_filled {builder : ResultBuilder} (filled : builder.Filled) (tag : String) :
    (builder.finish tag).Filled := by
  intro row member
  exact filled row (List.mem_reverse.mp member)

end ResultBuilder

private theorem QueryResult.filled_of_empty {result : QueryResult} (empty : result.rows = []) :
    result.Filled := by
  intro row member
  rw [empty] at member
  cases member

namespace BackendMessage

variable {describing : Bool} {begun : Option ResultBuilder} {message : BackendMessage}

private theorem yields_filled (filled : ∀ builder, begun = some builder → builder.Filled) :
    ∀ result ∈ message.yields describing begun, result.Filled := by
  intro result member
  cases message with
  | commandComplete tag =>
      cases begun with
      | none =>
          cases List.mem_singleton.mp member
          exact QueryResult.filled_of_empty rfl
      | some builder =>
          cases List.mem_singleton.mp member
          exact ResultBuilder.finish_filled (filled builder rfl) tag
  | rowDescription count body =>
      simp only [yields] at member
      split at member
      · cases member
      · split at member
        · cases List.mem_singleton.mp member
          exact QueryResult.filled_of_empty rfl
        · cases member
  | noData =>
      simp only [yields] at member
      split at member
      · cases List.mem_singleton.mp member
        exact QueryResult.filled_of_empty rfl
      · cases member
  | emptyQueryResponse =>
      cases List.mem_singleton.mp member
      exact QueryResult.filled_of_empty rfl
  | errorResponse body =>
      simp only [yields] at member
      split at member
      · cases member
      · cases List.mem_singleton.mp member
        exact QueryResult.filled_of_empty rfl
  | _ => cases member

private theorem leaves_filled (filled : ∀ builder, begun = some builder → builder.Filled) :
    ∀ builder, message.leaves describing begun = some builder → builder.Filled := by
  intro builder left
  cases message with
  | rowDescription count body =>
      simp only [leaves] at left
      split at left
      · exact filled builder left
      · split at left
        · exact filled builder left
        · cases left
          intro row member
          cases member
  | dataRow columns body =>
      simp only [leaves] at left
      split at left
      · cases left
      · rename_i before
        cases pushed : before.push columns body with
        | error fault =>
            rw [pushed] at left
            cases left
        | ok after =>
            rw [pushed] at left
            cases left
            exact ResultBuilder.push_filled (filled before rfl) pushed
  | commandComplete tag => cases left
  | errorResponse body => cases left
  | readyForQuery indicator => cases left
  | _ => exact filled builder left

end BackendMessage

/-! ### Sessions -/

namespace Conn

structure Filled (conn : Conn) : Prop where
  builder : ∀ builder, conn.builder = some builder → builder.Filled
  results : ∀ result ∈ conn.results.toList, result.Filled

namespace Filled

variable {conn after : Conn}

private theorem handleFrame {frame : Frame} (filled : conn.Filled)
    (taken : conn.handleFrame frame = .ok after) : after.Filled := by
  have effect := handleFrame_effect taken
  constructor
  · intro builder gathered
    rw [effect.builder] at gathered
    unfold Frame.leaves at gathered
    split at gathered
    · cases gathered
    · exact BackendMessage.leaves_filled filled.builder builder gathered
  · intro result member
    rw [effect.results] at member
    rcases List.mem_append.mp member with earlier | yielded
    · exact filled.results result earlier
    · unfold Frame.yields at yielded
      split at yielded
      · cases yielded
      · exact BackendMessage.yields_filled filled.builder result yielded

private theorem parse (filled : conn.Filled) (input : Bytes) : (conn.parse input).2.Filled := by
  induction input, conn using Conn.parse.induct with
  | case1 input conn fault found =>
      rw [parse_of_fault found]
      exact { filled with }
  | case2 input conn found =>
      rw [parse_of_partial found]
      exact { filled with }
  | case3 input conn frame rest found fault refused =>
      rw [parse_of_refused found refused]
      exact { filled with }
  | case4 input conn frame rest found next taken _ ih =>
      rw [parse_of_taken found taken]
      exact ih (filled.handleFrame taken)

private theorem flush (filled : conn.Filled) : conn.flush.2.Filled := by
  unfold Conn.flush
  split
  · exact filled
  · split
    · exact filled
    · dsimp only
      split
      · exact { filled with }
      · exact { filled with }
      · exact { filled with }
      · exact { filled with }

private theorem consumeInput (filled : conn.Filled) : conn.consumeInput.2.Filled := by
  have gathered : conn.gathering.Filled := { filled with }
  apply consumeInput_cases conn
  · intro _
    exact filled
  · intro _ fault _
    exact { gathered with }
  · intro _ _ fault parsed reading
    have handled := gathered.parse conn.gathering.inbox
    rw [reading] at handled
    exact handled
  · intro _ _ parsed reading
    have handled := gathered.parse conn.gathering.inbox
    rw [reading] at handled
    exact handled.flush

private theorem send (filled : conn.Filled) (command : Command) : (conn.send command).2.Filled := by
  unfold Conn.send
  split
  · exact filled
  · split
    · rename_i queued
      cases congrArg Prod.snd queued
      exact { filled with }
    · rename_i queued
      cases congrArg Prod.snd queued
      exact { filled with }

private theorem takeResult (filled : conn.Filled) : conn.takeResult.2.Filled := by
  rcases takeResult_cases conn with none | ⟨result, results, taken, first⟩
  · rw [none]
    exact filled
  · rw [taken]
    constructor
    · exact filled.builder
    · intro later member
      exact filled.results later (by rw [first]; exact List.mem_cons_of_mem _ member)

private theorem finish (filled : conn.Filled) : conn.finish.Filled := by
  unfold Conn.finish
  split
  · exact filled
  · exact ⟨filled.builder, by intro result member; cases member⟩

theorem perform (filled : conn.Filled) (deed : Deed) : (conn.perform deed).Filled := by
  cases deed with
  | send command => exact filled.send command
  | flush => exact filled.flush
  | consume => exact filled.consumeInput
  | takeResult => exact filled.takeResult
  | takeResults => exact ⟨filled.builder, by intro result member; cases member⟩
  | finish => exact filled.finish

/-- An opening gathers no rows and queues no results. -/
theorem opens : Opens (fun _ conn => conn.Filled) (fun _ conn => conn.Filled) where
  tells _ _ _ _ filled := { filled with }
  reads _ _ filled := { filled with }
  breaks _ filled := { filled with }
  speaks _ _ _ filled := { filled with }
  stops filled := filled
  stalls _ _ filled := { filled with }
  stays _ _ filled := { filled with }
  writes filled := by
    unfold Conn.flushFully
    split
    · exact filled
    · dsimp only
      split
      · exact { filled with }
      · exact { filled with }
      · exact { filled with }
      · exact { filled with }

private theorem fresh (link : Link) (outbox : Bytes) : ({ link, outbox } : Conn).Filled where
  builder := by
    intro builder gathered
    cases gathered
  results := by
    intro result member
    cases member

theorem connect (config : Config) (nonces : Nat → String)
    (dial : Address → Except IoFault Link) : (Conn.connect config nonces dial).2.Filled := by
  unfold Conn.connect
  split
  · exact { fresh {} [] with }
  · rename_i link _
    split
    · exact { fresh link [] with }
    · have started : (Conn.startup config nonces { link }).2.Filled :=
        (opens.startup config nonces { link } (fresh link _)).always
      split
      · rename_i starting
        rw [starting] at started
        exact started.finish
      · exact started

end Filled

def rows (conn : Conn) : List Row :=
  conn.builder.toList.flatMap ResultBuilder.rows ++ conn.results.toList.flatMap QueryResult.rows

private theorem Filled.values_length {conn : Conn} (filled : conn.Filled) :
    ∀ row ∈ conn.rows, row.values.length = row.fields.length := by
  intro row member
  rcases List.mem_append.mp member with gathered | waiting
  · obtain ⟨builder, present, inside⟩ := List.mem_flatMap.mp gathered
    obtain ⟨shared, count⟩ := filled.builder builder (Option.mem_toList.mp present) row inside
    rw [shared, count]
  · obtain ⟨result, present, inside⟩ := List.mem_flatMap.mp waiting
    obtain ⟨shared, count⟩ := filled.results result present row inside
    rw [shared, count]

end Conn

/-! ### Any session with any server -/

/-- Whatever is on the other end, a session that looks before it takes comes through the
opening and through everything that is done with it afterwards, as the session does that
does not look, and every row that it holds is as long as its fields. -/
theorem Guarded.session_in_bounds (config : Config) (nonces : Nat → String)
    (dial : Address → Except IoFault Link) (deeds : List Deed) :
    let opened := Conn.connect config nonces dial
    let reached := opened.2.course deeds
    Guarded.connect config nonces dial = .ok opened ∧
      Guarded.course deeds opened.2 = .ok reached ∧
      Guarded.consumeInput reached = .ok reached.consumeInput ∧
      ∀ row ∈ reached.rows, row.values.length = row.fields.length := by
  have opened : (Conn.connect config nonces dial).2.Filled := .connect config nonces dial
  refine ⟨connect_eq dial, course_eq deeds _, consumeInput_eq _, ?_⟩
  apply Conn.Filled.values_length
  exact Conn.course_keeps (fun _ deed filled => filled.perform deed) opened deeds

def oneRow (_ : Address) : Except IoFault Link :=
  let described : BackendMessage :=
    .rowDescription 1 (Field.ofType "n" 25).bytes
  let row : BackendMessage := .dataRow 1 [0, 0, 0, 1, 65]
  .ok
    { arrivals :=
        [.data (Frame.stream [(BackendMessage.authentication .ok).frame,
            (BackendMessage.readyForQuery 73).frame]),
          .data (Frame.stream [described.frame, row.frame])] }

theorem Guarded.session_in_bounds_oneRow :
    let opened := Conn.connect {} (fun _ => "") oneRow
    let deeds : List Deed := [.send (.query "select 'A' n"), .flush, .consume]
    let reached := opened.2.course deeds
    opened.1 = .established ∧ reached.rows.map Row.length = [1] ∧
      Guarded.connect {} (fun _ => "") oneRow = .ok opened ∧
      Guarded.course deeds opened.2 = .ok reached ∧
      Guarded.consumeInput reached = .ok reached.consumeInput ∧
      ∀ row ∈ reached.rows, row.values.length = row.fields.length := by
  intro opened deeds reached
  have established : opened.1 = .established := by decide +kernel
  have received : reached.rows.map Row.length = [1] := by decide +kernel
  exact ⟨established, received, session_in_bounds {} (fun _ => "") oneRow deeds⟩

end PgClient
