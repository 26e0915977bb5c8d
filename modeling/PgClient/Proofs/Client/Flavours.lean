/-
Blocking handles and those of tasks come to the same.

A task that is carried through to its end takes the turns that a blocking call takes, and
waits where it waits. What is done around the turns, on a session, on a cursor and in
going over rows, is then the same as well; so it makes no difference to a program which
of its calls are made on which kind of handle. Only letting go of a cursor that is open
tells the two kinds apart.
-/

import PgClient.Conn.Startup
import PgClient.Proofs.Client.Calls
import PgClient.Proofs.Result.Response
import PgClient.Proofs.Wire.Stream

namespace PgClient

/-! ### Waiting -/

namespace Waiting

variable {α γ τ : Type} [Exchange γ α] [Transport τ]

private theorem run_ofFlavour (flavour : Flavour) (timeout : Option Nat) (exchange : γ)
    (transport : τ) :
    run (.ofFlavour flavour) timeout exchange transport =
      run .blocking timeout exchange transport := by
  cases flavour with
  | blocking => rfl
  | async => exact awaitTask_none timeout _ .nothing exchange transport

end Waiting

variable {τ : Type} [Transport τ]

/-! ### Calls on a session -/

namespace Session

variable {α γ : Type} [Exchange γ α]

private theorem run_ofFlavour (flavour : Flavour) (exchange : γ) (session : Session τ) :
    session.run (.ofFlavour flavour) exchange = session.run .blocking exchange := by
  unfold run
  rw [Waiting.run_ofFlavour]

private theorem execute_ofFlavour (flavour : Flavour) (sql : String) (parameters : List Parameter)
    (session : Session τ) :
    session.execute (.ofFlavour flavour) sql parameters =
      session.execute .blocking sql parameters := by
  unfold execute
  simp only [run_ofFlavour]

private theorem endTransaction_ofFlavour (flavour : Flavour) (sql : String) (session : Session τ) :
    session.endTransaction (.ofFlavour flavour) sql =
      session.endTransaction .blocking sql := by
  unfold endTransaction
  simp only [run_ofFlavour]

end Session

/-! ### Calls on a cursor -/

namespace Cursor

private theorem execute_ofFlavour (flavour : Flavour) (query : String) (parameters : List Parameter)
    (options : DeclareOptions) (cursor : Cursor) (session : Session τ) :
    cursor.execute (.ofFlavour flavour) query parameters options session =
      cursor.execute .blocking query parameters options session := by
  unfold execute
  simp only [Session.run_ofFlavour]

private theorem work_ofFlavour (flavour : Flavour) (asked : Except Error Working) (cursor : Cursor)
    (session : Session τ) :
    cursor.work (.ofFlavour flavour) asked session = cursor.work .blocking asked session := by
  unfold work
  simp only [Session.run_ofFlavour]

private theorem describe_ofFlavour (flavour : Flavour) (cursor : Cursor) (session : Session τ) :
    cursor.describe (.ofFlavour flavour) session = cursor.describe .blocking session := by
  unfold describe
  rw [work_ofFlavour]

private theorem fetch_ofFlavour (flavour : Flavour) (count : Option Nat) (cursor : Cursor)
    (session : Session τ) :
    cursor.fetch (.ofFlavour flavour) count session = cursor.fetch .blocking count session := by
  unfold fetch
  rw [work_ofFlavour]

private theorem fetchOne_ofFlavour (flavour : Flavour) (cursor : Cursor) (session : Session τ) :
    cursor.fetchOne (.ofFlavour flavour) session = cursor.fetchOne .blocking session := by
  unfold fetchOne
  rw [fetch_ofFlavour]

private theorem scroll_ofFlavour (flavour : Flavour) (value : Int64) (mode : ScrollMode)
    (cursor : Cursor) (session : Session τ) :
    cursor.scroll (.ofFlavour flavour) value mode session =
      cursor.scroll .blocking value mode session := by
  unfold scroll
  rw [work_ofFlavour]

private theorem scrollNamed_ofFlavour (flavour : Flavour) (value : Int64) (mode : String)
    (cursor : Cursor) (session : Session τ) :
    cursor.scrollNamed (.ofFlavour flavour) value mode session =
      cursor.scrollNamed .blocking value mode session := by
  unfold scrollNamed
  simp only [scroll_ofFlavour]

private theorem close_ofFlavour (flavour : Flavour) (cursor : Cursor) (session : Session τ) :
    cursor.close (.ofFlavour flavour) session = cursor.close .blocking session := by
  unfold close
  simp only [Session.run_ofFlavour]

/-! A cursor keeps the number of rows that are fetched for an iteration, whatever is
called on it. -/

variable (manner : Manner) (cursor : Cursor) (session : Session τ)

private theorem execute_iterationSize (query : String) (parameters : List Parameter)
    (options : DeclareOptions) :
    (cursor.execute manner query parameters options session).2.1.iterationSize =
      cursor.iterationSize := by
  unfold execute
  split
  · rfl
  · split
    · rfl
    · split <;> rfl

private theorem work_iterationSize (asked : Except Error Working) :
    (cursor.work manner asked session).2.1.iterationSize = cursor.iterationSize := by
  unfold work
  split
  · rfl
  · split <;> rfl

private theorem describe_iterationSize :
    (cursor.describe manner session).2.1.iterationSize = cursor.iterationSize := by
  rw [← work_iterationSize manner cursor session cursor.portal.describe]
  unfold describe
  split <;> rename_i worked <;> rw [worked]

private theorem fetch_iterationSize (count : Option Nat) :
    (cursor.fetch manner count session).2.1.iterationSize = cursor.iterationSize := by
  rw [← work_iterationSize manner cursor session (cursor.portal.fetch count)]
  unfold fetch
  split <;> rename_i worked <;> rw [worked]

private theorem moved_iterationSize (value : Int64) (mode : ScrollMode) :
    (cursor.moved value mode).iterationSize = cursor.iterationSize := by
  cases mode <;> rfl

private theorem scroll_iterationSize (value : Int64) (mode : ScrollMode) :
    (cursor.scroll manner value mode session).2.1.iterationSize = cursor.iterationSize := by
  rw [← work_iterationSize manner cursor session (cursor.portal.scroll value.toInt mode)]
  unfold scroll
  split
  · rename_i worked
    rw [worked]
  · rename_i worked
    rw [worked]
    exact moved_iterationSize _ value mode

private theorem scrollNamed_iterationSize (value : Int64) (mode : String) :
    (cursor.scrollNamed manner value mode session).2.1.iterationSize =
      cursor.iterationSize := by
  unfold scrollNamed
  split
  · rfl
  · exact scroll_iterationSize manner cursor session value _

private theorem close_iterationSize :
    (cursor.close manner session).2.1.iterationSize = cursor.iterationSize := by
  unfold close
  split <;> rfl

end Cursor

/-! ### Going over rows -/

namespace Rows

private theorem next_iterationSize (rows : Rows) (cursor : Cursor) (session : Session τ) :
    (rows.next cursor session).cursor.iterationSize = cursor.iterationSize := by
  have kept := cursor.fetch_iterationSize .blocking session (some cursor.iterationSize)
  unfold next
  split
  · rfl
  · split
    · rfl
    · dsimp only
      split
      · rename_i fetched
        rw [fetched] at kept
        exact kept
      · rename_i fetched
        rw [fetched] at kept
        split <;> exact kept

/-- A stream asks for a number of rows, of which zero would stand for another; no cursor
has it for its iterations. -/
theorem nextAsync_none (rows : Rows) (cursor : Cursor) (session : Session τ)
    (positive : 0 < cursor.iterationSize) :
    rows.nextAsync none cursor session = rows.next cursor session := by
  have asked : cursor.fetchMany (.async none) cursor.iterationSize session =
      cursor.fetch .blocking (some cursor.iterationSize) session := by
    unfold Cursor.fetchMany
    rw [if_neg (Nat.ne_of_gt positive)]
    exact cursor.fetch_ofFlavour .async _ session
  have kept := cursor.fetch_iterationSize .blocking session (some cursor.iterationSize)
  unfold nextAsync next ready
  rw [asked]
  obtain ⟨batch, finished⟩ := rows
  cases batch with
  | cons row batch => rfl
  | nil =>
      dsimp only
      cases finished with
      | true => rfl
      | false =>
          generalize cursor.fetch .blocking (some cursor.iterationSize) session = fetched at kept ⊢
          obtain ⟨outcome, after, session⟩ := fetched
          cases outcome with
          | error failure => rfl
          | ok batch =>
              dsimp only at kept ⊢
              rw [kept]
              cases batch with
              | nil => rfl
              | cons row batch => rfl

end Rows

/-! ### Calls of a client -/

namespace CursorCall

def isDrop : CursorCall → Bool
  | drop _ => true
  | _ => false

end CursorCall

def Call.isDrop : Call → Bool
  | .cursor _ call => call.isDrop
  | _ => false

namespace Handle

/-- An iteration fetches at least one row at a time. -/
def Iterable (handle : Handle) : Prop :=
  0 < handle.cursor.iterationSize

private theorem perform_flavour (flavour : Flavour) {call : CursorCall} (kept : call.isDrop = false)
    {handle : Handle} (iterable : handle.Iterable) (session : Session τ) :
    handle.perform (.ofFlavour flavour) call session = handle.perform .blocking call session := by
  obtain ⟨cursor, rows⟩ := handle
  cases call with
  | create name => rfl
  | adopt name => rfl
  | setIterationSize size => rfl
  | setArraySize size => rfl
  | iterate => rfl
  | prepare query parameters options => rfl
  | execute query parameters options =>
      exact congrArg (answer rows _)
        (cursor.execute_ofFlavour flavour query parameters options session)
  | describe => exact congrArg (answer rows _) (cursor.describe_ofFlavour flavour session)
  | fetchOne => exact congrArg (answer rows _) (cursor.fetchOne_ofFlavour flavour session)
  | fetchMany size =>
      exact congrArg (answer rows _) (cursor.fetch_ofFlavour flavour _ session)
  | fetchAll => exact congrArg (answer rows _) (cursor.fetch_ofFlavour flavour none session)
  | scroll value mode =>
      exact congrArg (answer rows _) (cursor.scroll_ofFlavour flavour value mode session)
  | scrollNamed value mode =>
      exact congrArg (answer rows _) (cursor.scrollNamed_ofFlavour flavour value mode session)
  | next =>
      cases flavour with
      | blocking => rfl
      | async => exact congrArg pulled (rows.nextAsync_none cursor session iterable)
  | close => exact congrArg (answer rows _) (cursor.close_ofFlavour flavour session)
  | drop insideTask => cases kept

private theorem perform_iterable (call : CursorCall) {handle : Handle} (iterable : handle.Iterable)
    (session : Session τ) : (handle.perform .blocking call session).handle.Iterable := by
  obtain ⟨cursor, rows⟩ := handle
  have of_kept : ∀ {after : Cursor}, after.iterationSize = cursor.iterationSize →
      0 < after.iterationSize := fun kept => kept ▸ iterable
  cases call with
  | create name => exact Nat.zero_lt_succ 99
  | adopt name => exact Nat.zero_lt_succ 99
  | setIterationSize size => exact Nat.lt_of_lt_of_le Nat.zero_lt_one (Nat.le_max_right size 1)
  | setArraySize size => exact iterable
  | iterate => exact iterable
  | execute query parameters options =>
      exact of_kept (cursor.execute_iterationSize .blocking session query parameters options)
  | prepare query parameters options =>
      unfold perform
      dsimp only
      split <;> exact iterable
  | describe => exact of_kept (cursor.describe_iterationSize .blocking session)
  | fetchOne => exact of_kept (cursor.fetch_iterationSize .blocking session (some 1))
  | fetchMany size => exact of_kept (cursor.fetch_iterationSize .blocking session _)
  | fetchAll => exact of_kept (cursor.fetch_iterationSize .blocking session none)
  | scroll value mode => exact of_kept (cursor.scroll_iterationSize .blocking session value mode)
  | scrollNamed value mode =>
      exact of_kept (cursor.scrollNamed_iterationSize .blocking session value mode)
  | next => exact of_kept (rows.next_iterationSize cursor session)
  | close => exact of_kept (cursor.close_iterationSize .blocking session)
  | drop insideTask => exact iterable

end Handle

namespace Client

def Iterable (client : Client τ) : Prop :=
  ∀ number, (client.handles number).Iterable

private theorem ofTransport_iterable (transport : τ) (timeout : Option Nat) :
    (ofTransport transport timeout).Iterable :=
  fun _ => Nat.zero_lt_succ 99

private theorem perform_flavour (flavour : Flavour) {call : Call} (kept : call.isDrop = false)
    {client : Client τ} (iterable : client.Iterable) :
    client.perform (.ofFlavour flavour) call = client.perform .blocking call := by
  cases call with
  | execute sql parameters =>
      exact congrArg (client.answer _) (client.session.execute_ofFlavour flavour sql parameters)
  | commit =>
      exact congrArg (client.answer _) (client.session.endTransaction_ofFlavour flavour _)
  | rollback =>
      exact congrArg (client.answer _) (client.session.endTransaction_ofFlavour flavour _)
  | setAutocommit autocommit => rfl
  | setTimeout timeout => rfl
  | close => rfl
  | cursor number call =>
      have same := Handle.perform_flavour flavour kept (iterable number) client.session
      unfold perform
      dsimp only
      rw [same]

omit [Transport τ] in
private theorem setHandle_iterable {client : Client τ} (iterable : client.Iterable) (number : Nat)
    {handle : Handle} (replaced : handle.Iterable) :
    (client.setHandle number handle).Iterable := by
  intro other
  unfold setHandle
  dsimp only
  split
  · exact replaced
  · exact iterable other

private theorem perform_iterable (call : Call) {client : Client τ} (iterable : client.Iterable) :
    (client.perform .blocking call).client.Iterable := by
  cases call with
  | cursor number call =>
      exact setHandle_iterable iterable number
        (Handle.perform_iterable call (iterable number) client.session)
  | _ => exact iterable

end Client

/-! ### Programs -/

/-- A program that makes calls on a session and closes its cursors itself. What it calls
next may hang on everything that it has seen: how each call before has come out, and the
session and the cursors as the call has left them, the latest first. -/
structure Program (τ : Type) where
  next : List (Client.Performed τ) → Option Call
  keeps : ∀ seen call, next seen = some call → call.isDrop = false

namespace Program

/-- The first calls of a program, so many at most. Each is made on a handle of the kind
that is chosen for it, and carried through to its end before the next. -/
def play (program : Program τ) (handles : List (Client.Performed τ) → Flavour) :
    Nat → List (Client.Performed τ) → Client τ → List (Client.Performed τ)
  | 0, seen, _ => seen
  | limit + 1, seen, client =>
      match program.next seen with
      | none => seen
      | some call =>
          let performed := client.perform (.ofFlavour (handles seen)) call
          play program handles limit (performed :: seen) performed.client

private theorem play_blocking (program : Program τ) (handles : List (Client.Performed τ) → Flavour)
    (limit : Nat) (seen : List (Client.Performed τ)) {client : Client τ}
    (iterable : client.Iterable) :
    program.play handles limit seen client =
      program.play (fun _ => .blocking) limit seen client := by
  induction limit generalizing seen client with
  | zero => rfl
  | succ limit ih =>
      unfold play
      cases asked : program.next seen with
      | none => rfl
      | some call =>
          dsimp only
          rw [Client.perform_flavour (handles seen) (program.keeps seen call asked) iterable]
          exact ih _ (Client.perform_iterable call iterable)

/-- A program sees the same, call by call, on blocking handles, on handles of tasks, and
on handles of both kinds however its calls are spread over them: the same values and
errors, the same states, descriptions, last results and row numbers of its cursors, and
the same session, with its status, its flag and everything that has gone over its link. -/
theorem play_flavours (program : Program τ) (transport : τ) (timeout : Option Nat)
    (limit : Nat) (first second : List (Client.Performed τ) → Flavour) :
    program.play first limit [] (.ofTransport transport timeout) =
      program.play second limit [] (.ofTransport transport timeout) := by
  have iterable := Client.ofTransport_iterable transport timeout
  rw [program.play_blocking first limit [] iterable,
    program.play_blocking second limit [] iterable]

/-- Runs a statement, declares a cursor for a query and goes over its rows as long as there are
any. Then the cursor is closed, and after any failure nothing more is done. -/
def overRows (statement query : String) : Program τ where
  next
    | [] => some (.execute statement [])
    | [_] => some (.cursor 1 (.execute query [] {}))
    | [_, _] => some (.cursor 1 .iterate)
    | [_, _, _] => some (.cursor 1 .next)
    | latest :: _ =>
        match latest.outcome with
        | .ok (.row (some _)) => some (.cursor 1 .next)
        | .ok (.row none) => some (.cursor 1 .close)
        | _ => none
  keeps := by
    intro seen call asked
    split at asked
    · cases asked
      rfl
    · cases asked
      rfl
    · cases asked
      rfl
    · cases asked
      rfl
    · split at asked
      · cases asked
        rfl
      · cases asked
        rfl
      · cases asked

def row? (performed : Client.Performed τ) : Option Row :=
  match performed.outcome with
  | .ok (.row row) => row
  | _ => none

/-- A server that lets everybody in, inside a transaction, and has two numbers to fetch. -/
def twoNumbers (_ : Address) : Except IoFault Link :=
  let fields : List Field := [.ofType "n" .int4]
  let answer (response : Response) : Arrival := .data (Frame.stream (response.frames 'T'.toUInt8))
  let rows (values : List (List (Option Bytes))) (tag : String) : Arrival :=
    answer (.statements [.rows ⟨fields, values⟩ tag] none)
  let welcome : Bytes := Frame.bytes { first := 'R'.toUInt8, body := [0, 0, 0, 0] }
  .ok
    { arrivals :=
        [.data (welcome ++ (BackendMessage.readyForQuery 'T'.toUInt8).frame.bytes),
          answer (.statements [.done "SET"] none), .blocked,
          answer (.statements [.done "DECLARE CURSOR"] none), .blocked,
          answer (.portal (some fields)), .blocked,
          rows [[some [49]], [some [50]]] "FETCH 2", .blocked, rows [] "FETCH 0", .blocked,
          answer (.statements [.done "CLOSE CURSOR"] none), .blocked]
      reports := List.replicate 6 (some { readable := true, writable := true }) }

/-- Every other call is made on a handle of a task, and both numbers are seen. -/
theorem play_flavours_overRows :
    let opened := (Conn.connect {} (fun _ => "") twoNumbers).2
    let program : Program Conn := overRows "set a = b" "select n from t"
    let mixed (seen : List (Client.Performed Conn)) : Flavour :=
      if seen.length % 2 = 0 then .blocking else .async
    let seen := program.play mixed 12 [] (.ofTransport opened none)
    seen = program.play (fun _ => .blocking) 12 [] (.ofTransport opened none) ∧
      seen.length = 7 ∧
      (seen.reverse.filterMap row?).map Row.values = [[some [49]], [some [50]]] := by
  intro opened program mixed seen
  have same : seen = program.play (fun _ => .blocking) 12 [] (.ofTransport opened none) :=
    program.play_flavours opened none 12 mixed fun _ => .blocking
  refine ⟨same, ?_, ?_⟩
  · decide +kernel
  · decide +kernel

end Program

end PgClient
