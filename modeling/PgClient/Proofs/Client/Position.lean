/-
The row that a cursor is at.

It is reckoned call by call: on by the rows of every fetch that succeeds, be it one of an
iteration, on by the value of a relative move or to that of an absolute one, and back to the
start with an execution. The cursor tells it once it has been described, exactly for as long as
it fits into the number that is kept of it.
-/

import Mathlib.Algebra.Group.Int.Defs
import PgClient.Proofs.Client.Bound
import PgClient.Proofs.Cursor.Fetched
import PgClient.Proofs.Cursor.Remembered

namespace PgClient

variable {τ : Type} [Transport τ]

open Asked (lastFields)

/-! ### Uses of a cursor -/

section Portions

variable {portal known : Portal} {missing fetching : Bool} {command : Command} {log : List Asked}

private theorem Working.Known.portions (knows : Known portal [] missing known log)
    (other : command ≠ .describePortal portal.name) : Asked.portions command log = [] := by
  cases knows with
  | already => rfl
  | described granted =>
      obtain ⟨asked, rfl, isDescription, _⟩ := granted
      rw [Asked.portions_singleton, Asked.portion?_of_ne]
      · rfl
      · rw [isDescription]
        exact other.symm

/-- The rows of a call that succeeds are those that were granted to its statement. -/
theorem Working.Over.portions {rows : List Row}
    (ended : Over portal missing (some command) fetching [] (.ok rows) known log)
    (other : command ≠ .describePortal portal.name) : Asked.portions command log = [rows] := by
  cases ended with
  | described _ alone _ => cases alone
  | granted isStatement knows granted =>
      cases isStatement
      obtain ⟨asked, rfl, isCommand, succeeded⟩ := granted
      rw [← List.singleton_append, Asked.portions_append, knows.portions other,
        Asked.portions_singleton, Asked.portion?_of_granted isCommand succeeded]
      rfl

end Portions

namespace Cursor

def Operation.advance (name : String) (asked : List Asked) (place : Int) : Operation → Int
  | execute _ _ _ => 0
  | describe => place
  | fetch count =>
      place + (Asked.portions (.query (CursorStatement.fetch name count).sql) asked).flatten.length
  | scroll value .relative => place + value.toInt
  | scroll value .absolute => value.toInt
  | close => place

/-- An operation that fails takes the cursor nowhere. -/
def Operation.reach {α : Type} (operation : Operation) (name : String)
    (outcome : Except Failure α) (asked : List Asked) (place : Int) : Int :=
  match outcome with
  | .error _ => place
  | .ok _ => operation.advance name asked place

theorem Operation.reach_map {α β : Type} (f : α → β) {operation : Operation} {name : String}
    {outcome : Except Failure α} {asked : List Asked} {place : Int} :
    operation.reach name (outcome.map f) asked place =
      operation.reach name outcome asked place := by
  cases outcome with
  | error failure => rfl
  | ok value => rfl

private theorem execute_position (manner : Manner) (query : String) (parameters : List Parameter)
    (options : DeclareOptions) (cursor : Cursor) (session : Session τ) :
    let told := cursor.execute manner query parameters options session
    told.2.1.position =
      match told.1 with
      | .error _ => cursor.position
      | .ok _ => 0 := by
  unfold execute
  cases cursor.portal.declare query parameters options with
  | error error => rfl
  | ok declaring =>
      cases session.checkOpen with
      | error error => rfl
      | ok checked =>
          dsimp only
          rcases session.run manner (session.inTransaction declaring) with
            ⟨failure | done, exchange, after⟩
          · rfl
          · rfl

variable {use : Use τ} {cursor : Cursor} {place : Int}

theorem Use.reaches (use : Use τ) (counted : cursor.position = Int64.ofInt place) :
    (use.performed cursor).cursor.position =
      Int64.ofInt (use.operation.reach cursor.name (use.performed cursor).outcome
        (use.asked cursor) place) := by
  cases Story.kind use cursor with
  | refused refused =>
      rw [Use.performed_refused refused]
      exact counted
  | close isClose =>
      have same : use.operation.reach cursor.name (use.performed cursor).outcome
          (use.asked cursor) place = place := by
        rw [isClose]
        cases (use.performed cursor).outcome with
        | error failure => rfl
        | ok done => rfl
      rw [same, (Use.closes cursor isClose).2]
      exact counted
  | @execute query parameters options isExecute unbound =>
      have position :=
        execute_position use.manner query parameters options cursor use.session
      unfold Use.performed
      rw [isExecute]
      simp only [Operation.perform, Operation.report]
      generalize cursor.execute use.manner query parameters options use.session = told
        at position ⊢
      obtain ⟨failure | done, next, after⟩ := told
      · exact position.trans counted
      · exact position
  | work noClose noExecute allowed isOpen =>
      obtain ⟨told, works⟩ := Use.works noClose noExecute allowed
      obtain ⟨ended, outcome, position⟩ := works
      rw [position, outcome, counted]
      cases told with
      | error failure => rfl
      | ok rows =>
          cases isOperation : use.operation with
          | close => exact absurd isOperation noClose
          | execute query parameters options => exact absurd isOperation (noExecute _ _ _)
          | describe => rfl
          | fetch count =>
              rw [isOperation] at ended
              have other : Command.query (CursorStatement.fetch cursor.name count).sql ≠
                  .describePortal cursor.portal.name := by
                intro same
                cases same
              have portions : Asked.portions (.query (CursorStatement.fetch cursor.name count).sql)
                  (use.asked cursor) = [rows] := ended.portions other
              change Int64.ofInt place + Int64.ofNat rows.length = Int64.ofInt (place +
                (Asked.portions _ (use.asked cursor)).flatten.length)
              rw [portions, List.flatten_singleton, Int64.ofInt_add, Int64.ofInt_eq_ofNat]
          | scroll value mode =>
              cases mode with
              | relative =>
                  change Int64.ofInt place + value = Int64.ofInt (place + value.toInt)
                  rw [Int64.ofInt_add, Int64.ofInt_toInt]
              | absolute => exact (Int64.ofInt_toInt value).symm

/-- A description is there when there was one, or one was granted in the use. -/
theorem Use.describes (use : Use τ) (cursor : Cursor) :
    (use.performed cursor).cursor.description.isSome =
      (cursor.description.isSome || (lastFields cursor.name (use.asked cursor)).isSome) := by
  have told {granted : Bool}
      (heeds : cursor.portal.Heeds granted (use.asked cursor)
        (use.performed cursor).cursor.portal) :
      (use.performed cursor).cursor.description.isSome =
        (cursor.description.isSome || (lastFields cursor.name (use.asked cursor)).isSome) := by
    have description : (use.performed cursor).cursor.description =
        (lastFields cursor.name (use.asked cursor)).or cursor.description := heeds.description
    rw [description, Option.isSome_or, Bool.or_comm]
  cases Story.kind use cursor with
  | refused refused =>
      rw [Use.performed_refused refused, Use.asked_refused refused]
      exact (Bool.or_false _).symm
  | close isClose =>
      rw [Asked.lastFields_eq_none (Use.close_reads_nothing cursor isClose),
        (Use.closes cursor isClose).2]
      exact (Bool.or_false _).symm
  | execute isExecute unbound => exact told (Use.executed isExecute unbound).heeds
  | work noClose noExecute allowed isOpen => exact told (Use.heeds noClose noExecute allowed)

end Cursor

/-! ### Calls on a handle -/

open Cursor (Operation Use)

def Cursor.portion (manner : Manner) (cursor : Cursor) : Nat :=
  match manner with
  | .blocking => cursor.iterationSize
  | .async _ => if cursor.iterationSize = 0 then cursor.arraySize else cursor.iterationSize

def Rows.isDue (rows : Rows) : Bool :=
  rows.batch.isEmpty && !rows.finished

private theorem Rows.next_idle {rows : Rows} (idle : ¬rows.isDue = true) (cursor : Cursor)
    (session : Session τ) : (rows.next cursor session).cursor = cursor := by
  obtain ⟨batch, finished⟩ := rows
  cases batch with
  | cons row batch => rfl
  | nil =>
      cases finished with
      | true => rfl
      | false => exact absurd rfl idle

private theorem Rows.nextAsync_idle {rows : Rows} (idle : ¬rows.isDue = true)
    (givenUpAt : Option Nat) (cursor : Cursor) (session : Session τ) :
    (rows.nextAsync givenUpAt cursor session).cursor = cursor := by
  obtain ⟨batch, finished⟩ := rows
  cases batch with
  | cons row batch => rfl
  | nil =>
      cases finished with
      | true => rfl
      | false => exact absurd rfl idle

def CursorCall.operation? (manner : Manner) (handle : Handle) : CursorCall → Option Operation
  | execute query parameters options => some (.execute query parameters options)
  | describe => some .describe
  | fetchOne => some (.fetch (some 1))
  | fetchMany size => some (.fetch (some (if size = 0 then handle.cursor.arraySize else size)))
  | fetchAll => some (.fetch none)
  | scroll value mode => some (.scroll value mode)
  | scrollNamed value mode => (ScrollMode.ofName mode).toOption.map (.scroll value)
  | next => if handle.rows.isDue then some (.fetch (some (handle.cursor.portion manner))) else none
  | close => some .close
  | _ => none

namespace Handle

variable {call : CursorCall} {operation : Operation}

def Performed.report (performed : Performed τ) : Cursor.Performed τ :=
  ⟨performed.outcome.map fun _ => (), performed.handle.cursor, performed.session⟩

omit [Transport τ] in
private theorem report_answer {α : Type} (rows : Rows) (reply : α → Reply)
    (answered : Except Failure α × Cursor × Session τ) :
    (answer rows reply answered).report = Operation.report answered := by
  obtain ⟨failure | value, cursor, session⟩ := answered
  · rfl
  · rfl

private theorem report_next {rows : Rows} (due : rows.isDue = true) (cursor : Cursor)
    (session : Session τ) :
    (pulled (rows.next cursor session)).report =
      Operation.report (cursor.fetch .blocking (some cursor.iterationSize) session) := by
  obtain ⟨batch, finished⟩ := rows
  cases finished with
  | true => cases (Bool.and_eq_true_iff.mp due).2
  | false =>
      cases batch with
      | cons row batch => cases (Bool.and_eq_true_iff.mp due).1
      | nil =>
          unfold Rows.next
          dsimp only
          rw [if_neg Bool.false_ne_true]
          obtain ⟨failure | fetched, next, after⟩ :=
            cursor.fetch .blocking (some cursor.iterationSize) session
          · rfl
          · cases fetched with
            | nil => rfl
            | cons row fetched => rfl

private theorem report_nextAsync {rows : Rows} (due : rows.isDue = true) (givenUpAt : Option Nat)
    (cursor : Cursor) (session : Session τ) :
    (pulled (rows.nextAsync givenUpAt cursor session)).report =
      Operation.report (cursor.fetchMany (.async givenUpAt) cursor.iterationSize session) := by
  obtain ⟨batch, finished⟩ := rows
  cases finished with
  | true => cases (Bool.and_eq_true_iff.mp due).2
  | false =>
      cases batch with
      | cons row batch => cases (Bool.and_eq_true_iff.mp due).1
      | nil =>
          unfold Rows.nextAsync Rows.ready
          dsimp only
          rw [if_neg Bool.false_ne_true]
          obtain ⟨failure | fetched, next, after⟩ :=
            cursor.fetchMany (.async givenUpAt) cursor.iterationSize session
          · rfl
          · cases fetched with
            | nil => rfl
            | cons row fetched => rfl

/-- A call that does something with the cursor does just that. -/
theorem report_perform (manner : Manner) (handle : Handle) (session : Session τ)
    (isOperation : call.operation? manner handle = some operation) :
    (handle.perform manner call session).report =
      operation.perform manner handle.cursor session := by
  obtain ⟨cursor, rows⟩ := handle
  cases call with
  | execute query parameters options =>
      cases isOperation
      exact report_answer ..
  | describe =>
      cases isOperation
      exact report_answer ..
  | fetchOne =>
      cases isOperation
      simp only [perform, Operation.perform, Cursor.fetchOne]
      rw [report_answer]
      obtain ⟨failure | fetched, next, after⟩ := cursor.fetch manner (some 1) session
      · rfl
      · rfl
  | fetchMany size =>
      cases isOperation
      exact report_answer ..
  | fetchAll =>
      cases isOperation
      exact report_answer ..
  | scroll value mode =>
      cases isOperation
      exact report_answer ..
  | scrollNamed value name =>
      change (ScrollMode.ofName name).toOption.map (Operation.scroll value) = some operation
        at isOperation
      simp only [perform, report_answer, Cursor.scrollNamed]
      cases found : ScrollMode.ofName name with
      | error error =>
          rw [found] at isOperation
          cases isOperation
      | ok mode =>
          rw [found] at isOperation
          cases isOperation
          rfl
  | next =>
      change (if rows.isDue then some (.fetch (some (cursor.portion manner))) else none) =
        some operation at isOperation
      split at isOperation
      · rename_i due
        cases isOperation
        cases manner with
        | blocking => exact report_next due cursor session
        | async givenUpAt => exact report_nextAsync due givenUpAt cursor session
      · cases isOperation
  | close =>
      cases isOperation
      exact report_answer ..
  | _ => cases isOperation

/-- Any other call leaves the cursor where it is, and what is known of it. -/
theorem perform_idle (manner : Manner) (handle : Handle) (session : Session τ)
    (idle : call.operation? manner handle = none) (same : call.renews = false) :
    let performed := handle.perform manner call session
    performed.handle.cursor.position = handle.cursor.position ∧
      performed.handle.cursor.description = handle.cursor.description := by
  obtain ⟨cursor, rows⟩ := handle
  cases call with
  | create name => cases same
  | adopt name => cases same
  | setIterationSize size => exact ⟨rfl, rfl⟩
  | setArraySize size => exact ⟨rfl, rfl⟩
  | iterate => exact ⟨rfl, rfl⟩
  | drop insideTask => exact ⟨rfl, rfl⟩
  | prepare query parameters options =>
      simp only [perform]
      cases declared : cursor.portal.declare query parameters options with
      | error error => exact ⟨rfl, rfl⟩
      | ok declaring =>
          refine ⟨rfl, ?_⟩
          change declaring.portal.description = cursor.portal.description
          rw [(Portal.declare_allowed declared).2]
  | scrollNamed value name =>
      change (ScrollMode.ofName name).toOption.map (Operation.scroll value) = none at idle
      simp only [perform, answer, Cursor.scrollNamed]
      cases found : ScrollMode.ofName name with
      | error error => exact ⟨rfl, rfl⟩
      | ok mode =>
          rw [found] at idle
          cases idle
  | next =>
      change (if rows.isDue then some (Operation.fetch (some (cursor.portion manner))) else none) =
        none at idle
      split at idle
      · cases idle
      · rename_i notDue
        cases manner with
        | blocking =>
            have unmoved := Rows.next_idle notDue cursor session
            exact ⟨congrArg Cursor.position unmoved, congrArg Cursor.description unmoved⟩
        | async givenUpAt =>
            have unmoved := Rows.nextAsync_idle notDue givenUpAt cursor session
            exact ⟨congrArg Cursor.position unmoved, congrArg Cursor.description unmoved⟩
  | _ => cases idle

end Handle

/-! ### Many calls on a handle -/

structure Visit (τ : Type) where
  manner : Manner
  call : CursorCall
  session : Session τ

namespace Visit

def watched (visit : Visit τ) : Session (Observed τ) :=
  { visit.session with transport := { transport := visit.session.transport } }

def performed (visit : Visit τ) (handle : Handle) : Handle.Performed τ :=
  handle.perform visit.manner visit.call visit.session

def asked (visit : Visit τ) (handle : Handle) : List Asked :=
  (handle.perform visit.manner visit.call visit.watched).session.transport.log

def operation? (visit : Visit τ) (handle : Handle) : Option Operation :=
  visit.call.operation? visit.manner handle

def use (visit : Visit τ) (operation : Operation) : Use τ :=
  ⟨visit.manner, operation, visit.session⟩

variable {visit : Visit τ} {handle : Handle} {operation : Operation}

private theorem performed_use (isOperation : visit.operation? handle = some operation) :
    (visit.use operation).performed handle.cursor = (visit.performed handle).report :=
  (Handle.report_perform visit.manner handle visit.session isOperation).symm

private theorem asked_use (isOperation : visit.operation? handle = some operation) :
    (visit.use operation).asked handle.cursor = visit.asked handle :=
  congrArg (fun performed => performed.session.transport.log)
    (Handle.report_perform visit.manner handle visit.watched isOperation).symm

end Visit

/-- A handle, with what is reckoned of its cursor: the row that it is at, and whether a
description of it has succeeded. -/
structure Trail where
  handle : Handle
  place : Int := 0
  described : Bool := false

namespace Trail

def begin (adopted : Bool) (name : String) : Trail :=
  { handle := { cursor := if adopted then .adopt name else .ofName name } }

/-- The reckoning begins again with another cursor, and goes on with each operation. -/
def after (visit : Visit τ) (trail : Trail) : Trail :=
  let handle := (visit.performed trail.handle).handle
  if visit.call.renews then { handle }
  else
    match visit.operation? trail.handle with
    | none => { trail with handle }
    | some operation =>
        let name := trail.handle.cursor.name
        let asked := visit.asked trail.handle
        { handle
          place := operation.reach name (visit.performed trail.handle).outcome asked trail.place
          described := trail.described || (lastFields name asked).isSome }

def course (visits : List (Visit τ)) (trail : Trail) : Trail :=
  visits.foldl (fun trail visit => trail.after visit) trail

/-- The cursor keeps the row that it is at in a number of limited size, and knows whether it has
been described. -/
structure Kept (trail : Trail) : Prop where
  position : trail.handle.cursor.position = Int64.ofInt trail.place
  description : trail.handle.cursor.description.isSome = trail.described

private theorem begin_kept (adopted : Bool) (name : String) : (begin adopted name).Kept := by
  cases adopted with
  | false => exact ⟨rfl, rfl⟩
  | true => exact ⟨rfl, rfl⟩

variable {trail : Trail}

private theorem Kept.after (kept : trail.Kept) (visit : Visit τ) : (trail.after visit).Kept := by
  unfold Trail.after
  cases renews : visit.call.renews with
  | true =>
      obtain ⟨manner, call, session⟩ := visit
      cases call with
      | create name => exact ⟨rfl, rfl⟩
      | adopt name => exact ⟨rfl, rfl⟩
      | _ => cases renews
  | false =>
      rw [if_neg Bool.false_ne_true]
      cases isOperation : visit.operation? trail.handle with
      | none =>
          obtain ⟨position, description⟩ :=
            Handle.perform_idle visit.manner trail.handle visit.session isOperation renews
          constructor
          · exact position.trans kept.position
          · exact (congrArg Option.isSome description).trans kept.description
      | some operation =>
          have reaches := Use.reaches (visit.use operation) kept.position
          have describes := Use.describes (visit.use operation) trail.handle.cursor
          rw [Visit.performed_use isOperation, Visit.asked_use isOperation] at reaches describes
          change _ = Int64.ofInt (operation.reach _
            ((visit.performed trail.handle).outcome.map fun _ => ()) _ _) at reaches
          rw [Operation.reach_map] at reaches
          rw [kept.description] at describes
          exact ⟨reaches, describes⟩

private theorem Kept.course (kept : trail.Kept) (visits : List (Visit τ)) :
    (trail.course visits).Kept := by
  induction visits generalizing trail with
  | nil => exact kept
  | cons visit visits ih => exact ih (kept.after visit)

/-- The cursor tells the row that it is at once it has been described, and nothing before. -/
structure Told (trail : Trail) : Prop where
  undescribed : trail.described = false → trail.handle.cursor.rowNumber = none
  described : trail.described = true → -2 ^ 63 ≤ trail.place → trail.place < 2 ^ 63 →
    ∃ number, trail.handle.cursor.rowNumber = some number ∧ number.toInt = trail.place

/-- Whatever is called on the handle of a cursor, and whatever becomes of the round trips, the
cursor tells the row that it is at. -/
theorem course_told (adopted : Bool) (name : String) (visits : List (Visit τ)) :
    ((begin adopted name).course visits).Told := by
  have kept := (begin_kept adopted name).course visits
  generalize (begin adopted name).course visits = trail at kept ⊢
  constructor
  · intro undescribed
    have absent : trail.handle.cursor.description = none := by
      apply Option.not_isSome_iff_eq_none.mp
      rw [kept.description, undescribed]
      exact Bool.false_ne_true
    unfold Cursor.rowNumber
    rw [absent]
    rfl
  · intro described least greatest
    have known : trail.handle.cursor.description.isSome = true := by
      rw [kept.description, described]
    obtain ⟨fields, isFields⟩ := Option.isSome_iff_exists.mp known
    refine ⟨trail.handle.cursor.position, ?_, ?_⟩
    · unfold Cursor.rowNumber
      rw [isFields]
      rfl
    · rw [kept.position]
      exact Int64.toInt_ofInt_of_le least greatest

/-- One row is fetched, a move is denied, and another is granted. -/
example :
    let ready : Frame := { first := 'Z'.toUInt8, body := ['I'.toUInt8] }
    let answer (frames : List Frame) : Arrival := .data (Frame.stream (frames ++ [ready]))
    let described := answer [{ first := 'T'.toUInt8, body := [0, 0] }]
    let fetched := answer
      [{ first := 'T'.toUInt8, body := [0, 0] }, { first := 'D'.toUInt8, body := [0, 0] },
        { first := 'C'.toUInt8, body := [70, 0] }]
    let denied := answer [{ first := 'E'.toUInt8, body := [0] }]
    let moved := answer [{ first := 'C'.toUInt8, body := [77, 0] }]
    let visit (call : CursorCall) (arrivals : List Arrival) : Visit Conn :=
      let conn : Conn :=
        { link := { arrivals, reports := List.replicate 2 (some ⟨true, false⟩) } }
      ⟨.blocking, call, { transport := conn, closed := false }⟩
    let trail := (begin true "c").course
      [visit .fetchOne [described, .blocked, fetched], visit (.scroll 7 .absolute) [denied],
        visit (.scroll 41 .relative) [moved]]
    (trail.place, trail.handle.cursor.rowNumber) = (42, some 42) := by
  decide +kernel

end Trail

end PgClient
