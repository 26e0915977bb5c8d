/-
A cursor is described when that is first needed, and not again.

A statement on a portal that has been declared, and not described, follows a description of
it. Up to the answer to that, the call does what the call does that only describes the cursor,
so where the description is not granted it ends as that one does. Where it is, the cursor is
described from then on, whatever becomes of the statement.
-/

import PgClient.Proofs.Cursor.Remembered
import PgClient.Proofs.Session.Abreast

namespace PgClient

variable {τ : Type} [Transport τ]

/-! ### Beside a description alone -/

namespace Working

/-- Both are at the description of the portal; behind it one has nothing to do. -/
def Alongside (portal : Portal) (statement : RoundTrip) (fetching : Bool)
    (alone whole : Working) : Prop :=
  ∃ trip, alone = ⟨portal, some trip, none, false⟩ ∧
    whole = ⟨portal, some trip, some statement, fetching⟩

def Described (working : Working) : Prop :=
  working.description = none ∧ working.portal.state = .described

private theorem Described.work {working : Working} (described : working.Described) (ready : Ready)
    (transport : τ) : (working.work ready transport).exchange.Described := by
  unfold Working.work
  cases working.statement with
  | none => exact described
  | some trip =>
      dsimp only
      rcases trip.resume ready transport with ⟨wait | result | failure, next, after⟩
      · exact described
      · dsimp only
        cases result.check with
        | error error => exact described
        | ok passed =>
            dsimp only
            split
            · exact described
            · exact described
      · exact described

private theorem accompanies (portal : Portal) (statement : RoundTrip) (fetching : Bool) :
    Accompanies τ (Alongside portal statement fetching) Described where
  turn ready alone whole transport alongside := by
    obtain ⟨trip, rfl, rfl⟩ := alongside
    change (Working.resume ready _ transport).Abreast _ _ (Working.resume ready _ transport)
    unfold Working.resume
    dsimp only
    rcases trip.resume ready transport with ⟨wait | result | failure, next, after⟩
    · exact .waits ⟨next, rfl, rfl⟩
    · dsimp only
      cases result.check with
      | error error => exact .failed ⟨next, rfl, rfl⟩
      | ok passed =>
          apply Turn.Abreast.past
          exact Described.work ⟨rfl, rfl⟩ .nothing after
    · exact .failed ⟨next, rfl, rfl⟩
  past ready working transport described := by
    change (Working.resume ready working transport).exchange.Described
    unfold Working.resume
    rw [described.1]
    exact described.work ready transport

end Working

namespace Cursor

/-- Where a call that states something has not come past the description, it has come to what
a call that describes the cursor comes to. -/
theorem work_alongside (manner : Manner) (statement : CursorStatement) (fetching : Bool)
    {cursor : Cursor} (session : Session τ) (declared : cursor.state = .declared) :
    (∃ failure after, cursor.work manner cursor.portal.describe session =
        (.error failure, cursor, after) ∧
      cursor.work manner (cursor.portal.work statement fetching) session =
        (.error failure, cursor, after)) ∨
      (cursor.work manner (cursor.portal.work statement fetching) session).2.1.state =
        .described := by
  have isDeclared : cursor.portal.state = .declared := declared
  have allowed : cursor.portal.checkOpen = .ok () := by
    unfold Portal.checkOpen
    rw [isDeclared]
  unfold Portal.describe Portal.work
  rw [allowed, if_pos isDeclared]
  unfold work
  cases session.checkOpen with
  | error error => exact .inl ⟨_, _, rfl, rfl⟩
  | ok checked =>
      dsimp only
      rcases session.run_abreast (Working.accompanies cursor.portal
          (Portal.statementTrip statement) fetching) manner
          ⟨cursor.portal.describeTrip, rfl, rfl⟩ with
        ⟨failure, alone, whole, after, ⟨trip, rfl, rfl⟩, isAlone, isWhole⟩ | described
      · rw [isAlone, isWhole]
        exact .inl ⟨failure, after, rfl, rfl⟩
      · exact .inr described.2

private theorem Operation.perform_alongside {operation : Operation} {statement : CursorStatement}
    (manner : Manner) {cursor : Cursor} (session : Session τ)
    (isStatement : operation.statement? cursor.name = some statement)
    (declared : cursor.state = .declared) :
    (∃ failure after,
      Operation.describe.perform manner cursor session = ⟨.error failure, cursor, after⟩ ∧
        operation.perform manner cursor session = ⟨.error failure, cursor, after⟩) ∨
      (operation.perform manner cursor session).cursor.state = .described := by
  cases operation with
  | fetch count =>
      simp only [perform, report, Cursor.describe, Cursor.fetch, Portal.fetch]
      rcases work_alongside manner (.fetch cursor.portal.name count) true session declared with
        ⟨failure, after, alone, whole⟩ | described
      · rw [alone, whole]
        exact .inl ⟨failure, after, rfl, rfl⟩
      · generalize cursor.work manner (cursor.portal.work _ true) session = told at described ⊢
        obtain ⟨failure | rows, next, after⟩ := told
        · exact .inr described
        · exact .inr described
  | scroll value mode =>
      simp only [perform, report, Cursor.describe, Cursor.scroll, Portal.scroll]
      rcases work_alongside manner (.move cursor.portal.name mode value.toInt) false session
          declared with ⟨failure, after, alone, whole⟩ | described
      · rw [alone, whole]
        exact .inl ⟨failure, after, rfl, rfl⟩
      · generalize cursor.work manner (cursor.portal.work _ false) session = told at described ⊢
        obtain ⟨failure | rows, next, after⟩ := told
        · exact .inr described
        · cases mode with
          | relative => exact .inr described
          | absolute => exact .inr described
  | _ => cases isStatement

/-! ### What is sent -/

namespace Use

def sent (use : Use τ) (cursor : Cursor) : List Command :=
  (use.asked cursor).reverse.map Asked.command

def describing (use : Use τ) : Use τ :=
  { use with operation := .describe }

end Use

end Cursor

section Sent

variable {command : Command} {result : QueryResult} {earlier log : List Asked}

private theorem Granted.sent (granted : Granted command result earlier log) :
    log.reverse.map Asked.command = earlier.reverse.map Asked.command ++ [command] := by
  obtain ⟨asked, rfl, rfl, _⟩ := granted
  rw [List.reverse_cons, List.map_append]
  rfl

private theorem Denied.sent (denied : Denied command earlier log) :
    log.reverse.map Asked.command <+: earlier.reverse.map Asked.command ++ [command] := by
  rcases denied with rfl | ⟨asked, rfl, rfl, _⟩
  · exact List.prefix_append _ _
  · refine ⟨[], ?_⟩
    rw [List.append_nil, List.reverse_cons, List.map_append]
    rfl

end Sent

namespace Working

variable {portal known after : Portal} {missing fetching : Bool} {command : Command}
  {log : List Asked} {told : Except Failure (List Row)}

private theorem Known.sent (knows : Known portal [] missing known log) :
    log.reverse.map Asked.command = if missing then [.describePortal portal.name] else [] := by
  cases knows with
  | already => rfl
  | described granted => exact granted.sent

/-- The description goes out first where it is missing, and then the statement. -/
theorem Over.sent (ended : Over portal missing (some command) fetching [] told after log) :
    log.reverse.map Asked.command <+:
      (if missing then [.describePortal portal.name] else []) ++ [command] := by
  cases ended with
  | undescribed isMissing denied =>
      rw [if_pos isMissing]
      exact denied.sent.trans (List.prefix_append _ _)
  | described isMissing alone granted => cases alone
  | denied isStatement knows denied =>
      cases isStatement
      rw [← knows.sent]
      exact denied.sent
  | granted isStatement knows granted =>
      cases isStatement
      refine ⟨[], ?_⟩
      rw [List.append_nil, granted.sent, knows.sent]

private theorem Over.sent_alone (ended : Over portal missing none fetching [] told after log) :
    log.reverse.map Asked.command <+: [.describePortal portal.name] := by
  cases ended with
  | undescribed isMissing denied => exact denied.sent
  | described isMissing alone granted =>
      refine ⟨[], ?_⟩
      rw [List.append_nil, granted.sent]
      rfl
  | denied isStatement knows denied => cases isStatement
  | granted isStatement knows granted => cases isStatement

end Working

namespace Cursor.Story

open Asked (lastFields)

variable {story : Story} {use : Use τ} {statement : CursorStatement}

/-- How one more use describes the cursor. -/
structure Lazily (story : Story) (use : Use τ) : Prop where
  /-- Before a statement is sent, a description is, just where none has succeeded so far. -/
  sent : ∀ statement, use.operation.statement? story.cursor.name = some statement →
    .query statement.sql ∈ use.sent story.cursor →
      use.sent story.cursor =
        if lastFields story.cursor.name story.log = none then
          [.describePortal story.cursor.name, .query statement.sql]
        else [.query statement.sql]
  /-- Where it is not granted, the statement is not sent, and the call does no more than one that
  describes the cursor: it fails in the same way, and the cursor is as it was. -/
  denied : ∀ statement, use.operation.statement? story.cursor.name = some statement →
    story.cursor.state = .declared →
      lastFields story.cursor.name (use.asked story.cursor) = none →
        .query statement.sql ∉ use.sent story.cursor ∧
          use.sent story.cursor = use.describing.sent story.cursor ∧
          use.performed story.cursor = use.describing.performed story.cursor ∧
          (∃ failure, (use.performed story.cursor).outcome = .error failure) ∧
          (story.after use).cursor = story.cursor
  /-- Where it is, the cursor is described, whatever comes of the call, -/
  described : (lastFields story.cursor.name (use.asked story.cursor)).isSome = true →
    (story.after use).cursor.state = .described
  /-- and stays so until it is closed, -/
  stays : story.cursor.state = .described → use.operation ≠ .close →
    (story.after use).cursor.state = .described
  /-- and is not described again by a statement. -/
  quiet : ∀ statement, use.operation.statement? story.cursor.name = some statement →
    lastFields story.cursor.name story.log ≠ none →
      .describePortal story.cursor.name ∉ use.sent story.cursor
  /-- A cursor that has only been declared has not been described yet. -/
  undescribed : story.cursor.state = .declared →
    lastFields story.cursor.name story.log = none
  /-- The last result is that of the last description or fetch that has succeeded. -/
  remembered : ∀ last, Remembered (story.after use).cursor.name (story.after use).log last ↔
    (story.after use).cursor.lastResult = last

/-- An operation with a statement works on a portal, and describes it where it has to. -/
theorem Operation.works_of_statement? {operation : Operation} {name : String}
    (isStatement : operation.statement? name = some statement) :
    operation ≠ .close ∧
      (∀ query parameters options, operation ≠ .execute query parameters options) ∧
      (∀ state, operation.describes state = decide (state = .declared)) ∧
      operation.refusal? .declared = none := by
  cases operation with
  | fetch count => exact ⟨nofun, nofun, fun _ => rfl, rfl⟩
  | scroll value mode => exact ⟨nofun, nofun, fun _ => rfl, rfl⟩
  | _ => cases isStatement

private theorem Use.sent_prefix {cursor : Cursor}
    (isStatement : use.operation.statement? cursor.name = some statement) :
    use.sent cursor <+:
      (if cursor.state = .declared then [.describePortal cursor.name] else []) ++
        [.query statement.sql] := by
  obtain ⟨noClose, noExecute, describes, _⟩ := Operation.works_of_statement? isStatement
  cases refusal : use.operation.refusal? cursor.state with
  | some fault =>
      unfold Use.sent
      rw [Use.asked_refused refusal]
      exact List.nil_prefix
  | none =>
      obtain ⟨told, works⟩ := Use.works noClose noExecute refusal
      have ended := works.ended
      rw [isStatement, describes] at ended
      have sent := ended.sent
      simp only [decide_eq_true_eq] at sent
      exact sent

private theorem Use.sent_describing {cursor : Cursor} :
    use.describing.sent cursor <+: [.describePortal cursor.name] := by
  cases refusal : Operation.describe.refusal? cursor.state with
  | some fault =>
      unfold Use.sent
      rw [Use.asked_refused refusal]
      exact List.nil_prefix
  | none =>
      have works : ∃ told, use.describing.operation.Works cursor told
          (use.describing.asked cursor) (use.describing.performed cursor).outcome
          (use.describing.performed cursor).cursor := Use.works nofun nofun refusal
      obtain ⟨told, works⟩ := works
      exact works.ended.sent_alone

/-- Only of a cursor that is open is anything asked by a statement. -/
theorem Use.open_of_sent {cursor : Cursor} {command : Command}
    (isStatement : use.operation.statement? cursor.name = some statement)
    (member : command ∈ use.sent cursor) :
    cursor.state = .declared ∨ cursor.state = .described := by
  obtain ⟨noClose, noExecute, _, _⟩ := Operation.works_of_statement? isStatement
  cases kind use cursor with
  | refused refused =>
      unfold Use.sent at member
      rw [Use.asked_refused refused] at member
      cases member
  | close isClose => exact absurd isClose noClose
  | execute isExecute _ => exact absurd isExecute (noExecute _ _ _)
  | work _ _ _ isOpen => exact isOpen

private theorem Informed.undescribed_iff (informed : story.Informed)
    (isOpen : story.cursor.state = .declared ∨ story.cursor.state = .described) :
    lastFields story.cursor.name story.log = none ↔ story.cursor.state = .declared := by
  rcases isOpen with declared | described
  · exact ⟨fun _ => declared, fun _ => (informed.unknown (.inr declared)).2⟩
  · obtain ⟨fields, _, told⟩ := informed.known described
    rw [told, described]
    exact ⟨nofun, nofun⟩

private theorem Informed.sent (informed : story.Informed)
    (isStatement : use.operation.statement? story.cursor.name = some statement)
    (member : .query statement.sql ∈ use.sent story.cursor) :
    use.sent story.cursor =
      if lastFields story.cursor.name story.log = none then
        [.describePortal story.cursor.name, .query statement.sql]
      else [.query statement.sql] := by
  have known := informed.undescribed_iff (Use.open_of_sent isStatement member)
  have front := Use.sent_prefix isStatement
  simp only [known]
  by_cases declared : story.cursor.state = .declared
  · rw [if_pos declared] at front ⊢
    rcases List.prefix_concat_iff.mp front with whole | description
    · exact whole
    · cases List.mem_singleton.mp (description.subset member)
  · rw [if_neg declared] at front ⊢
    rcases List.prefix_concat_iff.mp front with whole | nothing
    · exact whole
    · cases nothing.subset member

private theorem Informed.quiet (informed : story.Informed)
    (isStatement : use.operation.statement? story.cursor.name = some statement)
    (told : lastFields story.cursor.name story.log ≠ none) :
    .describePortal story.cursor.name ∉ use.sent story.cursor := by
  intro member
  have front := Use.sent_prefix isStatement
  have undeclared : story.cursor.state ≠ .declared := by
    intro declared
    exact told (informed.unknown (.inr declared)).2
  rw [if_neg undeclared] at front
  cases List.mem_singleton.mp (front.subset member)

/-- Where the description is not granted, the call is one that describes. -/
theorem Use.performed_denied {cursor : Cursor}
    (isStatement : use.operation.statement? cursor.name = some statement)
    (declared : cursor.state = .declared)
    (untold : lastFields cursor.name (use.asked cursor) = none) :
    use.sent cursor = use.describing.sent cursor ∧
      use.performed cursor = use.describing.performed cursor ∧
      ∃ failure after, use.performed cursor = ⟨.error failure, cursor, after⟩ := by
  obtain ⟨noClose, noExecute, _, allowed⟩ := Operation.works_of_statement? isStatement
  rw [← declared] at allowed
  have state : (use.performed cursor).cursor.state =
      if (lastFields cursor.name (use.asked cursor)).isSome then .described else cursor.state :=
    (Use.heeds noClose noExecute allowed).state
  rw [untold] at state
  have undescribed : (use.performed cursor).cursor.state ≠ .described := by
    intro described
    cases (declared.symm.trans state.symm).trans described
  obtain ⟨failure, after, alone, whole⟩ :=
    (Operation.perform_alongside use.manner use.session isStatement declared).resolve_right
      undescribed
  rw [Use.performed_watched] at undescribed
  obtain ⟨_, watched, aloneWatched, wholeWatched⟩ :=
    (Operation.perform_alongside use.manner use.watched isStatement declared).resolve_right
      undescribed
  refine ⟨?_, whole.trans alone.symm, failure, after, whole⟩
  have asked : use.asked cursor = watched.transport.log := by
    unfold Use.asked
    rw [wholeWatched]
  have askedAlone : use.describing.asked cursor = watched.transport.log :=
    congrArg (fun performed => performed.session.transport.log) aloneWatched
  unfold Use.sent
  rw [asked, askedAlone]

private theorem Informed.lazily (informed : story.Informed) (recorded : story.Recorded)
    (use : Use τ) :
    story.Lazily use where
  sent _ isStatement member := informed.sent isStatement member
  denied statement isStatement declared untold := by
    obtain ⟨sent, performed, failure, after, whole⟩ :=
      Use.performed_denied isStatement declared untold
    refine ⟨?_, sent, performed, ⟨failure, ?_⟩, ?_⟩
    · rw [sent]
      intro member
      cases List.mem_singleton.mp (Use.sent_describing.subset member)
    · rw [whole]
    · unfold Story.after
      rw [whole]
  described told := by
    cases kind use story.cursor with
    | refused refused =>
        rw [Use.asked_refused refused] at told
        cases told
    | close isClose =>
        rw [Asked.lastFields_eq_none (Use.close_reads_nothing story.cursor isClose)] at told
        cases told
    | execute isExecute unbound =>
        rw [state_of_execute isExecute unbound, if_pos told]
    | work noClose noExecute allowed isOpen =>
        rw [state_of_work noClose noExecute allowed, if_pos told]
  stays described noClose := by
    cases kind use story.cursor with
    | refused refused =>
        rw [after_refused refused]
        exact described
    | close isClose => exact absurd isClose noClose
    | execute isExecute unbound => cases described.symm.trans unbound
    | work noClose noExecute allowed isOpen =>
        rw [state_of_work noClose noExecute allowed, described, ite_self]
  quiet _ isStatement told := informed.quiet isStatement told
  undescribed declared := (informed.unknown (.inr declared)).2
  remembered last := by
    have lastResult := (recorded.after use).lastResult
    constructor
    · intro remembered
      exact lastResult.unique remembered
    · rintro rfl
      exact lastResult

/-- However a cursor is used from its beginning, and whatever becomes of the round trips, each use
describes it lazily. -/
theorem course_describes_lazily (adopted : Bool) (name : String) (uses : List (Use τ))
    (use : Use τ) : ((begin adopted name).course uses).Lazily use :=
  ((begin_informed adopted name).course uses).lazily ((begin_recorded adopted name).course uses) use

/-- The description is denied at first, and then granted before a fetch that fails. -/
example :
    let ready : Frame := { first := 'Z'.toUInt8, body := ['I'.toUInt8] }
    let denied : Arrival := .data (Frame.stream [{ first := 'E'.toUInt8, body := [0] }, ready])
    let granted : Arrival :=
      .data (Frame.stream [{ first := 'T'.toUInt8, body := [0, 0] }, ready])
    let use (arrivals : List Arrival) : Use Conn :=
      let conn : Conn :=
        { link := { arrivals, reports := List.replicate 2 (some ⟨true, false⟩) } }
      ⟨.blocking, .fetch (some 1), { transport := conn, closed := false }⟩
    let story (uses : List (Use Conn)) := (begin true "c").course uses
    ((use [denied]).sent (story []).cursor,
        (use [granted, .blocked, denied]).sent (story [use [denied]]).cursor,
        (use [denied]).sent (story [use [denied], use [granted, .blocked, denied]]).cursor) =
      ([.describePortal "c"],
        [.describePortal "c", .query (CursorStatement.fetch "c" (some 1)).sql],
        [.query (CursorStatement.fetch "c" (some 1)).sql]) := by
  decide +kernel

end Cursor.Story

end PgClient
