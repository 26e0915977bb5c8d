/-
What a cursor remembers of what it was told.

Its description is what the last description told that has succeeded, and its last result is
that of the last description or fetch that has succeeded. No other statement touches either:
not the declaration, nor a move, nor what goes out when the cursor is closed.
-/

import PgClient.Proofs.Cursor.Lifecycle
import PgClient.Proofs.Cursor.Closing

namespace PgClient

variable {τ : Type} [Transport τ]

/-! ### Statements told apart -/

namespace CursorStatement

def initial : CursorStatement → Char
  | declare _ _ _ => 'd'
  | fetch _ _ => 'f'
  | move _ _ _ => 'm'
  | close _ => 'c'

private theorem head?_append {front : String} {letter : Char}
    (first : front.toList.head? = some letter) (rest : String) :
    (front ++ rest).toList.head? = some letter := by
  rw [String.toList_append, List.head?_append, first, Option.some_or]

private theorem head?_sql (statement : CursorStatement) :
    statement.sql.toList.head? = some statement.initial := by
  cases statement with
  | declare name options query =>
      obtain ⟨rest, front⟩ := declare_front name query options
      rw [front]
      exact head?_append rfl rest
  | fetch name count =>
      cases count with
      | none =>
          unfold sql
          exact head?_append rfl _
      | some count =>
          unfold sql
          simp only [String.append_assoc]
          exact head?_append rfl _
  | move name mode value =>
      unfold sql
      simp only [String.append_assoc]
      exact head?_append rfl _
  | close name => exact head?_append rfl _

end CursorStatement

/-! ### Commands that tell of a portal -/

def Reads (name : String) (command : Command) : Prop :=
  command = .describePortal name ∨ ∃ count, command = .query (CursorStatement.fetch name count).sql

variable {name : String} {command : Command}

private theorem not_reads_query {sql : String} (other : sql.toList.head? ≠ some 'f') :
    ¬Reads name (.query sql) := by
  rintro (impossible | ⟨count, same⟩)
  · cases impossible
  · injection same with same
    rw [same] at other
    exact other (CursorStatement.head?_sql (.fetch name count))

private theorem not_reads_queryWith (sql : String) (parameters : List Parameter) :
    ¬Reads name (.queryWith sql parameters) := by
  rintro (impossible | ⟨count, impossible⟩)
  · cases impossible
  · cases impossible

private theorem not_reads_statement {statement : CursorStatement}
    (other : statement.initial ≠ 'f') :
    ¬Reads name (.query statement.sql) := by
  apply not_reads_query
  rw [CursorStatement.head?_sql]
  intro same
  injection same with same
  exact other same

private theorem not_reads_startCommand : ¬Reads name Transactional.startCommand :=
  not_reads_query (by decide)

private theorem not_reads_declaration (query : String) (parameters : List Parameter)
    (options : DeclareOptions) : ¬Reads name (declaration name query parameters options) := by
  have other : 'd' ≠ 'f' := by decide
  unfold declaration Command.ofQuery
  split
  · exact not_reads_statement other
  · exact not_reads_queryWith _ parameters

/-! ### What was told last -/

/-- The answer is that of the last command that tells of the portal and has succeeded. -/
inductive Remembered (name : String) : List Asked → Option QueryResult → Prop
  | nothing : Remembered name [] none
  | latest {asked : Asked} {earlier : List Asked} {result : QueryResult}
      (reads : Reads name asked.command) (granted : asked.success? = some result) :
      Remembered name (asked :: earlier) (some result)
  | passes {asked : Asked} {earlier : List Asked} {last : Option QueryResult}
      (untold : Reads name asked.command → asked.success? = none)
      (remembered : Remembered name earlier last) : Remembered name (asked :: earlier) last

namespace Remembered

variable {earlier log behind later : List Asked} {last : Option QueryResult}
  {result : QueryResult}

/-- There is one such answer. -/
theorem unique {other : Option QueryResult} (one : Remembered name log last)
    (another : Remembered name log other) : last = other := by
  induction one with
  | nothing =>
      cases another
      rfl
  | latest reads granted =>
      cases another with
      | latest _ again => exact granted.symm.trans again
      | passes untold _ => cases granted.symm.trans (untold reads)
  | passes untold _ ih =>
      cases another with
      | latest reads granted => cases granted.symm.trans (untold reads)
      | passes _ remembered => exact ih remembered

private theorem denied (remembered : Remembered name (earlier ++ behind) last)
    (denied : Denied command earlier log) : Remembered name (log ++ behind) last := by
  rcases denied with rfl | ⟨asked, rfl, _, failed⟩
  · exact remembered
  · exact .passes (fun _ => failed) remembered

private theorem other (remembered : Remembered name (earlier ++ behind) last)
    (granted : Granted command result earlier log) (noRead : ¬Reads name command) :
    Remembered name (log ++ behind) last := by
  obtain ⟨asked, rfl, rfl, _⟩ := granted
  exact .passes (fun reads => absurd reads noRead) remembered

private theorem read (granted : Granted command result earlier log) (reads : Reads name command) :
    Remembered name (log ++ behind) (some result) := by
  obtain ⟨asked, rfl, rfl, succeeded⟩ := granted
  exact .latest reads succeeded

private theorem kept (remembered : Remembered name log last)
    (noReads : ∀ asked ∈ later, ¬Reads name asked.command) :
    Remembered name (later ++ log) last := by
  induction later with
  | nil => exact remembered
  | cons asked later ih =>
      obtain ⟨noRead, others⟩ := List.forall_mem_cons.mp noReads
      exact .passes (fun reads => absurd reads noRead) (ih others)

end Remembered

theorem Asked.lastFields_eq_none {log : List Asked}
    (noReads : ∀ asked ∈ log, ¬Reads name asked.command) : lastFields name log = none := by
  unfold lastFields
  rw [List.findSome?_eq_none_iff]
  intro asked member
  unfold fields?
  rw [if_neg]
  intro isDescription
  exact noReads asked member (.inl isDescription)

/-! ### Exchanges -/

section Exchanges

variable {portal : Portal} {earlier log behind : List Asked} {last : Option QueryResult}

private theorem Transactional.Begun.remembered (begun : Begun earlier)
    (remembered : Remembered name behind last) : Remembered name (earlier ++ behind) last := by
  have start : Remembered name ([] ++ behind) last := remembered
  rcases begun with rfl | ⟨result, granted⟩
  · exact start
  · exact start.other granted not_reads_startCommand

private theorem Declaring.Over.remembered {command : Command} {outcome : Except Failure Unit}
    {declaring : Declaring} (ended : Over command portal earlier outcome declaring log)
    (noRead : ¬Reads portal.name command)
    (remembered : Remembered portal.name (earlier ++ behind) portal.lastResult) :
    Remembered portal.name (log ++ behind) declaring.portal.lastResult := by
  cases ended with
  | denied denied => exact remembered.denied denied
  | undescribed granted denied => exact (remembered.other granted noRead).denied denied
  | described granted known => exact .read known (.inl rfl)

private theorem Transactional.Over.remembered {command : Command} {trip : RoundTrip}
    {outcome : Except Failure Unit} {exchange : Transactional Declaring}
    (ended : Over ⟨portal, false, trip⟩ (Declaring.Over command portal) outcome exchange log)
    (noRead : ¬Reads portal.name command)
    (remembered : Remembered portal.name behind portal.lastResult) :
    Remembered portal.name (log ++ behind) exchange.inner.portal.lastResult := by
  cases ended with
  | denied denied =>
      have start : Remembered portal.name ([] ++ behind) portal.lastResult := remembered
      exact start.denied denied
  | within begun ended => exact ended.remembered noRead (begun.remembered remembered)

private theorem Working.Known.remembered {missing : Bool} {known : Portal}
    (knows : Known portal [] missing known log)
    (remembered : Remembered portal.name behind portal.lastResult) :
    Remembered portal.name (log ++ behind) known.lastResult := by
  cases knows with
  | already => exact remembered
  | described granted => exact .read granted (.inl rfl)

private theorem Working.Over.remembered {missing fetching : Bool} {statement : Option Command}
    {told : Except Failure (List Row)} {after : Portal}
    (ended : Over portal missing statement fetching [] told after log)
    (reads : ∀ command, statement = some command → (Reads portal.name command ↔ fetching = true))
    (remembered : Remembered portal.name behind portal.lastResult) :
    Remembered portal.name (log ++ behind) after.lastResult := by
  cases ended with
  | undescribed isMissing denied =>
      have start : Remembered portal.name ([] ++ behind) portal.lastResult := remembered
      exact start.denied denied
  | described isMissing alone granted => exact .read granted (.inl rfl)
  | denied isStatement knows denied => exact (knows.remembered remembered).denied denied
  | granted isStatement knows granted =>
      have isRead := reads _ isStatement
      cases fetching with
      | true => exact .read granted (isRead.mpr rfl)
      | false =>
          have noRead : ¬Reads portal.name _ := fun read => nomatch isRead.mp read
          exact (knows.remembered remembered).other granted noRead

end Exchanges

/-! ### Uses -/

namespace Cursor

/-- Of the statements on a portal only that of a fetch tells of it. -/
theorem Operation.reads_iff {operation : Operation} {command : Command}
    (isStatement : (operation.statement? name).map (fun statement => .query statement.sql) =
      some command) : Reads name command ↔ operation.isFetch = true := by
  cases operation with
  | fetch count =>
      cases isStatement
      exact ⟨fun _ => rfl, fun _ => .inr ⟨count, rfl⟩⟩
  | scroll value mode =>
      cases isStatement
      have other : 'm' ≠ 'f' := by decide
      have noRead : ¬Reads name (.query (CursorStatement.move name mode value.toInt).sql) :=
        not_reads_statement other
      exact ⟨fun read => absurd read noRead, nofun⟩
  | _ => cases isStatement

theorem Use.close_reads_nothing {use : Use τ} (cursor : Cursor) (isClose : use.operation = .close) :
    ∀ asked ∈ use.asked cursor, ¬Reads cursor.name asked.command := by
  intro asked member
  have other : 'c' ≠ 'f' := by decide
  rcases (Use.closes cursor isClose).1 asked member with existence | release
  · rw [existence]
    exact not_reads_queryWith _ _
  · rw [release]
    exact not_reads_statement other

namespace Story

/-- What the cursor remembers is what the record tells. -/
structure Recorded (story : Story) : Prop where
  description : story.cursor.description = Asked.lastFields story.cursor.name story.log
  lastResult : Remembered story.cursor.name story.log story.cursor.lastResult

variable {story : Story} {use : Use τ}

theorem begin_recorded (adopted : Bool) (name : String) : (begin adopted name).Recorded := by
  cases adopted with
  | false => exact ⟨rfl, .nothing⟩
  | true => exact ⟨rfl, .nothing⟩

private theorem Recorded.heed (recorded : story.Recorded) {granted : Bool} {asked : List Asked}
    {cursor : Cursor} (heeds : story.cursor.portal.Heeds granted asked cursor.portal)
    (lastResult : Remembered story.cursor.name (asked ++ story.log) cursor.lastResult) :
    Recorded ⟨cursor, asked ++ story.log⟩ := by
  have name : cursor.name = story.cursor.name := heeds.name
  have description : cursor.description =
      (Asked.lastFields story.cursor.name asked).or story.cursor.description := heeds.description
  constructor
  · rw [description, recorded.description, name, ← Asked.lastFields_append]
  · rw [name]
    exact lastResult

theorem Recorded.after (recorded : story.Recorded) (use : Use τ) :
    (story.after use).Recorded := by
  cases kind use story.cursor with
  | refused refused =>
      rw [after_refused refused]
      exact recorded
  | close isClose =>
      have noReads := Use.close_reads_nothing story.cursor isClose
      obtain ⟨_, closed⟩ := Use.closes story.cursor isClose
      unfold Story.after
      rw [closed]
      constructor
      · change story.cursor.description = Asked.lastFields story.cursor.name _
        rw [Asked.lastFields_append, Asked.lastFields_eq_none noReads, Option.none_or,
          recorded.description]
      · exact recorded.lastResult.kept noReads
  | @execute query parameters options isExecute unbound =>
      apply recorded.heed (Use.executed isExecute unbound).heeds
      obtain ⟨exchange, ended, same⟩ := Use.executes isExecute unbound
      change Remembered _ _ (use.performed story.cursor).cursor.portal.lastResult
      rw [same]
      exact ended.remembered (not_reads_declaration query parameters options) recorded.lastResult
  | work noClose noExecute allowed isOpen =>
      apply recorded.heed (Use.heeds noClose noExecute allowed)
      obtain ⟨told, works⟩ := Use.works noClose noExecute allowed
      exact works.ended.remembered (fun command => Operation.reads_iff) recorded.lastResult

theorem Recorded.course (recorded : story.Recorded) (uses : List (Use τ)) :
    (story.course uses).Recorded := by
  induction uses generalizing story with
  | nil => exact recorded
  | cons use uses ih => exact ih (recorded.after use)

end Story

end Cursor

end PgClient
