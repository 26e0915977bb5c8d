/-
The life of a cursor.

A cursor is used in any way, each time with the session as it is by then, and each use may
succeed, fail, lose the session or be given up at any point. Its state only moves forward,
and moves when the server has granted what it stands for. A use that the state does not
allow does nothing at all, and a cursor that has been closed stays closed.
-/

import PgClient.Proofs.Cursor.Uses
import PgClient.Proofs.Wire.Stream

namespace PgClient

open Asked (lastFields grants)

variable {τ : Type} [Transport τ]

def CursorState.rank : CursorState → Nat
  | unbound => 0
  | declared => 1
  | described => 2
  | closed => 3

namespace Cursor

/-! ### Stories -/

/-- A cursor, and all that was asked in its uses, the latest command first. -/
structure Story where
  cursor : Cursor
  log : List Asked := []

namespace Story

def begin (adopted : Bool) (name : String) : Story :=
  { cursor := if adopted then .adopt name else .ofName name }

def after (use : Use τ) (story : Story) : Story :=
  { cursor := (use.performed story.cursor).cursor
    log := use.asked story.cursor ++ story.log }

def course (uses : List (Use τ)) (story : Story) : Story :=
  uses.foldl (fun story use => story.after use) story

/-- As long as the cursor is not closed, its description is what was told of it last. -/
structure Informed (story : Story) : Prop where
  unknown : story.cursor.state = .unbound ∨ story.cursor.state = .declared →
    story.cursor.description = none ∧ lastFields story.cursor.name story.log = none
  known : story.cursor.state = .described →
    ∃ fields, story.cursor.description = some fields ∧
      lastFields story.cursor.name story.log = some fields

theorem begin_informed (adopted : Bool) (name : String) : (begin adopted name).Informed := by
  cases adopted with
  | false => exact ⟨fun _ => ⟨rfl, rfl⟩, nofun⟩
  | true => exact ⟨fun _ => ⟨rfl, rfl⟩, nofun⟩

variable {story : Story} {use : Use τ}

private theorem Informed.heed {granted : Bool} {asked : List Asked} {cursor : Cursor}
    (informed : story.Informed) (first : granted = true → story.cursor.state = .unbound)
    (heeds : story.cursor.portal.Heeds granted asked cursor.portal) :
    Informed ⟨cursor, asked ++ story.log⟩ := by
  have name : cursor.name = story.cursor.name := heeds.name
  have state : cursor.state =
      if (lastFields story.cursor.name asked).isSome then .described
      else if granted then .declared else story.cursor.state := heeds.state
  have description : cursor.description =
      (lastFields story.cursor.name asked).or story.cursor.description := heeds.description
  have whole : lastFields cursor.name (asked ++ story.log) =
      (lastFields story.cursor.name asked).or (lastFields story.cursor.name story.log) := by
    rw [name]
    exact Asked.lastFields_append asked
  cases told : lastFields story.cursor.name asked with
  | some fields =>
      rw [told] at state description whole
      have described : cursor.state = .described := state
      constructor
      · intro early
        rw [described] at early
        exact absurd early (by decide)
      · intro known
        exact ⟨fields, description, whole⟩
  | none =>
      rw [told, Option.none_or] at description whole
      rw [told] at state
      cases granted with
      | true =>
          obtain ⟨noFields, noneTold⟩ := informed.unknown (.inl (first rfl))
          constructor
          · intro early
            exact ⟨description.trans noFields, whole.trans noneTold⟩
          · intro known
            rw [state] at known
            cases known
      | false =>
          have same : cursor.state = story.cursor.state := state
          constructor
          · intro early
            rw [same] at early
            obtain ⟨noFields, noneTold⟩ := informed.unknown early
            exact ⟨description.trans noFields, whole.trans noneTold⟩
          · intro known
            rw [same] at known
            obtain ⟨fields, isKnown, wasTold⟩ := informed.known known
            exact ⟨fields, description.trans isKnown, whole.trans wasTold⟩

inductive Kind (use : Use τ) (cursor : Cursor) : Prop
  | refused {fault : StateFault} (refused : use.operation.refusal? cursor.state = some fault)
  | close (isClose : use.operation = .close)
  | execute {query : String} {parameters : List Parameter} {options : DeclareOptions}
      (isExecute : use.operation = .execute query parameters options)
      (unbound : cursor.state = .unbound)
  | work (noClose : use.operation ≠ .close)
      (noExecute : ∀ query parameters options, use.operation ≠ .execute query parameters options)
      (allowed : use.operation.refusal? cursor.state = none)
      (isOpen : cursor.state = .declared ∨ cursor.state = .described)

omit [Transport τ] in
theorem kind (use : Use τ) (cursor : Cursor) : Kind use cursor := by
  obtain ⟨manner, operation, session⟩ := use
  cases refusal : operation.refusal? cursor.state with
  | some fault => exact .refused refusal
  | none =>
      cases operation with
      | close => exact .close rfl
      | execute query parameters options =>
          refine .execute rfl ?_
          cases state : cursor.state with
          | unbound => rfl
          | _ =>
              rw [state] at refusal
              cases refusal
      | _ =>
          refine .work nofun nofun refusal ?_
          cases state : cursor.state with
          | declared => exact .inl rfl
          | described => exact .inr rfl
          | _ =>
              rw [state] at refusal
              cases refusal

theorem after_refused {fault : StateFault}
    (refused : use.operation.refusal? story.cursor.state = some fault) :
    story.after use = story := by
  unfold after
  rw [Use.performed_refused refused, Use.asked_refused refused]
  rfl

private theorem Informed.after (informed : story.Informed) (use : Use τ) :
    (story.after use).Informed := by
  cases kind use story.cursor with
  | refused refused =>
      rw [after_refused refused]
      exact informed
  | close isClose =>
      have closed : (story.after use).cursor.state = .closed := Use.closed isClose
      constructor
      · intro early
        rw [closed] at early
        exact absurd early (by decide)
      · intro known
        rw [closed] at known
        cases known
  | execute isExecute unbound =>
      exact informed.heed (fun _ => unbound) (Use.executed isExecute unbound).heeds
  | work noClose noExecute allowed isOpen =>
      have nothing : false = true → story.cursor.state = .unbound := nofun
      exact informed.heed nothing (Use.heeds noClose noExecute allowed)

theorem Informed.course (informed : story.Informed) (uses : List (Use τ)) :
    (story.course uses).Informed := by
  induction uses generalizing story with
  | nil => exact informed
  | cons use uses ih => exact ih (informed.after use)

/-! ### Moves -/

theorem state_of_execute {query : String} {parameters : List Parameter} {options : DeclareOptions}
    (isExecute : use.operation = .execute query parameters options)
    (unbound : story.cursor.state = .unbound) :
    (story.after use).cursor.state =
      if (lastFields story.cursor.name (use.asked story.cursor)).isSome then .described
      else if grants (declaration story.cursor.name query parameters options)
        (use.asked story.cursor) then .declared
      else .unbound := by
  have state := (Use.executed isExecute unbound).heeds.state
  have isUnbound : story.cursor.portal.state = .unbound := unbound
  rw [isUnbound] at state
  exact state

theorem state_of_work (noClose : use.operation ≠ .close)
    (noExecute : ∀ query parameters options, use.operation ≠ .execute query parameters options)
    (allowed : use.operation.refusal? story.cursor.state = none) :
    (story.after use).cursor.state =
      if (lastFields story.cursor.name (use.asked story.cursor)).isSome then .described
      else story.cursor.state :=
  (Use.heeds noClose noExecute allowed).state

private theorem after_forward (story : Story) (use : Use τ) :
    story.cursor.state.rank ≤ (story.after use).cursor.state.rank := by
  cases kind use story.cursor with
  | refused refused =>
      exact Nat.le_of_eq
        (congrArg (fun story => story.cursor.state.rank) (after_refused refused).symm)
  | close isClose =>
      have closed : (story.after use).cursor.state = .closed := Use.closed isClose
      rw [closed]
      cases story.cursor.state with
      | _ => decide
  | execute isExecute unbound =>
      rw [unbound]
      exact Nat.zero_le _
  | work noClose noExecute allowed isOpen =>
      rw [state_of_work noClose noExecute allowed]
      split
      · rcases isOpen with declared | described
        · rw [declared]
          decide
        · exact Nat.le_of_eq (congrArg _ described)
      · exact Nat.le_refl _

private theorem after_declared (unbound : story.cursor.state = .unbound)
    (moved : (story.after use).cursor.state = .declared ∨
      (story.after use).cursor.state = .described) :
    ∃ query parameters options, use.operation = .execute query parameters options ∧
      grants (declaration story.cursor.name query parameters options)
        (use.asked story.cursor) = true := by
  cases kind use story.cursor with
  | refused refused =>
      rw [after_refused refused, unbound] at moved
      exact absurd moved (by decide)
  | close isClose =>
      have closed : (story.after use).cursor.state = .closed := Use.closed isClose
      rw [closed] at moved
      exact absurd moved (by decide)
  | @execute query parameters options isExecute _ =>
      refine ⟨query, parameters, options, isExecute, ?_⟩
      by_cases told : (lastFields story.cursor.name (use.asked story.cursor)).isSome = true
      · exact ((Use.executed isExecute unbound).described told).1
      · rw [state_of_execute isExecute unbound, if_neg told] at moved
        split at moved
        · assumption
        · exact absurd moved (by decide)
  | work noClose noExecute allowed isOpen =>
      rw [unbound] at isOpen
      exact absurd isOpen (by decide)

private theorem after_described (unknown : story.cursor.state ≠ .described)
    (moved : (story.after use).cursor.state = .described) :
    (lastFields story.cursor.name (use.asked story.cursor)).isSome = true := by
  by_cases told : (lastFields story.cursor.name (use.asked story.cursor)).isSome = true
  · exact told
  · exfalso
    cases kind use story.cursor with
    | refused refused =>
        rw [after_refused refused] at moved
        exact unknown moved
    | close isClose =>
        have closed : (story.after use).cursor.state = .closed := Use.closed isClose
        rw [closed] at moved
        cases moved
    | execute isExecute unbound =>
        rw [state_of_execute isExecute unbound, if_neg told] at moved
        split at moved
        · cases moved
        · cases moved
    | work noClose noExecute allowed isOpen =>
        rw [state_of_work noClose noExecute allowed, if_neg told] at moved
        exact unknown moved

private theorem after_failed {query : String} {parameters : List Parameter}
    {options : DeclareOptions} {failure : Failure}
    (isExecute : use.operation = .execute query parameters options)
    (unbound : story.cursor.state = .unbound)
    (failed : (use.performed story.cursor).outcome = .error failure) :
    (story.after use).cursor.state =
      if grants (declaration story.cursor.name query parameters options)
        (use.asked story.cursor) then .declared else .unbound := by
  have undescribed : ¬(lastFields story.cursor.name (use.asked story.cursor)).isSome = true := by
    intro told
    have succeeded := ((Use.executed isExecute unbound).described told).2
    rw [failed] at succeeded
    cases succeeded
  rw [state_of_execute isExecute unbound, if_neg undescribed]

/-! ### The life of a cursor -/

/-- What one more use makes of a cursor. -/
structure Lawful (story : Story) (use : Use τ) : Prop where
  forward : story.cursor.state.rank ≤ (story.after use).cursor.state.rank
  /-- The portal is there when the server has granted its declaration. -/
  declared : story.cursor.state = .unbound →
    (story.after use).cursor.state = .declared ∨ (story.after use).cursor.state = .described →
      ∃ query parameters options, use.operation = .execute query parameters options ∧
        grants (declaration story.cursor.name query parameters options)
          (use.asked story.cursor) = true
  /-- Its columns are known when a description of it has succeeded. -/
  described : story.cursor.state ≠ .described → (story.after use).cursor.state = .described →
    (lastFields story.cursor.name (use.asked story.cursor)).isSome = true
  /-- A declaration that fails as a whole may have been granted. -/
  failed : ∀ query parameters options failure,
    use.operation = .execute query parameters options → story.cursor.state = .unbound →
      (use.performed story.cursor).outcome = .error failure →
        (story.after use).cursor.state =
          if grants (declaration story.cursor.name query parameters options)
            (use.asked story.cursor) then .declared else .unbound
  description : (story.after use).cursor.state = .described →
    ∃ fields, (story.after use).cursor.description = some fields ∧
      lastFields (story.after use).cursor.name (story.after use).log = some fields
  undescribed : (story.after use).cursor.state = .unbound →
    (story.after use).cursor.description = none
  /-- What the state does not allow touches neither the cursor nor the session. -/
  refused : ∀ fault, use.operation.refusal? story.cursor.state = some fault →
    use.performed story.cursor =
      ⟨.error (.error (Error.ofState fault)), story.cursor, use.session⟩
  closed : use.operation = .close → (story.after use).cursor.state = .closed
  closedAgain : use.operation = .close → story.cursor.state = .closed →
    (use.performed story.cursor).outcome = .ok () ∧
      (use.performed story.cursor).session = use.session

private theorem Informed.lawful (informed : story.Informed) (use : Use τ) : story.Lawful use where
  forward := after_forward story use
  declared := after_declared
  described := after_described
  failed _ _ _ _ isExecute unbound failed := after_failed isExecute unbound failed
  description := (informed.after use).known
  undescribed unbound := ((informed.after use).unknown (.inl unbound)).1
  refused _ refused := Use.performed_refused refused
  closed := Use.closed
  closedAgain := Use.closed_again

/-- However a cursor is used, from its beginning as a new or an adopted one, and whatever
becomes of the round trips, each use makes of it only what it may. -/
theorem course_lawful (adopted : Bool) (name : String) (uses : List (Use τ)) (use : Use τ) :
    ((begin adopted name).course uses).Lawful use :=
  ((begin_informed adopted name).course uses).lawful use

/-- The declaration is granted, the description is not, and the cursor is closed twice. -/
example :
    let granted := Frame.stream
      [{ first := 'C'.toUInt8, body := [65, 0] }, { first := 'Z'.toUInt8, body := ['T'.toUInt8] }]
    let denied := Frame.stream
      [{ first := 'E'.toUInt8, body := [0] }, { first := 'Z'.toUInt8, body := ['E'.toUInt8] }]
    let conn : Conn :=
      { link :=
        { arrivals := [.data granted, .blocked, .data denied]
          reports := List.replicate 2 (some ⟨true, false⟩) } }
    let session : Session Conn := { transport := conn, closed := false, autocommit := true }
    let use (operation : Operation) : Use Conn := ⟨.blocking, operation, session⟩
    let story (operations : List Operation) := (begin false "c").course (operations.map use)
    ((story [.execute "select 1" [] {}]).cursor.state,
      (story [.execute "select 1" [] {}, .close, .close]).cursor.state) = (.declared, .closed) := by
  decide +kernel

end Story

end Cursor

end PgClient
