/-
What the results of a command come to.

A round trip counts the results of its command as they come. What it has counted in the end
is told by all of them together: the first error of the server, or else the last result that
is more than a row.
-/

import PgClient.Exchange.RoundTrip

namespace PgClient

/-- The first error of the server, or else the last result that is more than a row. -/
def QueryResult.conclusion? (results : List QueryResult) : Option QueryResult :=
  match results.find? isFatal with
  | some result => some result
  | none => (results.filter fun result => result.status != .singleTuple).getLast?

def RoundTrip.conclusion (results : List QueryResult) : Step QueryResult :=
  match QueryResult.conclusion? results with
  | some result => .done result
  | none => .ofError (Error.ofProtocol .noResult)

namespace Gathering

variable {results : List QueryResult}

def keeps (result : QueryResult) : Bool :=
  !result.isFatal && result.status != .singleTuple

private theorem add_fatal (gathering : Gathering) (result : QueryResult) :
    (gathering.add result).fatal =
      gathering.fatal.or (if result.isFatal then some result else none) := by
  cases status : result.status
  all_goals simp [add, QueryResult.isFatal, status]

private theorem add_last (gathering : Gathering) (result : QueryResult) :
    (gathering.add result).last = if keeps result then some result else gathering.last := by
  cases status : result.status
  all_goals simp [add, keeps, QueryResult.isFatal, status]

private theorem foldl_fatal (gathering : Gathering) :
    (results.foldl add gathering).fatal =
      gathering.fatal.or (results.find? QueryResult.isFatal) := by
  induction results generalizing gathering with
  | nil => exact Option.or_none.symm
  | cons result results ih =>
      rw [List.foldl_cons, ih, add_fatal, List.find?_cons, Option.or_assoc]
      cases result.isFatal with
      | false => rfl
      | true => rfl

private theorem foldl_last (gathering : Gathering) :
    (results.foldl add gathering).last = (results.filter keeps).getLast?.or gathering.last := by
  induction results generalizing gathering with
  | nil => rfl
  | cons result results ih =>
      rw [List.foldl_cons, ih, add_last, List.filter_cons]
      cases keeps result with
      | false => rfl
      | true =>
          rw [if_pos rfl, if_pos rfl, List.getLast?_cons]
          cases (results.filter keeps).getLast? with
          | none => rfl
          | some last => rfl

/-- Results that come one by one are concluded as they are together. -/
theorem outcome_foldl : (results.foldl add {}).outcome = QueryResult.conclusion? results := by
  unfold outcome QueryResult.conclusion?
  rw [foldl_fatal, foldl_last]
  cases failed : results.find? QueryResult.isFatal with
  | some result => rfl
  | none =>
      have same : results.filter keeps =
          results.filter fun result => result.status != .singleTuple := by
        apply List.filter_congr
        intro result member
        have fine := List.find?_eq_none.mp failed result member
        rw [keeps, Bool.eq_false_iff.mpr fine]
        rfl
      rw [same]
      exact Option.or_none

end Gathering

end PgClient
