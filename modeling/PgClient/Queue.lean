/-
Things that wait to be taken in the order of their arrival.

What has arrived since the last time the front ran out is kept latest first, so that
an arrival costs the same however much is waiting. Nothing but `toList` is to be seen
of that: an arrival stands at its end, and what is taken stood at its head.
-/

namespace PgClient

structure Queue (α : Type u) where
  /-- What is taken first, the oldest at the head. -/
  front : List α := []
  /-- What is taken after that, the latest at the head. -/
  back : List α := []
deriving Repr, DecidableEq

namespace Queue

variable {α : Type u}

/-- All that waits, the oldest first. -/
def toList (queue : Queue α) : List α :=
  queue.front ++ queue.back.reverse

def isEmpty (queue : Queue α) : Bool :=
  queue.front.isEmpty && queue.back.isEmpty

def push (queue : Queue α) (item : α) : Queue α :=
  { queue with back := item :: queue.back }

def take? (queue : Queue α) : Option (α × Queue α) :=
  match queue.front with
  | item :: front => some (item, { queue with front })
  | [] =>
      match queue.back.reverse with
      | [] => none
      | item :: front => some (item, { front })

@[simp]
theorem toList_empty : ({} : Queue α).toList = [] :=
  rfl

@[simp]
theorem toList_push (queue : Queue α) (item : α) :
    (queue.push item).toList = queue.toList ++ [item] := by
  simp [toList, push]

theorem isEmpty_iff (queue : Queue α) : queue.isEmpty = true ↔ queue.toList = [] := by
  simp [isEmpty, toList]

theorem toList_of_take? {queue rest : Queue α} {item : α}
    (taken : queue.take? = some (item, rest)) : queue.toList = item :: rest.toList := by
  rcases queue with ⟨front | ⟨head, front⟩, back⟩
  · rcases reversed : back.reverse with _ | ⟨head, others⟩
    · simp [take?, reversed] at taken
    · simp only [take?, reversed, Option.some.injEq, Prod.mk.injEq] at taken
      obtain ⟨rfl, rfl⟩ := taken
      simp [toList, reversed]
  · simp only [take?, Option.some.injEq, Prod.mk.injEq] at taken
    obtain ⟨rfl, rfl⟩ := taken
    simp [toList]

end Queue

end PgClient
