/-
An opening whose time runs out.

A read that finds nothing while a session is opened has waited for as long as it may. Nothing
comes of it: the opening reads once more, with a deadline and without one. So an opening comes
to the same with such reads and without them, wherever they stand and however many they are,
and a server that falls silent is waited for as long as it is silent.
-/

import PgClient.Proofs.Conn.Admission

namespace PgClient

namespace Link

/-- What reading comes to with the reads left out that find nothing. -/
def promptly (arrivals : List Arrival) : List Arrival :=
  arrivals.filter (· ≠ .blocked)

def prompt (link : Link) : Link :=
  { link with arrivals := promptly link.arrivals }

def silentFor (count : Nat) (link : Link) : Link :=
  { link with arrivals := link.arrivals ++ List.replicate count .blocked }

private theorem promptly_replicate (count : Nat) :
    promptly (List.replicate count .blocked) = [] := by
  induction count with
  | zero => rfl
  | succ count ih => exact ih

private theorem prompt_silentFor (count : Nat) (link : Link) :
    (link.silentFor count).prompt = link.prompt := by
  have same : promptly (link.arrivals ++ List.replicate count .blocked) =
      promptly link.arrivals := by
    rw [promptly, List.filter_append]
    change promptly link.arrivals ++ promptly (List.replicate count .blocked) = _
    rw [promptly_replicate, List.append_nil]
  unfold silentFor prompt
  rw [same]

end Link

namespace Conn

open Link (promptly)

variable {config : Config} {nonces : Nat → String} {stage : Stage} {inbox : Bytes}
  {arrivals : List Arrival}

/-! ### Waiting for a message -/

private theorem awaitFrame_promptly (inbox : Bytes) (arrivals : List Arrival) :
    awaitFrame inbox (promptly arrivals) =
      { awaitFrame inbox arrivals with
        arrivals := promptly (awaitFrame inbox arrivals).arrivals } := by
  -- Each read that is left out leaves what has been read as it was.
  fun_induction awaitFrame inbox arrivals with
  | case1 inbox arrivals fault found =>
      unfold awaitFrame
      rw [found]
  | case2 inbox arrivals frame rest found =>
      unfold awaitFrame
      rw [found]
  | case3 inbox undecided =>
      rw [promptly, List.filter_nil, awaitFrame, undecided]
  | case4 inbox undecided later ih => exact ih
  | case5 inbox undecided fault later =>
      have kept : promptly (.failed fault :: later) = .failed fault :: promptly later := rfl
      rw [kept, awaitFrame, undecided]
  | case6 inbox undecided later =>
      have kept : promptly (.data [] :: later) = .data [] :: promptly later := rfl
      rw [kept, awaitFrame, undecided]
  | case7 inbox undecided bytes later some ih =>
      have kept : promptly (.data bytes :: later) = .data bytes :: promptly later := rfl
      rw [kept, awaitFrame, undecided]
      · exact ih
      · exact some

/-! ### Everything else -/

def facing (arrivals : List Arrival) (conn : Conn) : Conn :=
  { conn with link := { conn.link with arrivals } }

variable {conn : Conn}

private theorem note_facing (message : BackendMessage) :
    (conn.facing arrivals).note message = (conn.note message).facing arrivals := by
  cases message with
  | noticeResponse body =>
      unfold note receiveNotice
      cases read : Diagnostic.parse body with
      | error fault => simp only [read]; rfl
      | ok report => simp only [read]; rfl
  | _ => rfl

private theorem flushFully_facing :
    (conn.facing arrivals).flushFully =
      (conn.flushFully.1, conn.flushFully.2.facing arrivals) := by
  unfold flushFully
  have same : (conn.facing arrivals).isClosed = conn.isClosed := rfl
  rw [same]
  cases conn.isClosed with
  | true => rfl
  | false =>
      dsimp only [facing]
      cases (Link.push conn.outbox conn.link.uptakes).ending with
      | complete => rfl
      | refused => rfl
      | nothingTaken => rfl
      | failed fault => rfl

private theorem flushFully_arrivals : conn.flushFully.2.link.arrivals = conn.link.arrivals := by
  unfold flushFully
  split
  · rfl
  · dsimp only
    split
    · rfl
    · rfl
    · rfl
    · rfl

private theorem reply_facing (message : FrontendMessage) :
    (conn.facing arrivals).reply message stage =
      ((conn.reply message stage).1, (conn.reply message stage).2.facing arrivals) := by
  have queued : (conn.facing arrivals).enqueue [message] =
      ((conn.enqueue [message]).1, (conn.enqueue [message]).2.facing arrivals) := rfl
  unfold reply
  rw [queued]
  generalize conn.enqueue [message] = enqueued
  obtain ⟨outcome, conn⟩ := enqueued
  cases outcome with
  | error defect => rfl
  | ok =>
      dsimp only
      rw [flushFully_facing]
      generalize conn.flushFully = flushed
      obtain ⟨outcome, conn⟩ := flushed
      cases outcome with
      | error error => rfl
      | ok => rfl

private theorem advance_facing (message : BackendMessage) :
    advance config nonces stage message (conn.facing arrivals) =
      ((advance config nonces stage message conn).1,
        (advance config nonces stage message conn).2.facing arrivals) := by
  rcases continues_or_objects config nonces stage message with
    ⟨answer, next, continues⟩ | ⟨settling, indicator, ready⟩ | ⟨error, objects⟩
  · rw [continues.advance, continues.advance, note_facing]
    cases answer with
    | none => rfl
    | some reply => exact reply_facing reply
  · subst settling ready
    rfl
  · rw [objects.advance, objects.advance]

def prompt (conn : Conn) : Conn :=
  { conn with link := conn.link.prompt }

private theorem converse_of_message {frame : Frame} {rest : Bytes} {later : List Arrival}
    {message : BackendMessage}
    (received : awaitFrame inbox arrivals = ⟨.frame frame, rest, later⟩)
    (decoded : BackendMessage.decode frame.first frame.body = .ok message) :
    converse config nonces inbox arrivals stage conn =
      proceed config nonces rest later (advance config nonces stage message conn) := by
  rw [converse_eq, received, respond]
  dsimp only
  rw [decoded]

/-- What is to be read is put back into the session when the opening ends, so it does not
matter what stands there meanwhile. -/
theorem converse_prompt (unread : List Arrival) :
    converse config nonces inbox (promptly arrivals) stage (conn.facing unread) =
      ((converse config nonces inbox arrivals stage conn).1,
        (converse config nonces inbox arrivals stage conn).2.prompt) := by
  have awaited := awaitFrame_promptly
  fun_induction converse config nonces inbox arrivals stage conn generalizing unread with
  | case1 inbox arrivals stage conn rest later received =>
      rw [converse_eq, awaited, received]
      rfl
  | case2 inbox arrivals stage conn fault rest later received =>
      rw [converse_eq, awaited, received]
      rfl
  | case3 inbox arrivals stage conn fault rest later received =>
      rw [converse_eq, awaited, received]
      rfl
  | case4 inbox arrivals stage conn frame rest later received fault decoded =>
      rw [converse_eq, awaited, received, respond]
      dsimp only
      rw [decoded]
      rfl
  | case5 inbox arrivals stage conn frame rest later received message decoded failure kept
      advanced =>
      have same := awaited inbox arrivals
      rw [received] at same
      rw [converse_of_message same decoded, advance_facing, advanced]
      rfl
  | case6 inbox arrivals stage conn frame rest later received message decoded last advanced =>
      have same := awaited inbox arrivals
      rw [received] at same
      rw [converse_of_message same decoded, advance_facing, advanced]
      rfl
  | case7 inbox arrivals stage conn frame rest later received message decoded next kept advanced
      shorter ih =>
      have same := awaited inbox arrivals
      rw [received] at same
      rw [converse_of_message same decoded, advance_facing, advanced]
      exact ih unread

def goOn (config : Config) (nonces : Nat → String) : Except Error Unit × Conn → Opening × Conn
  | (.error error, conn) => (.ofError error, conn)
  | (.ok (), conn) =>
      converse config nonces conn.inbox conn.link.arrivals (.authenticating 0 none) conn

private theorem goOn_prompt (written : Except Error Unit) :
    goOn config nonces (written, conn.prompt) =
      ((goOn config nonces (written, conn)).1, (goOn config nonces (written, conn)).2.prompt) := by
  cases written with
  | error error => rfl
  | ok => exact converse_prompt (promptly conn.link.arrivals)

private theorem startup_of_append {outbox : Bytes}
    (appended : (startupMessage config).append conn.outbox = (.ok (), outbox)) :
    startup config nonces conn = goOn config nonces ({ conn with outbox } : Conn).flushFully := by
  unfold startup
  simp only [appended]
  rfl

/-- An opening comes to the same without the reads that find nothing, whatever deadline it was
given: they change neither how it ends nor what it leaves but for what is still to be read. -/
theorem startup_prompt (config : Config) (nonces : Nat → String) (link : Link) :
    startup config nonces { link := link.prompt } =
      ((startup config nonces { link }).1, (startup config nonces { link }).2.prompt) := by
  rcases (startupMessage config).append_cases [] with appended | ⟨defect, content, appended, _⟩
  · let begun : Conn := { link, outbox := [] ++ (startupMessage config).bytes }
    have same : startup config nonces { link } = goOn config nonces begun.flushFully :=
      startup_of_append appended
    have samePrompt : startup config nonces { link := link.prompt } =
        goOn config nonces begun.prompt.flushFully := startup_of_append appended
    have flushed : begun.prompt.flushFully = (begun.flushFully.1, begun.flushFully.2.prompt) := by
      have kept : begun.flushFully.2.link.arrivals = link.arrivals := flushFully_arrivals
      have facing : begun.prompt.flushFully = _ := flushFully_facing
      rw [facing, ← kept]
      rfl
    rw [same, samePrompt, flushed]
    exact goOn_prompt begun.flushFully.1
  · unfold startup
    simp only [appended]
    rfl

private theorem startup_congr_prompt {one other : Link} (same : one.prompt = other.prompt) :
    (startup config nonces { link := one }).1 = (startup config nonces { link := other }).1 := by
  have first := congrArg Prod.fst (startup_prompt config nonces one)
  have second := congrArg Prod.fst (startup_prompt config nonces other)
  rw [← same] at second
  exact first.symm.trans second

/-- No deadline ends an opening. It comes to the same without the reads that ran out of time,
and a server that falls silent may be silent for as long as it likes. -/
theorem startup_outlasts_deadlines (config : Config) (nonces : Nat → String) (link : Link) :
    (startup config nonces { link := link.prompt }).1 = (startup config nonces { link }).1 ∧
      (startup config nonces { link := link.prompt }).2 =
        (startup config nonces { link }).2.prompt ∧
      ∀ count, (startup config nonces { link := link.silentFor count }).1 =
        (startup config nonces { link }).1 := by
  refine ⟨?_, ?_, ?_⟩
  · rw [startup_prompt]
  · rw [startup_prompt]
  · intro count
    exact startup_congr_prompt (Link.prompt_silentFor count link)

/-- A server that lets everybody in, and stops within its first message for longer than a
read may wait. -/
def hesitant : Link where
  arrivals := [.data [82, 0, 0], .blocked, .data [0, 8, 0, 0, 0, 0, 90, 0, 0, 0, 5, 73]]

def fallingSilent : Link where
  arrivals := [.data [82, 0, 0]]

/-- With a deadline given, a read that runs out of time before there is a message does not end
the opening, and no number of such reads does. -/
theorem startup_not_timely :
    let config : Config := { connectTimeout := some 1 }
    Frame.next [82, 0, 0] = .ok none ∧
      (startup config (fun _ => "") { link := hesitant }).1 = .established ∧
      (connect config (fun _ => "") fun _ => .ok hesitant).1 = .established ∧
      ∀ count,
        (startup config (fun _ => "") { link := fallingSilent.silentFor count }).1 = .silent := by
  refine ⟨rfl, by decide +kernel, by decide +kernel, ?_⟩
  intro count
  rw [startup_congr_prompt (Link.prompt_silentFor count fallingSilent)]
  decide +kernel

end Conn

end PgClient
