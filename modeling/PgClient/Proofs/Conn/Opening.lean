/-
What a session is like when its opening is over.

The opening reads, writes and keeps what the server reports on itself; it sends no
command and takes in no result. So an established session has none of either.
-/

import PgClient.Conn.Startup

namespace PgClient.Conn

/-- No command has been sent yet, and nothing has gone wrong. -/
structure Unused (conn : Conn) : Prop where
  broken : conn.broken = false
  released : conn.released = false
  inFlight : conn.inFlight = false
  describing : conn.describing = false
  builder : conn.builder = none
  results : conn.results.toList = []

namespace Unused

variable {conn after : Conn}

theorem isClosed (unused : conn.Unused) : conn.isClosed = false := by
  rw [Conn.isClosed, unused.broken, unused.released]
  rfl

theorem record (event : Event) (unused : conn.Unused) : (conn.record event).Unused :=
  { unused with }

theorem setStatus (indicator : UInt8) (unused : conn.Unused) :
    (conn.setStatus indicator).Unused :=
  { unused with }

theorem setParameter (name value : String) (unused : conn.Unused) :
    (conn.setParameter name value).Unused :=
  { unused with }

theorem keepInput (inbox : Bytes) (arrivals : List Arrival) (unused : conn.Unused) :
    (conn.keepInput inbox arrivals).Unused :=
  { unused with }

private theorem enqueue (messages : List FrontendMessage) (unused : conn.Unused) :
    (conn.enqueue messages).2.Unused :=
  { unused with }

private theorem flushFully (unused : conn.Unused) (flushed : conn.flushFully = (.ok (), after)) :
    after.Unused := by
  rw [Conn.flushFully, if_neg (by simp [unused.isClosed])] at flushed
  dsimp only at flushed
  split at flushed
  · cases flushed
    exact { unused with }
  · cases flushed
  · cases flushed
  · cases flushed

private theorem receiveNotice {body : Bytes} (unused : conn.Unused)
    (received : conn.receiveNotice body = .ok after) : after.Unused := by
  unfold Conn.receiveNotice at received
  split at received
  · cases received
  · cases received
    exact unused.record _

end Unused

variable {config : Config} {nonces : Nat → String} {stage : Stage} {conn after : Conn}

def Progress.GoesOn : Progress → Prop
  | .failed _ => False
  | _ => True

private theorem reply_unused {message : FrontendMessage} {progress : Progress}
    (unused : conn.Unused) (replied : conn.reply message stage = (progress, after))
    (goesOn : progress.GoesOn) :
    after.Unused := by
  unfold reply at replied
  split at replied
  · cases replied
    exact goesOn.elim
  · rename_i enqueued put
    have before : enqueued.Unused := by
      have := unused.enqueue [message]
      rw [put] at this
      exact this
    split at replied
    · cases replied
      exact goesOn.elim
    · rename_i flushed
      cases replied
      exact before.flushFully flushed

private theorem authenticate_unused {drawn : Nat} {exchange : Option Scram.Client}
    {request : AuthenticationRequest} {progress : Progress} (unused : conn.Unused)
    (answered : authenticate config nonces drawn exchange request conn = (progress, after))
    (goesOn : progress.GoesOn) : after.Unused := by
  unfold authenticate at answered
  split at answered
  · cases answered
    exact unused
  · exact reply_unused unused answered goesOn
  · exact reply_unused unused answered goesOn
  · split at answered
    · cases answered
      exact goesOn.elim
    · cases answered
      exact goesOn.elim
    · exact reply_unused unused answered goesOn
  · split at answered
    · cases answered
      exact goesOn.elim
    · split at answered
      · cases answered
        exact goesOn.elim
      · exact reply_unused unused answered goesOn
  · split at answered
    · cases answered
      exact goesOn.elim
    · split at answered
      · cases answered
        exact goesOn.elim
      · cases answered
        exact unused
  · cases answered
    exact goesOn.elim

private theorem noticed_unused {body : Bytes} {progress : Progress} (unused : conn.Unused)
    (told : conn.noticed body stage = (progress, after)) (goesOn : progress.GoesOn) :
    after.Unused := by
  unfold noticed at told
  split at told
  · cases told
    exact goesOn.elim
  · rename_i received
    cases told
    exact unused.receiveNotice received

private theorem refused_not_goesOn (body : Bytes) : ¬(refused body).GoesOn := by
  unfold refused
  split
  · exact id
  · exact id

private theorem advance_unused {message : BackendMessage} {progress : Progress}
    (unused : conn.Unused) (advanced : advance config nonces stage message conn = (progress, after))
    (goesOn : progress.GoesOn) : after.Unused := by
  cases stage with
  | authenticating drawn exchange =>
      simp only [advance] at advanced
      split at advanced
      · exact authenticate_unused unused advanced goesOn
      · cases advanced
        exact (refused_not_goesOn _ goesOn).elim
      · exact noticed_unused unused advanced goesOn
      · cases advanced
        exact goesOn.elim
  | settling =>
      simp only [advance] at advanced
      split at advanced
      · cases advanced
        exact unused.setStatus _
      · cases advanced
        exact { unused with }
      · cases advanced
        exact unused.setParameter _ _
      · exact noticed_unused unused advanced goesOn
      · cases advanced
        exact (refused_not_goesOn _ goesOn).elim
      · cases advanced
        exact unused.record _
      · cases advanced
        exact goesOn.elim

private theorem converse_unused {inbox : Bytes} {arrivals : List Arrival} (unused : conn.Unused)
    (established : converse config nonces inbox arrivals stage conn = (.established, after)) :
    after.Unused := by
  fun_induction converse config nonces inbox arrivals stage conn with
  | case1 => cases established
  | case2 => cases established
  | case3 => cases established
  | case4 => cases established
  | case5 => cases established
  | case6 inbox arrivals stage conn frame rest later received message decoded last advanced =>
      cases established
      exact (advance_unused unused advanced trivial).keepInput _ _
  | case7 inbox arrivals stage conn frame rest later received message decoded next kept advanced
      shorter ih => exact ih (advance_unused unused advanced trivial) established

theorem startup_unused (unused : conn.Unused)
    (established : startup config nonces conn = (.established, after)) : after.Unused := by
  unfold startup at established
  split at established
  · cases established
  · rename_i outbox appended
    have before : ({ conn with outbox } : Conn).Unused := { unused with }
    split at established
    · cases established
    · rename_i flushed
      exact converse_unused (before.flushFully flushed) established

theorem connect_unused {dial : Address → Except IoFault Link}
    (established : connect config nonces dial = (.established, after)) : after.Unused := by
  unfold connect at established
  split at established
  · cases established
  · rename_i link dialled
    split at established
    · cases established
    · have fresh : ({ link } : Conn).Unused := ⟨rfl, rfl, rfl, rfl, rfl, rfl⟩
      split at established
      · cases established
      · exact startup_unused fresh established

def welcoming (_ : Address) : Except IoFault Link :=
  let message (first : Char) (body : Bytes) : Bytes := Frame.bytes { first := first.toUInt8, body }
  .ok { arrivals := [.data (message 'R' [0, 0, 0, 0] ++ message 'Z' ['I'.toUInt8])] }

end PgClient.Conn
