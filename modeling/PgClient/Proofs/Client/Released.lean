/-
Portals that are left behind.

A portal that was declared with hold is kept by the server once its transaction has been
committed, until it is closed; any other goes with its transaction. A cursor that is closed
in a sound transaction, or outside of one if it was declared with hold, closes its portal.
One that is closed in a failed transaction leaves it to the end of that transaction, which is
of no avail to a portal that the server keeps.
-/

import PgClient.Proofs.Client.Outlived
import PgClient.Proofs.Client.Passage
import PgClient.Proofs.Cursor.Uses
import PgClient.Proofs.Session.Granted

namespace PgClient

/-! ### What a server makes of a portal -/

namespace Submission

variable {submission : Submission}

def Committed (submission : Submission) : Prop :=
  ∃ result ∈ submission.taken, result.tag = some "COMMIT"

instance : Decidable submission.Committed :=
  inferInstanceAs (Decidable (∃ result ∈ submission.taken, result.tag = some "COMMIT"))

private theorem drained_iff : submission.Drained ↔
    submission.heard.any BackendMessage.isReady = true ∧
      submission.heard.filterMap BackendMessage.failure? = [] ∧
      ∀ result ∈ submission.taken, result.isFatal = false := by
  constructor
  · rintro ⟨ready, unfailing, taken⟩
    refine ⟨ready, ?_, taken⟩
    rw [List.filterMap_eq_nil_iff]
    intro message member
    cases message with
    | errorResponse body => exact absurd member (unfailing body)
    | _ => rfl
  · rintro ⟨ready, silent, taken⟩
    exact ⟨ready, BackendMessage.not_error_of_failures silent, taken⟩

instance : Decidable submission.Drained :=
  decidable_of_iff' _ drained_iff

end Submission

/-- What there is of a portal that was declared. -/
inductive Fate
  /-- It is there for as long as its transaction. -/
  | pending
  /-- It is there until it is closed. -/
  | held
  | gone
deriving Repr, DecidableEq

inductive Fate.Becomes (hold : Bool) (submission : Submission) : Fate → Fate → Prop
  | same (fate : Fate) : Becomes hold submission fate fate
  | kept (holds : hold = true) (committed : submission.Committed) :
      Becomes hold submission .pending .held
  | lost (fate : Fate) : Becomes hold submission fate .gone

/-- What a server makes of one portal. -/
structure Account where
  /-- What there is of the portal when this has been recorded. -/
  fate : List Submission → Fate
  /-- A transaction that was open before the command is over with it. -/
  ends : Submission → Prop
  /-- The command closes the portal if it is still there. -/
  closes : Command → Prop

namespace Account

/-- The server keeps a portal of this name, declared by then, once its transaction has been
committed if it is one with hold, and drops any other with its transaction. -/
structure Honours (account : Account) (name : String) (hold : Bool)
    (declared : List Submission) : Prop where
  begins : account.fate declared = .held → hold = true
  becomes : ∀ submission trace, declared <:+ trace →
    Fate.Becomes hold submission (account.fate trace) (account.fate (submission :: trace))
  /-- A server that says that no transaction is open has ended the one before. -/
  idle : ∀ submission, submission.reported? = some .idle → account.ends submission
  dropped : ∀ submission trace, declared <:+ submission :: trace → account.ends submission →
    account.fate (submission :: trace) ≠ .pending
  closed : ∀ submission trace, declared <:+ trace →
    submission.command = .query (CursorStatement.close name).sql → submission.Drained →
      account.fate (submission :: trace) = .gone
  committed : hold = true → ∀ submission trace, declared <:+ trace →
    account.fate trace = .pending → submission.command = .query "COMMIT" →
      submission.Committed → account.fate (submission :: trace) = .held
  /-- Whatever comes of later transactions. -/
  lasting : ∀ submission trace, declared <:+ trace → account.fate trace = .held →
    ¬account.closes submission.command → account.fate (submission :: trace) = .held

namespace Honours

variable {account : Account} {name : String} {hold : Bool}
  {declared trace later : List Submission}

/-- What no command changes of a portal stays as the record grows. -/
theorem along (honours : account.Honours name hold declared) (Holds : Fate → Prop)
    (keeps : ∀ submission before after, Fate.Becomes hold submission before after →
      Holds before → Holds after)
    (known : declared <:+ trace) (grown : trace <:+ later) (holds : Holds (account.fate trace)) :
    Holds (account.fate later) := by
  obtain ⟨front, rfl⟩ := grown
  induction front with
  | nil => exact holds
  | cons submission front ih =>
      exact keeps submission _ _ (honours.becomes submission (front ++ trace)
        (known.trans (List.suffix_append front trace))) ih

private theorem gone (honours : account.Honours name hold declared) (known : declared <:+ trace)
    (grown : trace <:+ later) (gone : account.fate trace = .gone) : account.fate later = .gone := by
  apply honours.along (· = .gone) _ known grown gone
  intro submission before after becomes isGone
  cases becomes with
  | same => exact isGone
  | kept => cases isGone
  | lost => rfl

/-- A portal that does not depend on its transaction any more never does again. -/
theorem settled (honours : account.Honours name hold declared) (known : declared <:+ trace)
    (grown : trace <:+ later) (settled : account.fate trace ≠ .pending) :
    account.fate later ≠ .pending := by
  apply honours.along (· ≠ .pending) _ known grown settled
  intro submission before after becomes isSettled
  cases becomes with
  | same => exact isSettled
  | kept => nofun
  | lost => nofun

/-- A portal that is kept was kept before, or has been since by a commit. -/
theorem held (honours : account.Honours name hold declared) (known : declared <:+ trace)
    (grown : trace <:+ later) (held : account.fate later = .held) :
    account.fate trace = .held ∨ hold = true ∧ ∃ submission earlier,
      submission :: earlier <:+ later ∧ trace <:+ earlier ∧ submission.Committed := by
  obtain ⟨front, rfl⟩ := grown
  induction front with
  | nil => exact .inl held
  | cons submission front ih =>
      have becomes := honours.becomes submission (front ++ trace)
        (known.trans (List.suffix_append front trace))
      rw [List.cons_append] at held
      rw [held] at becomes
      generalize before : account.fate (front ++ trace) = fate at becomes
      cases becomes with
      | same =>
          rcases ih before with held | ⟨holds, latest, earlier, within, rest⟩
          · exact .inl held
          · exact .inr ⟨holds, latest, earlier,
              within.trans (List.suffix_cons submission (front ++ trace)), rest⟩
      | kept holds committed =>
          exact .inr ⟨holds, submission, front ++ trace, List.suffix_refl _,
            List.suffix_append front trace, committed⟩

/-- Only a portal with hold is kept. -/
theorem holds (honours : account.Honours name hold declared) (grown : declared <:+ later)
    (held : account.fate later = .held) : hold = true := by
  rcases honours.held (List.suffix_refl declared) grown held with before | ⟨holds, _⟩
  · exact honours.begins before
  · exact holds

end Honours

def Over (account : Account) (trace final : List Submission) : Prop :=
  ∃ submission earlier, submission :: earlier <:+ final ∧ trace <:+ submission :: earlier ∧
    account.ends submission

end Account

/-! ### A server that does as it is told -/

def Fate.after (name : String) (hold : Bool) (submission : Submission) (fate : Fate) : Fate :=
  if submission.command = .query (CursorStatement.close name).sql ∧ submission.Drained then .gone
  else
    match fate with
    | .pending =>
        if hold = true ∧ submission.Committed then .held
        else if submission.reported? = some .idle then .gone
        else .pending
    | .held => .held
    | .gone => .gone

def Fate.since (name : String) (hold : Bool) (count : Nat) : List Submission → Fate
  | [] => .pending
  | submission :: trace =>
      if trace.length < count then .pending
      else (since name hold count trace).after name hold submission

namespace Fate

variable {name : String} {hold : Bool} {submission : Submission} {declared trace : List Submission}

end Fate

namespace Account

/-- A server that closes a portal when it is asked to, and otherwise at the end of its
transaction or not at all. -/
def ordinary (name : String) (hold : Bool) (declared : List Submission) : Account where
  fate := Fate.since name hold declared.length
  ends submission := submission.reported? = some .idle
  closes command := command = .query (CursorStatement.close name).sql

end Account

/-! ### Closing -/

namespace Portal

variable {portal : Portal} {status : TransactionStatus}

end Portal

namespace Cursor

variable {cursor : Cursor} {session : Session Attested} {manner : Manner}

end Cursor

/-! ### After any calls -/

namespace Client

def record (client : Client Attested) : List Submission :=
  client.session.transport.trace

/-- The cursor of this number is closed while its portal is open, with success and over a
session that stays open. -/
structure Closes (number : Nat) (manner : Manner) (client : Client Attested) : Prop where
  isOpen : (client.handles number).cursor.portal.isOpen = true
  succeeded : (client.perform manner (.cursor number .close)).outcome.isOk = true
  stays : (client.perform manner (.cursor number .close)).client.session.closed = false

private theorem Closes.outcome {number : Nat} {manner : Manner} {client : Client Attested}
    (closes : client.Closes number manner) :
    ((client.handles number).cursor.close manner client.session).1 = .ok () := by
  have answered : (((client.handles number).cursor.close manner client.session).1.map
      fun _ => Reply.done).isOk = true := closes.succeeded
  cases outcome : ((client.handles number).cursor.close manner client.session).1 with
  | ok done => rfl
  | error failure =>
      rw [outcome] at answered
      cases answered

/-- A server that lets everybody in, starts a transaction, declares and describes a cursor, and
commits the transaction. It answers as is given after that. -/
def holding (answers : List Bytes) (_ : Address) : Except IoFault Link :=
  let message (first : Char) (body : Bytes) : Bytes := Frame.bytes { first := first.toUInt8, body }
  let ready (indicator : Char) : Bytes := message 'Z' [indicator.toUInt8]
  let complete (tag : String) (indicator : Char) : Bytes :=
    message 'C' (Bytes.endedByZero (Utf8.encode tag)) ++ ready indicator
  .ok
    { arrivals :=
        [.data (message 'R' [0, 0, 0, 0] ++ ready 'I'), .data (complete "BEGIN" 'T'), .blocked,
          .data (complete "DECLARE CURSOR" 'T'), .blocked, .data (message 'n' [] ++ ready 'T'),
          .blocked, .data (complete "COMMIT" 'I'), .blocked] ++
          answers.flatMap fun answer => [.data answer, .blocked]
      reports := List.replicate 8 (some { readable := true, writable := true }) }

end Client

end PgClient
