/-
A session that looks before it takes.

This is the session over readers that look first. Its loops have as many rounds as there
are bytes to read, and one round more in which to see that there are none left.

Whatever a server sends, at the opening or later, such a session does what the session
itself does, and never comes to a wrong end.
-/

import PgClient.Conn.Startup
import PgClient.Proofs.Conn.Course
import PgClient.Proofs.Conn.Intake
import PgClient.Proofs.Result.Guarded

namespace PgClient.Guarded

open Halt (proper caught)

/-! ### Messages of a session -/

def receiveNotice (body : Bytes) (conn : Conn) : Except Halt Conn := do
  let report ← report body
  return conn.record (.notice report)

def receiveFields (count : UInt16) (body : Bytes) (conn : Conn) : Except Halt Conn := do
  let fields ← fields count.toNat body
  if conn.describing then return conn.queue { status := .commandOk, fields }
  else return { conn with builder := some { fields } }

def receiveRow (columns : UInt16) (body : Bytes) (conn : Conn) : Except Halt Conn :=
  match conn.builder with
  | none => .error (.fault (.misplaced .dataRow .undescribedResult))
  | some builder => do
      let builder ← push builder columns body
      return { conn with builder := some builder }

def receiveError (body : Bytes) (conn : Conn) : Except Halt Conn := do
  let report ← report body
  return { conn.queue (.fatal report) with builder := none }

/-- Of no other message are bytes left that a session reads. -/
def handle (message : BackendMessage) (conn : Conn) : Except Halt Conn :=
  match message with
  | .rowDescription count body => receiveFields count body conn
  | .dataRow columns body => receiveRow columns body conn
  | .errorResponse body => receiveError body conn
  | .noticeResponse body => receiveNotice body conn
  | other => proper (conn.handle other)

def handleFrame (frame : Frame) (conn : Conn) : Except Halt Conn := do
  let message ← decode frame.first frame.body
  handle message conn

private theorem receiveNotice_eq (body : Bytes) (conn : Conn) :
    receiveNotice body conn = proper (conn.receiveNotice body) := by
  unfold receiveNotice Conn.receiveNotice
  rw [report_eq]
  cases Diagnostic.parse body with
  | error fault => rfl
  | ok report => rfl

private theorem receiveFields_eq (count : UInt16) (body : Bytes) (conn : Conn) :
    receiveFields count body conn = proper (conn.receiveFields count body) := by
  unfold receiveFields Conn.receiveFields
  rw [fields_eq]
  cases Field.readMany count.toNat body with
  | error fault => rfl
  | ok fields =>
      change (if conn.describing = true then (.ok (conn.queue { status := .commandOk, fields }) :
        Except Halt Conn) else _) = proper (if conn.describing = true then _ else _)
      by_cases describing : conn.describing = true
      · rw [if_pos describing, if_pos describing]
        rfl
      · rw [if_neg describing, if_neg describing]
        rfl

private theorem receiveRow_eq (columns : UInt16) (body : Bytes) (conn : Conn) :
    receiveRow columns body conn = proper (conn.receiveRow columns body) := by
  unfold receiveRow Conn.receiveRow
  cases conn.builder with
  | none => rfl
  | some builder =>
      dsimp only
      rw [push_eq]
      cases builder.push columns body with
      | error fault => rfl
      | ok builder => rfl

private theorem receiveError_eq (body : Bytes) (conn : Conn) :
    receiveError body conn = proper (conn.receiveError body) := by
  unfold receiveError Conn.receiveError
  rw [report_eq]
  cases Diagnostic.parse body with
  | error fault => rfl
  | ok report => rfl

private theorem handle_eq (message : BackendMessage) (conn : Conn) :
    handle message conn = proper (conn.handle message) := by
  cases message with
  | rowDescription count body => exact receiveFields_eq count body conn
  | dataRow columns body => exact receiveRow_eq columns body conn
  | errorResponse body => exact receiveError_eq body conn
  | noticeResponse body => exact receiveNotice_eq body conn
  | _ => rfl

private theorem handleFrame_eq (frame : Frame) (conn : Conn) :
    handleFrame frame conn = proper (conn.handleFrame frame) := by
  unfold handleFrame Conn.handleFrame
  rw [decode_eq]
  cases BackendMessage.decode frame.first frame.body with
  | error fault => rfl
  | ok message => exact handle_eq message conn

/-! ### Input of a session -/

def parse : Nat → Bytes → Conn → Except Halt (Except ProtocolFault Unit × Conn)
  | 0, _, _ => .error .unfinished
  | rounds + 1, input, conn => do
      match ← caught (frame input) with
      | .error fault => return (.error fault, { conn with inbox := input, broken := true })
      | .ok none => return (.ok (), { conn with inbox := input })
      | .ok (some (frame, rest)) =>
          Plain.less rest.length input.length
          match ← caught (handleFrame frame conn) with
          | .error fault => return (.error fault, { conn with inbox := rest, broken := true })
          | .ok conn => parse rounds rest conn

def consumeInput (conn : Conn) : Except Halt (Except Error Unit × Conn) :=
  if conn.isClosed then .ok (.error .connectionClosed, conn)
  else
    match conn.readAll with
    | (.error error, conn) => .ok (.error error, conn)
    | (.ok (), conn) => do
        match ← parse (conn.inbox.length + 1) conn.inbox conn with
        | (.error fault, conn) => return (.error (Error.ofProtocol fault), conn)
        | (.ok (), conn) =>
            match conn.flush with
            | (.error error, conn) => return (.error error, conn)
            | (.ok _, conn) => return (.ok (), conn)

/-- A frame is five bytes or more, so the rounds are enough. -/
theorem parse_eq {rounds : Nat} {input : Bytes} (enough : input.length < rounds) (conn : Conn) :
    parse rounds input conn = .ok (conn.parse input) := by
  induction rounds generalizing input conn with
  | zero => contradiction
  | succ rounds ih =>
      rw [parse, frame_eq, Halt.caught_proper]
      cases found : Frame.next input with
      | error fault =>
          rw [Conn.parse_of_fault found]
          rfl
      | ok next =>
          cases next with
          | none =>
              rw [Conn.parse_of_partial found]
              rfl
          | some next =>
              obtain ⟨frame, rest⟩ := next
              have shorter := Frame.next_length found
              simp only [Frame.headLength] at shorter
              change (Plain.less rest.length input.length >>= _) = _
              rw [Plain.less_ok (by omega)]
              change (caught (handleFrame frame conn) >>= _) = _
              rw [handleFrame_eq, Halt.caught_proper]
              cases taken : conn.handleFrame frame with
              | error fault =>
                  rw [Conn.parse_of_refused found taken]
                  rfl
              | ok next =>
                  rw [Conn.parse_of_taken found taken]
                  exact ih (by omega) next

theorem consumeInput_eq (conn : Conn) : consumeInput conn = .ok conn.consumeInput := by
  unfold consumeInput Conn.consumeInput
  by_cases closed : conn.isClosed = true
  · rw [if_pos closed, if_pos closed]
  · rw [if_neg closed, if_neg closed]
    obtain ⟨outcome, read⟩ := conn.readAll
    cases outcome with
    | error error => rfl
    | ok =>
        dsimp only
        rw [parse_eq (Nat.lt_succ_self _)]
        obtain ⟨outcome, parsed⟩ := read.parse read.inbox
        cases outcome with
        | error fault => rfl
        | ok =>
            change (match parsed.flush with | (.error error, conn) => _ | (.ok _, conn) => _) =
              Except.ok (match parsed.flush with | (.error error, conn) => _ | (.ok _, conn) => _)
            obtain ⟨outcome, flushed⟩ := parsed.flush
            cases outcome with
            | error error => rfl
            | ok pending => rfl

/-! ### The opening -/

def offersScram : Nat → Bytes → Except Halt Bool
  | 0, _ => .error .unfinished
  | rounds + 1, mechanisms =>
      if mechanisms.isEmpty then .ok false
      else do
        let (name, rest) ← text mechanisms
        Plain.less rest.length mechanisms.length
        if name.isEmpty then return false
        else
          let further ← offersScram rounds rest
          return name == Scram.mechanism || further

def awaitFrame (inbox : Bytes) (arrivals : List Arrival) : Except Halt Conn.Received := do
  match ← caught (frame inbox) with
  | .error fault => return ⟨.malformed fault, inbox, arrivals⟩
  | .ok (some (frame, rest)) => return ⟨.frame frame, rest, arrivals⟩
  | .ok none =>
      match arrivals with
      | [] => return ⟨.silent, inbox, []⟩
      | .blocked :: later => awaitFrame inbox later
      | .failed fault :: later => return ⟨.failed fault, inbox, later⟩
      | .data [] :: later => return ⟨.failed .serverClosed, inbox, later⟩
      | .data bytes :: later => awaitFrame (inbox ++ bytes) later

def authenticate (config : Config) (nonces : Nat → String) (drawn : Nat)
    (exchange : Option Scram.Client) (request : AuthenticationRequest) (conn : Conn) :
    Except Halt (Conn.Progress × Conn) :=
  match request with
  | .sasl mechanisms => do
      match ← caught (offersScram (mechanisms.length + 1) mechanisms) with
      | .error fault => return (.ofError (Error.ofProtocol fault), conn)
      | .ok false => return (Conn.unsupported ("sasl without " ++ Scram.mechanism), conn)
      | .ok true =>
          let client : Scram.Client := { password := config.password, nonce := nonces drawn }
          return conn.reply (.saslInitialResponse Scram.mechanism client.first)
            (.authenticating (drawn + 1) (some client))
  | other => .ok (Conn.authenticate config nonces drawn exchange other conn)

def refused (body : Bytes) : Except Halt Conn.Progress := do
  match ← caught (report body) with
  | .error fault => return .ofError (Error.ofProtocol fault)
  | .ok report => return .ofError (Error.ofDatabase report)

def noticed (body : Bytes) (stage : Conn.Stage) (conn : Conn) :
    Except Halt (Conn.Progress × Conn) := do
  match ← caught (receiveNotice body conn) with
  | .error fault => return (.ofError (Error.ofProtocol fault), conn)
  | .ok conn => return (.next stage, conn)

def advance (config : Config) (nonces : Nat → String) (stage : Conn.Stage)
    (message : BackendMessage) (conn : Conn) : Except Halt (Conn.Progress × Conn) :=
  match stage, message with
  | .authenticating drawn exchange, .authentication request =>
      authenticate config nonces drawn exchange request conn
  | _, .errorResponse body => do return (← refused body, conn)
  | _, .noticeResponse body => noticed body stage conn
  | _, other => .ok (Conn.advance config nonces stage other conn)

def converse (config : Config) (nonces : Nat → String) :
    Nat → Bytes → List Arrival → Conn.Stage → Conn → Except Halt (Conn.Opening × Conn)
  | 0, _, _, _, _ => .error .unfinished
  | rounds + 1, inbox, arrivals, stage, conn => do
      match ← awaitFrame inbox arrivals with
      | ⟨.silent, inbox, arrivals⟩ => return (.silent, conn.keepInput inbox arrivals)
      | ⟨.failed fault, inbox, arrivals⟩ =>
          return (.ofError (Error.ofIo fault), (conn.keepInput inbox arrivals).breakWith fault)
      | ⟨.malformed fault, inbox, arrivals⟩ =>
          return (.ofError (Error.ofProtocol fault),
            { conn.keepInput inbox arrivals with broken := true })
      | ⟨.frame frame, rest, later⟩ =>
          Plain.less (Conn.pending rest later) (Conn.pending inbox arrivals)
          match ← caught (decode frame.first frame.body) with
          | .error fault =>
              return (.ofError (Error.ofProtocol fault), conn.keepInput rest later)
          | .ok message =>
              match ← advance config nonces stage message conn with
              | (.failed failure, conn) => return (.failed failure, conn.keepInput rest later)
              | (.established, conn) => return (.established, conn.keepInput rest later)
              | (.next stage, conn) => converse config nonces rounds rest later stage conn

def startup (config : Config) (nonces : Nat → String) (conn : Conn) :
    Except Halt (Conn.Opening × Conn) :=
  match (Conn.startupMessage config).append conn.outbox with
  | (.error defect, outbox) => .ok (.failed (.defect defect), { conn with outbox })
  | (.ok (), outbox) =>
      match { conn with outbox }.flushFully with
      | (.error error, conn) => .ok (.ofError error, conn)
      | (.ok (), conn) =>
          converse config nonces (Conn.pending conn.inbox conn.link.arrivals + 1) conn.inbox
            conn.link.arrivals (.authenticating 0 none) conn

def connect (config : Config) (nonces : Nat → String)
    (dial : Address → Except IoFault Link) : Except Halt (Conn.Opening × Conn) :=
  match dial config.address with
  | .error fault => .ok (.ofError (Error.ofIo fault), { released := true })
  | .ok link =>
      if config.connectTimeout = some 0 then
        .ok (.ofError (Error.ofIo .zeroTimeout), { link, released := true })
      else do
        match ← startup config nonces { link } with
        | (.failed failure, conn) => return (.failed failure, conn.finish)
        | other => return other

variable {config : Config} {nonces : Nat → String}

private theorem offersScram_eq {rounds : Nat} {mechanisms : Bytes}
    (enough : mechanisms.length < rounds) :
    offersScram rounds mechanisms = proper (Conn.offersScram mechanisms) := by
  induction rounds generalizing mechanisms with
  | zero => contradiction
  | succ rounds ih =>
      rw [offersScram, Conn.offersScram]
      by_cases isEmpty : mechanisms.isEmpty = true
      · rw [if_pos isEmpty, if_pos isEmpty]
        rfl
      · rw [if_neg isEmpty, if_neg isEmpty, text_eq]
        split
        · rename_i fault read
          rw [read]
          rfl
        · rename_i name rest read
          dsimp only
          rw [read]
          have shorter := Reader.text_length read
          change (Plain.less rest.length mechanisms.length >>= _) = _
          rw [Plain.less_ok shorter]
          change (if name.isEmpty = true then (.ok false : Except Halt Bool)
            else offersScram rounds rest >>= _) = _
          by_cases isLast : name.isEmpty = true
          · rw [if_pos isLast, if_pos isLast]
            rfl
          · rw [if_neg isLast, if_neg isLast, ih (by omega)]
            cases Conn.offersScram rest with
            | error fault => rfl
            | ok further => rfl

private theorem awaitFrame_eq (inbox : Bytes) (arrivals : List Arrival) :
    awaitFrame inbox arrivals = .ok (Conn.awaitFrame inbox arrivals) := by
  induction arrivals generalizing inbox with
  | nil =>
      unfold awaitFrame Conn.awaitFrame
      rw [frame_eq, Halt.caught_proper]
      cases Frame.next inbox with
      | error fault => rfl
      | ok next =>
          cases next with
          | none => rfl
          | some next => rfl
  | cons arrival arrivals ih =>
      unfold awaitFrame Conn.awaitFrame
      rw [frame_eq, Halt.caught_proper]
      cases Frame.next inbox with
      | error fault => rfl
      | ok next =>
          cases next with
          | some next => rfl
          | none =>
              cases arrival with
              | blocked => exact ih inbox
              | failed fault => rfl
              | data bytes =>
                  cases bytes with
                  | nil => rfl
                  | cons first rest => exact ih (inbox ++ first :: rest)

private theorem authenticate_eq (drawn : Nat) (exchange : Option Scram.Client)
    (request : AuthenticationRequest) (conn : Conn) :
    authenticate config nonces drawn exchange request conn =
      .ok (Conn.authenticate config nonces drawn exchange request conn) := by
  cases request with
  | sasl mechanisms =>
      simp only [authenticate, Conn.authenticate]
      rw [offersScram_eq (Nat.lt_succ_self _), Halt.caught_proper]
      cases Conn.offersScram mechanisms with
      | error fault => rfl
      | ok offered =>
          cases offered with
          | false => rfl
          | true => rfl
  | _ => rfl

private theorem refused_eq (body : Bytes) : refused body = .ok (Conn.refused body) := by
  unfold refused Conn.refused
  rw [report_eq, Halt.caught_proper]
  cases Diagnostic.parse body with
  | error fault => rfl
  | ok report => rfl

private theorem noticed_eq (body : Bytes) (stage : Conn.Stage) (conn : Conn) :
    noticed body stage conn = .ok (conn.noticed body stage) := by
  unfold noticed Conn.noticed
  rw [receiveNotice_eq, Halt.caught_proper]
  cases conn.receiveNotice body with
  | error fault => rfl
  | ok next => rfl

private theorem advance_eq (stage : Conn.Stage) (message : BackendMessage) (conn : Conn) :
    advance config nonces stage message conn =
      .ok (Conn.advance config nonces stage message conn) := by
  cases stage with
  | authenticating drawn exchange =>
      cases message with
      | authentication request => exact authenticate_eq drawn exchange request conn
      | errorResponse body =>
          simp only [advance, refused_eq]
          rfl
      | noticeResponse body => exact noticed_eq body _ conn
      | _ => rfl
  | settling =>
      cases message with
      | errorResponse body =>
          simp only [advance, refused_eq]
          rfl
      | noticeResponse body => exact noticed_eq body _ conn
      | _ => rfl

/-- Each message takes bytes off what is still to come. -/
theorem converse_eq {rounds : Nat} {inbox : Bytes} {arrivals : List Arrival}
    (enough : Conn.pending inbox arrivals < rounds) (stage : Conn.Stage) (conn : Conn) :
    converse config nonces rounds inbox arrivals stage conn =
      .ok (Conn.converse config nonces inbox arrivals stage conn) := by
  induction rounds generalizing inbox arrivals stage conn with
  | zero => contradiction
  | succ rounds ih =>
      rw [converse, Conn.converse, awaitFrame_eq]
      split
      · rename_i received
        rw [received]
        rfl
      · rename_i received
        rw [received]
        rfl
      · rename_i received
        rw [received]
        rfl
      · rename_i frame rest later received
        have shorter := Conn.awaitFrame_pending received
        dsimp only
        rw [received]
        change (Plain.less (Conn.pending rest later) (Conn.pending inbox arrivals) >>= _) = _
        rw [Plain.less_ok shorter]
        change (caught (decode frame.first frame.body) >>= _) = _
        rw [decode_eq, Halt.caught_proper]
        cases BackendMessage.decode frame.first frame.body with
        | error fault => rfl
        | ok message =>
            change (advance config nonces stage message conn >>= _) = _
            rw [advance_eq]
            dsimp only
            have left : Conn.pending rest later < rounds := by omega
            obtain ⟨progress, next⟩ := Conn.advance config nonces stage message conn
            cases progress with
            | failed failure => rfl
            | established => rfl
            | next stage => exact ih left stage next

private theorem startup_eq (conn : Conn) :
    startup config nonces conn = .ok (conn.startup config nonces) := by
  unfold startup Conn.startup
  obtain ⟨outcome, outbox⟩ := (Conn.startupMessage config).append conn.outbox
  cases outcome with
  | error defect => rfl
  | ok =>
      dsimp only
      generalize ({ conn with outbox } : Conn) = started
      obtain ⟨outcome, flushed⟩ := started.flushFully
      cases outcome with
      | error error => rfl
      | ok => exact converse_eq (Nat.lt_succ_self _) _ flushed

theorem connect_eq (dial : Address → Except IoFault Link) :
    connect config nonces dial = .ok (Conn.connect config nonces dial) := by
  unfold connect Conn.connect
  cases dial config.address with
  | error fault => rfl
  | ok link =>
      dsimp only
      by_cases noTime : config.connectTimeout = some 0
      · rw [if_pos noTime, if_pos noTime]
      · rw [if_neg noTime, if_neg noTime, startup_eq]
        obtain ⟨opening, conn⟩ := Conn.startup config nonces { link }
        cases opening with
        | established => rfl
        | failed failure => rfl
        | silent => rfl

/-! ### A whole session -/

def perform (conn : Conn) : Deed → Except Halt Conn
  | .consume => do return (← consumeInput conn).2
  | other => .ok (conn.perform other)

def course : List Deed → Conn → Except Halt Conn
  | [], conn => .ok conn
  | deed :: deeds, conn => do course deeds (← perform conn deed)

private theorem perform_eq (conn : Conn) (deed : Deed) :
    perform conn deed = .ok (conn.perform deed) := by
  cases deed with
  | consume =>
      simp only [perform, consumeInput_eq]
      rfl
  | _ => rfl

theorem course_eq (deeds : List Deed) (conn : Conn) :
    course deeds conn = .ok (conn.course deeds) := by
  induction deeds generalizing conn with
  | nil => rfl
  | cons deed deeds ih =>
      rw [course, perform_eq]
      exact ih (conn.perform deed)

end PgClient.Guarded
