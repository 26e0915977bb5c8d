/-
An exchange between the client and a server that knows the password.

The server is written out here from the other side: it keeps a stored key and a server key
for a password, reads the two messages of the client, and makes what both are proved over
from the bytes that have gone back and forth. If the password it was given is the one that
the client has, each of them believes the other. A password is prepared before a server
stretches it, which the client does not do, so this holds for a password that its
preparation leaves as it is.

The server knows who is there from the opening of the session, so it does not look at the
name in the first message.
-/

import PgClient.Proofs.Conn.Proven
import PgClient.Proofs.Text.Base64
import PgClient.Proofs.Text.Decimal

namespace PgClient.Scram

variable {primitives : Primitives} {client answered : Client} {data response : Bytes}
  {attributes all : Attributes} {kind mark : Char} {part text : List Char}
  {parts : List (List Char)}

/-! ### The server -/

/-- What a server keeps of a password. -/
structure Verifier where
  salt : Bytes
  iterations : Nat
  storedKey : Bytes
  serverKey : Bytes

/-- The keys come from the password alone; the client's definitions have no part in them. -/
def Verifier.ofPassword (primitives : Primitives) (password salt : Bytes) (iterations : Nat) :
    Verifier :=
  let saltedPassword := primitives.stretch password salt iterations
  { salt
    iterations
    storedKey := primitives.hash (primitives.mac saltedPassword (Utf8.encode "Client Key"))
    serverKey := primitives.mac saltedPassword (Utf8.encode "Server Key") }

def unbound : String := "n,,"

/-- What a server holds of an exchange between its messages. -/
structure Pending where
  clientFirstBare : Bytes
  nonce : String
  /-- The first message of the server. -/
  first : Bytes

def Verifier.firstText (verifier : Verifier) (nonce : String) : String :=
  "r=" ++ nonce ++ ",s=" ++ Base64.text verifier.salt ++ ",i=" ++ verifier.iterations.repr

def Verifier.hear (verifier : Verifier) (extension : String) (data : Bytes) : Option Pending :=
  match Utf8.decode data with
  | .error _ => none
  | .ok text =>
      match Split.after? unbound.toList text.toList with
      | none => none
      | some bare =>
          match Split.every ',' bare with
          | ('n' :: '=' :: _) :: ('r' :: '=' :: clientNonce) :: _ =>
              let nonce := String.ofList clientNonce ++ extension
              some
                { clientFirstBare := Utf8.encode (String.ofList bare)
                  nonce
                  first := Utf8.encode (verifier.firstText nonce) }
          | _ => none

def cutLast (mark : Char) (text : List Char) : Option (List Char × List Char) :=
  (Split.once mark text.reverse).map fun parts => (parts.2.reverse, parts.1.reverse)

structure Final where
  withoutProof : Bytes
  proof : Bytes

/-- The last message repeats the head of the first one and the whole nonce. -/
def Pending.accept (pending : Pending) (front proof : List Char) : Option Final :=
  match Split.every ',' front with
  | ('c' :: '=' :: channel) :: ('r' :: '=' :: nonce) :: _ => do
      let head ← (Base64.decode (Utf8.encode (String.ofList channel))).toOption
      let proof ← (Base64.decode (Utf8.encode (String.ofList proof))).toOption
      if head = Utf8.encode unbound ∧ nonce = pending.nonce.toList then
        some { withoutProof := Utf8.encode (String.ofList front), proof }
      else none
  | _ => none

def Pending.read (pending : Pending) (data : Bytes) : Option Final :=
  match Utf8.decode data with
  | .error _ => none
  | .ok text =>
      match cutLast ',' text.toList with
      | some (front, 'p' :: '=' :: proof) => pending.accept front proof
      | _ => none

/-- The messages that the server has seen and sent, which the proofs are made over. -/
def Pending.authMessage (pending : Pending) (final : Final) : Bytes :=
  pending.clientFirstBare ++ Utf8.encode "," ++ pending.first ++ Utf8.encode "," ++
    final.withoutProof

/-- The proof hides a key that the server knows the hash of. -/
def Verifier.Admits (primitives : Primitives) (verifier : Verifier) (authMessage proof : Bytes) :
    Prop :=
  primitives.hash (Hmac.xor proof (primitives.mac verifier.storedKey authMessage)) =
    verifier.storedKey

instance (primitives : Primitives) (verifier : Verifier) (authMessage proof : Bytes) :
    Decidable (verifier.Admits primitives authMessage proof) :=
  inferInstanceAs (Decidable (_ = _))

def Verifier.signature (primitives : Primitives) (verifier : Verifier) (authMessage : Bytes) :
    Bytes :=
  primitives.mac verifier.serverKey authMessage

def vouch (signature : Bytes) : Bytes :=
  Utf8.encode ("v=" ++ Base64.text signature)

/-- What an exchange has come to when the client has answered and was understood. -/
structure Meeting where
  pending : Pending
  answered : Client
  final : Final

def Meeting.authMessage (meeting : Meeting) : Bytes :=
  meeting.pending.authMessage meeting.final

def meet (primitives : Primitives) (verifier : Verifier) (extension : String) (client : Client) :
    Option Meeting :=
  match verifier.hear extension client.first with
  | none => none
  | some pending =>
      match client.answer primitives pending.first with
      | .error _ => none
      | .ok (response, answered) =>
          (pending.read response).map fun final => { pending, answered, final }

/-! ### Proof and signature -/

private theorem xor_xor {left right : Bytes} (same : left.length = right.length) :
    Hmac.xor (Hmac.xor left right) right = left := by
  induction left generalizing right with
  | nil => rfl
  | cons first left ih =>
      cases right with
      | nil => cases same
      | cons second right =>
          have others := ih (Nat.succ.inj same)
          unfold Hmac.xor at others ⊢
          rw [List.zipWith_cons_cons, List.zipWith_cons_cons, others, UInt8.xor_assoc,
            UInt8.xor_self, UInt8.xor_zero]

/-- The signature in the proof is the one that the server makes, and takes it off the key. -/
theorem Verifier.admits_proof (password salt : Bytes) (iterations : Nat) (authMessage : Bytes) :
    (Verifier.ofPassword primitives password salt iterations).Admits primitives authMessage
      (proof primitives (primitives.stretch password salt iterations) authMessage) := by
  have same : (clientKey primitives (primitives.stretch password salt iterations)).length =
      (primitives.mac (Scram.storedKey primitives (primitives.stretch password salt iterations))
        authMessage).length :=
    (primitives.mac_length _ _).trans (primitives.mac_length _ _).symm
  change primitives.hash (Hmac.xor (Hmac.xor _ _) _) = _
  exact congrArg primitives.hash (xor_xor same)

/-- A last message is let pass exactly if it carries the signature of what was agreed on. -/
theorem Client.verify_iff (client : Client) (data : Bytes) :
    client.verify primitives data = .ok () ↔
      ∃ agreement, client.agreement = some agreement ∧
        signature? data = some (primitives.mac
          (primitives.mac agreement.saltedPassword (Utf8.encode "Server Key"))
          agreement.authMessage) := by
  constructor
  · exact verify_ok
  · rintro ⟨agreement, agreed, signed⟩
    exact verify_of_signed agreed signed

private theorem signature?_vouch (signature : Bytes) :
    signature? (vouch signature) = some signature := by
  have spelled : ("v=" ++ Base64.text signature).toList =
      'v' :: '=' :: (Base64.text signature).toList := String.toList_append
  unfold signature? vouch
  rw [Utf8.decode_encode]
  dsimp only
  rw [spelled]
  change (Base64.decode _).toOption = _
  rw [Base64.trimEnd_text, Base64.decode_text]
  rfl

/-! ### Reading each other's messages -/

private theorem cutLast_append (before : List Char) {after : List Char} (absent : mark ∉ after) :
    cutLast mark (before ++ mark :: after) = some (before, after) := by
  have turned : (before ++ mark :: after).reverse = after.reverse ++ mark :: before.reverse := by
    rw [List.reverse_append, List.reverse_cons, List.append_assoc, List.singleton_append]
  rw [cutLast, turned, Split.once_append (mt List.mem_reverse.mp absent), Option.map_some,
    List.reverse_reverse, List.reverse_reverse]

/-- What the client says first is understood, and the server goes on from its nonce. -/
theorem Verifier.hear_first (verifier : Verifier) (extension : String)
    (absent : ',' ∉ client.nonce.toList) :
    verifier.hear extension client.first =
      some
        { clientFirstBare := client.firstBare
          nonce := client.nonce ++ extension
          first := Utf8.encode (verifier.firstText (client.nonce ++ extension)) } := by
  have spelled : client.first = Utf8.encode (unbound ++ ("n=,r=" ++ client.nonce)) := by
    rw [Client.first, Client.firstBare, Utf8.encode_append]
    rfl
  have bare : ("n=,r=" ++ client.nonce).toList =
      "n=".toList ++ ',' :: ("r=".toList ++ client.nonce.toList) := String.toList_append
  have absentLater : ',' ∉ "r=".toList ++ client.nonce.toList := by
    simpa using absent
  rw [hear, spelled, Utf8.decode_encode]
  dsimp only
  rw [String.toList_append, Split.after?_append]
  dsimp only
  have cut : Split.every ',' ("n=,r=" ++ client.nonce).toList =
      [['n', '='], 'r' :: '=' :: client.nonce.toList] := by
    rw [bare, Split.every_append (by decide), Split.every_of_absent absentLater]
    rfl
  rw [cut]
  change some (Pending.mk _ (String.ofList client.nonce.toList ++ extension) _) = _
  rw [String.ofList_toList, String.ofList_toList]
  rfl

private theorem Verifier.every_firstText {verifier : Verifier} {nonce : String}
    (absent : ',' ∉ nonce.toList) :
    Split.every ',' (verifier.firstText nonce).toList =
      ['r' :: '=' :: nonce.toList, 's' :: '=' :: (Base64.text verifier.salt).toList,
        'i' :: '=' :: verifier.iterations.repr.toList] := by
  have spelled : (verifier.firstText nonce).toList =
      ('r' :: '=' :: nonce.toList) ++ ',' ::
        (('s' :: '=' :: (Base64.text verifier.salt).toList) ++ ',' ::
          ('i' :: '=' :: verifier.iterations.repr.toList)) := by
    simp [firstText]
  have ofNonce : ',' ∉ 'r' :: '=' :: nonce.toList := by
    simpa using absent
  have ofSalt : ',' ∉ 's' :: '=' :: (Base64.text verifier.salt).toList := by
    simp only [List.mem_cons, not_or]
    exact ⟨by decide, by decide, fun member => (Base64.plain_of_mem_text member).1 rfl⟩
  have ofIterations : ',' ∉ 'i' :: '=' :: verifier.iterations.repr.toList := by
    simp only [List.mem_cons, not_or, Nat.toList_repr]
    refine ⟨by decide, by decide, fun member => ?_⟩
    exact absurd (Nat.isDigit_of_mem_toDigits (by decide) (by decide) member) (by decide)
  rw [spelled, Split.every_append ofNonce, Split.every_append ofSalt,
    Split.every_of_absent ofIterations]

private theorem ServerFirst.read_firstText {verifier : Verifier} {nonce : String}
    (fits : verifier.iterations < 4294967296) (absent : ',' ∉ nonce.toList) :
    ServerFirst.read (verifier.firstText nonce).toList =
      .ok ⟨nonce.toList, verifier.salt, verifier.iterations⟩ := by
  have took : Attributes.takeAll {} (Split.every ',' (verifier.firstText nonce).toList) =
      .ok ⟨some nonce.toList, some verifier.salt, some verifier.iterations⟩ := by
    rw [Verifier.every_firstText absent, Attributes.takeAll, Attributes.take]
    dsimp only
    rw [Attributes.takeAll, Attributes.take]
    dsimp only
    rw [Base64.decode_text]
    dsimp only
    rw [Attributes.takeAll, Attributes.take]
    dsimp only
    rw [Integer.readNat_repr fits]
    rfl
  rw [read, took]

def finalText (nonce : String) (proof : Bytes) : String :=
  "c=biws,r=" ++ nonce ++ ",p=" ++ Base64.text proof

/-- The client accepts a first message that goes on from its nonce. -/
theorem Client.answer_firstText {verifier : Verifier} {extension : String}
    (fits : verifier.iterations < 4294967296) (absent : ',' ∉ (client.nonce ++ extension).toList) :
    let nonce := client.nonce ++ extension
    let data := Utf8.encode (verifier.firstText nonce)
    let saltedPassword :=
      primitives.stretch (Utf8.encode client.password) verifier.salt verifier.iterations
    let authMessage := authMessage client.firstBare data (finalWithoutProof nonce.toList)
    client.answer primitives data =
      .ok (Utf8.encode (finalText nonce (proof primitives saltedPassword authMessage)),
        { client with agreement := some { saltedPassword, authMessage } }) := by
  dsimp only
  have follows : (Split.after? client.nonce.toList (client.nonce ++ extension).toList).isNone =
      false := by
    rw [String.toList_append, Split.after?_append]
    rfl
  rw [answer, Utf8.decode_encode]
  dsimp only
  rw [ServerFirst.read_firstText fits absent]
  dsimp only
  rw [if_neg (by rw [follows]; decide)]
  rw [finalText, Utf8.encode_append, Utf8.encode_append, Base64.utf8_text, List.append_assoc,
    finalWithoutProof, String.ofList_toList]

/-- The server understands the last message of the client. -/
theorem Pending.read_finalText {pending : Pending} (absent : ',' ∉ pending.nonce.toList)
    (proof : Bytes) :
    pending.read (Utf8.encode (finalText pending.nonce proof)) =
      some { withoutProof := finalWithoutProof pending.nonce.toList, proof } := by
  have spelled : (finalText pending.nonce proof).toList =
      ("c=biws,r=" ++ pending.nonce).toList ++ ',' ::
        ('p' :: '=' :: (Base64.text proof).toList) := by
    simp [finalText]
  have front : ("c=biws,r=" ++ pending.nonce).toList =
      "c=biws".toList ++ ',' :: ('r' :: '=' :: pending.nonce.toList) := by
    simp
  have ofProof : ',' ∉ 'p' :: '=' :: (Base64.text proof).toList := by
    simp only [List.mem_cons, not_or]
    exact ⟨by decide, by decide, fun member => (Base64.plain_of_mem_text member).1 rfl⟩
  have ofNonce : ',' ∉ 'r' :: '=' :: pending.nonce.toList := by
    simpa using absent
  have cut : Split.every ',' ("c=biws,r=" ++ pending.nonce).toList =
      ['c' :: '=' :: "biws".toList, 'r' :: '=' :: pending.nonce.toList] := by
    rw [front, Split.every_append (by decide), Split.every_of_absent ofNonce]
    rfl
  have written : Utf8.encode (String.ofList "biws".toList) =
      Base64.encode (Utf8.encode unbound) := by
    decide +kernel
  rw [read, Utf8.decode_encode]
  dsimp only
  rw [spelled, cutLast_append _ ofProof]
  change pending.accept _ _ = _
  unfold accept
  rw [cut]
  change (Base64.decode _).toOption.bind (fun head => (Base64.decode _).toOption.bind _) = _
  rw [written, Base64.decode_encode, Base64.decode_text, finalWithoutProof, String.ofList_toList,
    String.ofList_toList]
  exact if_pos ⟨rfl, rfl⟩

/-! ### First messages that cannot be answered -/

def valueOf (kind : Char) : List Char → Option (List Char)
  | letter :: '=' :: value => if letter = kind then some value else none
  | _ => none

def lastOf (kind : Char) : List (List Char) → Option (List Char)
  | [] => none
  | part :: rest => (lastOf kind rest).or (valueOf kind part)

structure Attributes.Sets (nonce salt iterations : Option (List Char))
    (before after : Attributes) : Prop where
  nonce : after.nonce = nonce.or before.nonce
  salt : after.salt.isSome = (salt.isSome || before.salt.isSome)
  iterations : after.iterations.isSome = (iterations.isSome || before.iterations.isSome)

private theorem Attributes.take_sets (taken : attributes.take part = .ok all) :
    Sets (valueOf 'r' part) (valueOf 's' part) (valueOf 'i' part) attributes all := by
  unfold take at taken
  split at taken
  · cases taken
    exact ⟨rfl, rfl, rfl⟩
  · split at taken
    · cases taken
    · cases taken
      exact ⟨rfl, rfl, rfl⟩
  · split at taken
    · cases taken
    · cases taken
      exact ⟨rfl, rfl, rfl⟩
  · rename_i notNonce notSalt notIterations
    cases taken
    have nothing (kind : Char) (ordinary : ∀ value, part ≠ kind :: '=' :: value) :
        valueOf kind part = none := by
      unfold valueOf
      split
      · rename_i letter value
        refine if_neg fun same => ?_
        subst same
        exact ordinary value rfl
      · rfl
    rw [nothing 'r' notNonce, nothing 's' notSalt, nothing 'i' notIterations]
    exact ⟨rfl, rfl, rfl⟩

private theorem Attributes.takeAll_sets (taken : attributes.takeAll parts = .ok all) :
    Sets (lastOf 'r' parts) (lastOf 's' parts) (lastOf 'i' parts) attributes all := by
  induction parts generalizing attributes with
  | nil =>
      cases taken
      exact ⟨rfl, rfl, rfl⟩
  | cons part parts ih =>
      rw [takeAll] at taken
      split at taken
      · cases taken
      · rename_i next first
        have here := take_sets first
        have later := ih taken
        refine ⟨?_, ?_, ?_⟩
        · rw [later.nonce, here.nonce, lastOf, Option.or_assoc]
        · rw [later.salt, here.salt, lastOf, Option.isSome_or, Bool.or_assoc]
        · rw [later.iterations, here.iterations, lastOf, Option.isSome_or, Bool.or_assoc]

def Unfit (nonce : String) (data : Bytes) : Prop :=
  ∀ text, Utf8.decode data = .ok text →
    let parts := Split.every ',' text.toList
    lastOf 'r' parts = none ∨ lastOf 's' parts = none ∨ lastOf 'i' parts = none ∨
      ∃ value, lastOf 'r' parts = some value ∧ ¬nonce.toList <+: value

/-- What is read has all three parts. -/
theorem ServerFirst.read_ok {serverFirst : ServerFirst}
    (read : ServerFirst.read text = .ok serverFirst) :
    lastOf 'r' (Split.every ',' text) = some serverFirst.nonce ∧
      (lastOf 's' (Split.every ',' text)).isSome ∧
      (lastOf 'i' (Split.every ',' text)).isSome := by
  unfold ServerFirst.read at read
  split at read
  · cases read
  · rename_i nonce salt iterations taken
    cases read
    have sets := Attributes.takeAll_sets taken
    have ofNonce := sets.nonce
    have ofSalt := sets.salt
    have ofIterations := sets.iterations
    rw [Option.or_none] at ofNonce
    rw [Option.isSome_none, Bool.or_false] at ofSalt ofIterations
    exact ⟨ofNonce.symm, ofSalt.symm, ofIterations.symm⟩
  · cases read

private theorem Client.answer_of_unfit (primitives : Primitives) (unfit : Unfit client.nonce data) :
    ∃ error, client.answer primitives data = .error error := by
  unfold answer
  split
  · exact ⟨_, rfl⟩
  · rename_i text decoded
    split
    · exact ⟨_, rfl⟩
    · rename_i serverFirst read
      obtain ⟨ofNonce, ofSalt, ofIterations⟩ := ServerFirst.read_ok read
      rcases unfit text decoded with lacks | lacks | lacks | ⟨value, same, foreign⟩
      · rw [lacks] at ofNonce
        cases ofNonce
      · rw [lacks] at ofSalt
        cases ofSalt
      · rw [lacks] at ofIterations
        cases ofIterations
      · rw [ofNonce] at same
        cases same
        have missing : Split.after? client.nonce.toList serverFirst.nonce = none := by
          cases found : Split.after? client.nonce.toList serverFirst.nonce with
          | none => rfl
          | some rest =>
              exact absurd ⟨rest, (Split.after?_eq_some found).symm⟩ foreign
        rw [missing]
        exact ⟨_, rfl⟩

/-- Nothing is sent, and nothing of the connection changes. -/
theorem authenticate_of_unfit (config : Config) (nonces : Nat → String) (drawn : Nat)
    (conn : Conn) (unfit : Unfit client.nonce data) :
    ∃ error, Conn.authenticate config nonces drawn (some client) (.saslContinue data) conn =
      (.ofError error, conn) := by
  obtain ⟨error, failed⟩ := client.answer_of_unfit sha256 unfit
  unfold Conn.authenticate
  dsimp only
  rw [failed]
  exact ⟨error, rfl⟩

/-! ### The whole exchange -/

/-- What an exchange comes to with a server that was given the same password. -/
structure Meeting.Convinces (primitives : Primitives) (verifier : Verifier) (meeting : Meeting) :
    Prop where
  admitted : verifier.Admits primitives meeting.authMessage meeting.final.proof
  vouched : meeting.answered.verify primitives
    (vouch (verifier.signature primitives meeting.authMessage)) = .ok ()
  only : ∀ data, meeting.answered.verify primitives data = .ok () →
    signature? data = some (verifier.signature primitives meeting.authMessage)

private theorem meet_convinces (primitives : Primitives) {password nonce extension : String}
    (salt : Bytes) {iterations : Nat} (fits : iterations < 4294967296)
    (whole : ',' ∉ (nonce ++ extension).toList) :
    let verifier := Verifier.ofPassword primitives (Utf8.encode password) salt iterations
    ∃ meeting, meet primitives verifier extension { password, nonce } = some meeting ∧
      meeting.Convinces primitives verifier := by
  intro verifier
  have absent : ',' ∉ nonce.toList := by
    rw [String.toList_append, List.mem_append, not_or] at whole
    exact whole.1
  let client : Client := { password, nonce }
  let pending : Pending :=
    { clientFirstBare := client.firstBare
      nonce := nonce ++ extension
      first := Utf8.encode (verifier.firstText (nonce ++ extension)) }
  let saltedPassword := primitives.stretch (Utf8.encode password) salt iterations
  let authMessage := authMessage client.firstBare pending.first
    (finalWithoutProof pending.nonce.toList)
  let final : Final :=
    { withoutProof := finalWithoutProof pending.nonce.toList
      proof := proof primitives saltedPassword authMessage }
  let answered : Client := { client with agreement := some { saltedPassword, authMessage } }
  have heard : verifier.hear extension client.first = some pending :=
    verifier.hear_first extension absent
  have accepted : client.answer primitives pending.first =
      .ok (Utf8.encode (finalText pending.nonce final.proof), answered) :=
    Client.answer_firstText fits whole
  have understood : pending.read (Utf8.encode (finalText pending.nonce final.proof)) =
      some final :=
    Pending.read_finalText whole final.proof
  -- Both sides have put the same bytes together.
  have agreed : pending.authMessage final = authMessage := by
    simp only [Pending.authMessage, List.append_assoc]
    rfl
  have met : meet primitives verifier extension client = some ⟨pending, answered, final⟩ := by
    unfold meet
    rw [heard]
    dsimp only
    rw [accepted]
    dsimp only
    rw [understood]
    rfl
  have signed (data : Bytes) : answered.verify primitives data = .ok () ↔
      signature? data = some (verifier.signature primitives authMessage) := by
    rw [answered.verify_iff data]
    constructor
    · rintro ⟨agreement, same, signed⟩
      cases same
      exact signed
    · intro signed
      exact ⟨_, rfl, signed⟩
  refine ⟨⟨pending, answered, final⟩, met, ?_, ?_, ?_⟩
  · change verifier.Admits primitives (pending.authMessage final) _
    rw [agreed]
    exact Verifier.admits_proof (Utf8.encode password) salt iterations authMessage
  · change answered.verify primitives
      (vouch (verifier.signature primitives (pending.authMessage final))) = .ok ()
    rw [agreed]
    exact (signed _).mpr (signature?_vouch _)
  · intro data verified
    change signature? data = some (verifier.signature primitives (pending.authMessage final))
    rw [agreed]
    exact (signed data).mp verified

/-- The client and a server that was given the same password prove to each other that they
know it. The client lets no last message pass that is signed in another way, and neither a
proof nor anything else comes of a first message that is unfit. -/
theorem exchange_agrees (primitives : Primitives) (prepare : String → String)
    (password nonce extension : String) (salt : Bytes) (iterations : Nat)
    (prepared : prepare password = password) (fits : iterations < 4294967296)
    (whole : ',' ∉ (nonce ++ extension).toList) :
    let verifier :=
      Verifier.ofPassword primitives (Utf8.encode (prepare password)) salt iterations
    (∃ meeting, meet primitives verifier extension { password, nonce } = some meeting ∧
      meeting.Convinces primitives verifier) ∧
    (∀ (client : Client) data, client.verify primitives data = .ok () →
      ∃ agreement, client.agreement = some agreement ∧
        signature? data = some (primitives.mac
          (primitives.mac agreement.saltedPassword (Utf8.encode "Server Key"))
          agreement.authMessage)) ∧
    ∀ (client : Client) data, Unfit client.nonce data →
      (∃ error, client.answer primitives data = .error error) ∧
      ∀ config nonces drawn conn, ∃ error,
        Conn.authenticate config nonces drawn (some client) (.saslContinue data) conn =
          (.ofError error, conn) := by
  refine ⟨?_, fun client data => (client.verify_iff data).mp, fun client data unfit => ⟨?_, ?_⟩⟩
  · rw [prepared]
    exact meet_convinces primitives salt fits whole
  · exact client.answer_of_unfit primitives unfit
  · exact fun config nonces drawn conn => authenticate_of_unfit config nonces drawn conn unfit

/-- What preparation does to a soft hyphen: it does not show, so it is left out. -/
def withoutSoftHyphens (password : String) : String :=
  String.ofList (password.toList.filter (· ≠ '\u00AD'))

theorem exchange_agrees_pencil :
    ∃ meeting,
      meet sha256
          (Verifier.ofPassword sha256 (Utf8.encode (withoutSoftHyphens "pencil")) [1, 2, 3] 4096)
          "%hvYDpWUa2RaTCAfuxFIlj" { password := "pencil", nonce := "rOprNGfwEbeRWgbNEkqO" } =
        some meeting ∧
      meeting.Convinces sha256
        (Verifier.ofPassword sha256 (Utf8.encode (withoutSoftHyphens "pencil")) [1, 2, 3] 4096) :=
  (exchange_agrees sha256 withoutSoftHyphens "pencil" "rOprNGfwEbeRWgbNEkqO"
    "%hvYDpWUa2RaTCAfuxFIlj" [1, 2, 3] 4096 (by decide +kernel) (by decide) (by decide +kernel)).1

/-- The client leaves a soft hyphen in its password where the server has left it out, and its
proof is refused. It also refuses more iterations than it can count. -/
theorem exchange_not_agrees :
    let client : Client := { password := "I\u00ADX", nonce := "rOprNGfwEbeRWgbNEkqO" }
    let verifier := Verifier.ofPassword sha256 (Utf8.encode (withoutSoftHyphens client.password))
    (meet sha256 (verifier [1, 2, 3] 1) "%hvY" client).map
        (fun meeting => decide ((verifier [1, 2, 3] 1).Admits sha256 meeting.authMessage
          meeting.final.proof)) = some false ∧
      (meet sha256 (verifier [1, 2, 3] (4294967296)) "%hvY" client).isNone := by
  decide +kernel

end PgClient.Scram
