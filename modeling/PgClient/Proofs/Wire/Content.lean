/-
What a server reads in the messages of a client.

A server cuts the stream of a client into frames, and the first byte of a frame says by
which layout its body is read. Only the three answers to a request to authenticate begin
with the same byte, and the server knows what it has asked for. The layouts are those that
the wire prescribes, with more room than the client uses. A body has to be used up by its
fields. What was written is read back, and the length that was counted beforehand is the
one that the frame has.
-/

import Mathlib.Data.List.Forall2
import PgClient.Proofs.Result.Layout
import PgClient.Proofs.Wire.Division
import PgClient.Proofs.Wire.Outgoing

namespace PgClient

namespace FrontendMessage

/-! ### Layouts -/

/-- What a server has asked for before it reads an answer to that. -/
inductive Request
  | password
  | mechanism
  | proof
deriving Repr, DecidableEq

inductive Kind
  | password
  | saslInitialResponse
  | saslResponse
  | query
  | parse
  | bind
  | describe
  | execute
  | sync
  | copyFail
  | terminate
deriving Repr, DecidableEq

inductive Content
  | password (secret : String)
  | saslInitialResponse (mechanism : String) (data : Option Bytes)
  | saslResponse (data : Bytes)
  | query (sql : String)
  | parse (name sql : String) (oids : List Oid)
  | bind (portal statement : String) (formats : List UInt16) (values : List (Option Bytes))
      (resultFormats : List UInt16)
  | describe (kind : UInt8) (name : String)
  | execute (portal : String) (rowLimit : UInt32)
  | sync
  | copyFail (reason : String)
  | terminate
deriving Repr, DecidableEq

/-- The layout that the first byte of a frame stands for. -/
def kind? (request : Request) : UInt8 → Option Kind
  | 0x42 => some .bind
  | 0x44 => some .describe
  | 0x45 => some .execute
  | 0x50 => some .parse
  | 0x51 => some .query
  | 0x53 => some .sync
  | 0x58 => some .terminate
  | 0x66 => some .copyFail
  | 0x70 =>
      match request with
      | .password => some .password
      | .mechanism => some .saslInitialResponse
      | .proof => some .saslResponse
  | _ => none

def request? : FrontendMessage → Option Request
  | password _ => some .password
  | saslInitialResponse _ _ => some .mechanism
  | saslResponse _ => some .proof
  | _ => none

def kind : FrontendMessage → Kind
  | password _ => .password
  | saslInitialResponse _ _ => .saslInitialResponse
  | saslResponse _ => .saslResponse
  | query _ => .query
  | parse _ _ _ => .parse
  | bind _ _ _ => .bind
  | describe _ _ => .describe
  | execute _ _ => .execute
  | sync => .sync
  | copyFail _ => .copyFail
  | terminate => .terminate

/-- What a message has to tell. The types of parameters go with the statement, and their
values with the portal; all formats are left to be text. -/
def content : FrontendMessage → Content
  | password secret => .password secret
  | saslInitialResponse mechanism data => .saslInitialResponse mechanism (some data)
  | saslResponse data => .saslResponse data
  | query sql => .query sql
  | parse name sql parameters => .parse name sql (parameters.map Parameter.oid)
  | bind portal statement parameters =>
      .bind portal statement [] (parameters.map Parameter.value) []
  | describe kind name => .describe kind name
  | execute portal rowLimit => .execute portal rowLimit
  | sync => .sync
  | copyFail reason => .copyFail reason
  | terminate => .terminate

/-! ### Reading a body -/

namespace Content

def text? (bytes : Bytes) : Option (String × Bytes) :=
  (Reader.text bytes).toOption

/-- A length and a value. The length is a number with a sign, and −1 stands for no value. -/
def value? (bytes : Bytes) : Option (Option Bytes × Bytes) :=
  (ResultBuilder.readValue bytes).toOption

def many? {α : Type} (item? : Bytes → Option (α × Bytes)) : Nat → Bytes → Option (List α × Bytes)
  | 0, bytes => some ([], bytes)
  | count + 1, bytes => do
      let (item, bytes) ← item? bytes
      let (others, bytes) ← many? item? count bytes
      return (item :: others, bytes)

def list? {α : Type} (item? : Bytes → Option (α × Bytes)) (bytes : Bytes) :
    Option (List α × Bytes) := do
  let (count, bytes) ← Bytes.uint16? bytes
  many? item? count.toNat bytes

def ended (content : Content) (rest : Bytes) : Option Content :=
  if rest.isEmpty then some content else none

def ofBody? (kind : Kind) (body : Bytes) : Option Content :=
  match kind with
  | .password => do
      let (secret, rest) ← text? body
      ended (.password secret) rest
  | .saslInitialResponse => do
      let (mechanism, rest) ← text? body
      let (data, rest) ← value? rest
      ended (.saslInitialResponse mechanism data) rest
  | .saslResponse => some (.saslResponse body)
  | .query => do
      let (sql, rest) ← text? body
      ended (.query sql) rest
  | .parse => do
      let (name, rest) ← text? body
      let (sql, rest) ← text? rest
      let (oids, rest) ← list? Bytes.uint32? rest
      ended (.parse name sql oids) rest
  | .bind => do
      let (portal, rest) ← text? body
      let (statement, rest) ← text? rest
      let (formats, rest) ← list? Bytes.uint16? rest
      let (values, rest) ← list? value? rest
      let (resultFormats, rest) ← list? Bytes.uint16? rest
      ended (.bind portal statement formats values resultFormats) rest
  | .describe =>
      match body with
      | [] => none
      | kind :: rest => do
          let (name, rest) ← text? rest
          ended (.describe kind name) rest
  | .execute => do
      let (portal, rest) ← text? body
      let (rowLimit, rest) ← Bytes.uint32? rest
      ended (.execute portal rowLimit) rest
  | .sync => ended .sync body
  | .copyFail => do
      let (reason, rest) ← text? body
      ended (.copyFail reason) rest
  | .terminate => ended .terminate body

/-- Reads a frame by what it begins with, when `request` was the last thing asked for. -/
def read? (request : Request) (frame : Frame) : Option Content := do
  let kind ← kind? request frame.first
  ofBody? kind frame.body

private theorem text?_append {text : String} (zeroFree : ZeroFree text) (rest : Bytes) :
    text? (textBytes text ++ rest) = some (text, rest) := by
  unfold text? textBytes
  rw [Reader.text_append text zeroFree]
  rfl

private theorem text?_all {text : String} (zeroFree : ZeroFree text) :
    text? (textBytes text) = some (text, []) := by
  have read := text?_append zeroFree []
  rw [List.append_nil] at read
  exact read

private theorem value?_append {value : Option Bytes} (short : ResultBuilder.IsShort value)
    (rest : Bytes) :
    value? (ResultBuilder.valueBytes value ++ rest) = some (value, rest) := by
  unfold value?
  rw [ResultBuilder.readValue_append short]
  rfl

private theorem many?_flatMap {α β : Type} {item? : Bytes → Option (β × Bytes)} {write : α → Bytes}
    {told : α → β} {items : List α}
    (reads : ∀ item ∈ items, ∀ rest, item? (write item ++ rest) = some (told item, rest))
    (rest : Bytes) :
    many? item? items.length (items.flatMap write ++ rest) = some (items.map told, rest) := by
  induction items with
  | nil => rfl
  | cons item items ih =>
      have first := reads item List.mem_cons_self (items.flatMap write ++ rest)
      have others := ih fun other member => reads other (List.mem_cons_of_mem _ member)
      rw [List.flatMap_cons, List.append_assoc, List.length_cons, many?, first]
      simp only [Option.bind_eq_bind, Option.bind_some, others]
      rfl

private theorem list?_flatMap {α β : Type} {item? : Bytes → Option (β × Bytes)} {write : α → Bytes}
    {told : α → β} {items : List α} (few : items.length ≤ 65535)
    (reads : ∀ item ∈ items, ∀ rest, item? (write item ++ rest) = some (told item, rest))
    (rest : Bytes) :
    list? item? (Bytes.ofUInt16 (UInt16.ofNat items.length) ++ (items.flatMap write ++ rest)) =
      some (items.map told, rest) := by
  have count : (UInt16.ofNat items.length).toNat = items.length := by
    rw [UInt16.toNat_ofNat']
    omega
  unfold list?
  rw [Bytes.uint16?_ofUInt16]
  simp only [Option.bind_eq_bind, Option.bind_some, count]
  exact many?_flatMap reads rest

/-- A count of nothing has nothing behind it. -/
theorem list?_none {α : Type} (item? : Bytes → Option (α × Bytes)) (rest : Bytes) :
    list? item? (Bytes.ofUInt16 0 ++ rest) = some ([], rest) := by
  unfold list?
  rw [Bytes.uint16?_ofUInt16]
  rfl

private theorem list?_none_all {α : Type} (item? : Bytes → Option (α × Bytes)) :
    list? item? (Bytes.ofUInt16 0) = some ([], []) :=
  list?_none item? []

end Content

/-! ### Messages that can be read back -/

def texts : FrontendMessage → List String
  | password secret => [secret]
  | saslInitialResponse mechanism _ => [mechanism]
  | saslResponse _ => []
  | query sql => [sql]
  | parse name sql _ => [name, sql]
  | bind portal statement _ => [portal, statement]
  | describe _ name => [name]
  | execute portal _ => [portal]
  | sync => []
  | copyFail reason => [reason]
  | terminate => []

def parameters : FrontendMessage → List Parameter
  | parse _ _ parameters => parameters
  | bind _ _ parameters => parameters
  | _ => []

def values : FrontendMessage → List (Option Bytes)
  | saslInitialResponse _ data => [some data]
  | bind _ _ parameters => parameters.map Parameter.value
  | _ => []

/-- The message can be read back: its texts end where a zero byte says so, and its counts
and lengths have room in their words. -/
structure Writable (message : FrontendMessage) : Prop where
  texts : ∀ text ∈ message.texts, ZeroFree text
  parameters : message.parameters.length ≤ 65535
  values : ∀ value ∈ message.values, ResultBuilder.IsShort value
  body : message.body.bytes.length < 4294967292

variable {message : FrontendMessage}

private theorem Writable.fits (writable : message.Writable) : message.frame.Fits := by
  have short := writable.body
  change 4 + message.body.bytes.length < 4294967296
  omega

private theorem Writable.whole (writable : message.Writable) : message.body.whole = true := by
  cases message with
  | parse name sql parameters => exact withCount_of_le writable.parameters
  | bind portal statement parameters => exact withCount_of_le writable.parameters
  | _ => rfl

private theorem withCount_bytes {before rest : Bytes} {parameters : List Parameter}
    (few : parameters.length ≤ 65535) :
    (withCount before parameters rest).bytes =
      before ++ (Bytes.ofUInt16 (UInt16.ofNat parameters.length) ++ rest) := by
  obtain ⟨count, counted, written⟩ := withCount_of_whole (withCount_of_le few)
  rw [written, ← counted, UInt16.ofNat_toNat]

private theorem valueBytes_eq (parameter : Parameter) :
    valueBytes parameter = ResultBuilder.valueBytes parameter.value := by
  unfold valueBytes
  cases parameter.value with
  | none => rfl
  | some value => rfl

private theorem ofBody?_parse {name sql : String} {parameters : List Parameter}
    (nameFree : ZeroFree name) (sqlFree : ZeroFree sql) (few : parameters.length ≤ 65535) :
    Content.ofBody? .parse (parse name sql parameters).body.bytes =
      some (parse name sql parameters).content := by
  have oids : Content.list? Bytes.uint32?
      (Bytes.ofUInt16 (UInt16.ofNat parameters.length) ++
        ((parameters.flatMap fun parameter => Bytes.ofUInt32 parameter.oid) ++ [])) =
      some (parameters.map Parameter.oid, []) :=
    Content.list?_flatMap few (fun parameter _ => Bytes.uint32?_ofUInt32 parameter.oid) []
  rw [List.append_nil] at oids
  rw [body, withCount_bytes few, List.append_assoc]
  simp only [Content.ofBody?, Content.text?_append nameFree, Content.text?_append sqlFree, oids,
    Option.bind_eq_bind, Option.bind_some]
  rfl

private theorem ofBody?_bind {portal statement : String} {parameters : List Parameter}
    (portalFree : ZeroFree portal) (statementFree : ZeroFree statement)
    (few : parameters.length ≤ 65535)
    (short : ∀ value ∈ parameters.map Parameter.value, ResultBuilder.IsShort value) :
    Content.ofBody? .bind (bind portal statement parameters).body.bytes =
      some (bind portal statement parameters).content := by
  have valueRead : ∀ parameter ∈ parameters, ∀ rest,
      Content.value? (valueBytes parameter ++ rest) = some (parameter.value, rest) := by
    intro parameter member rest
    rw [valueBytes_eq]
    exact Content.value?_append (short _ (List.mem_map_of_mem member)) rest
  have values := Content.list?_flatMap few valueRead (Bytes.ofUInt16 0)
  rw [body, withCount_bytes few, List.append_assoc, List.append_assoc]
  simp only [Content.ofBody?, Content.text?_append portalFree, Content.text?_append statementFree,
    Content.list?_none, Content.list?_none_all, values, Option.bind_eq_bind, Option.bind_some]
  rfl

/-- A body is read as what the message has to tell. -/
theorem ofBody?_body (writable : message.Writable) :
    Content.ofBody? message.kind message.body.bytes = some message.content := by
  obtain ⟨texts, few, values, _⟩ := writable
  cases message with
  | password secret =>
      have free := texts secret (by simp [FrontendMessage.texts])
      simp only [kind, body, Content.ofBody?, Content.text?_all free]
      rfl
  | query sql =>
      have free := texts sql (by simp [FrontendMessage.texts])
      simp only [kind, body, Content.ofBody?, Content.text?_all free]
      rfl
  | copyFail reason =>
      have free := texts reason (by simp [FrontendMessage.texts])
      simp only [kind, body, Content.ofBody?, Content.text?_all free]
      rfl
  | describe kind name =>
      have free := texts name (by simp [FrontendMessage.texts])
      simp only [FrontendMessage.kind, body, Content.ofBody?, Content.text?_all free]
      rfl
  | saslInitialResponse mechanism data =>
      have free := texts mechanism (by simp [FrontendMessage.texts])
      have read := Content.value?_append (values (some data) (by simp [FrontendMessage.values])) []
      rw [List.append_nil] at read
      simp only [kind, body, Content.ofBody?, Content.text?_append free, Option.bind_eq_bind,
        Option.bind_some]
      change (Content.value? (ResultBuilder.valueBytes (some data))).bind _ = _
      rw [read]
      rfl
  | execute portal rowLimit =>
      have free := texts portal (by simp [FrontendMessage.texts])
      have read := Bytes.uint32?_ofUInt32 rowLimit []
      rw [List.append_nil] at read
      simp only [kind, body, Content.ofBody?, Content.text?_append free, read, Option.bind_eq_bind,
        Option.bind_some]
      rfl
  | parse name sql parameters =>
      exact ofBody?_parse (texts name (by simp [FrontendMessage.texts]))
        (texts sql (by simp [FrontendMessage.texts])) few
  | bind portal statement parameters =>
      exact ofBody?_bind (texts portal (by simp [FrontendMessage.texts]))
        (texts statement (by simp [FrontendMessage.texts])) few values
  | saslResponse data => rfl
  | sync => rfl
  | terminate => rfl

private theorem kind?_first (message : FrontendMessage) {request : Request}
    (asked : ∀ own ∈ message.request?, own = request) :
    kind? request message.first = some message.kind := by
  cases message with
  | password secret =>
      cases asked .password rfl
      rfl
  | saslInitialResponse mechanism data =>
      cases asked .mechanism rfl
      rfl
  | saslResponse data =>
      cases asked .proof rfl
      rfl
  | _ => rfl

/-- A message is found by its first byte, and read as what it has to tell. -/
theorem read?_frame (writable : message.Writable) {request : Request}
    (asked : ∀ own ∈ message.request?, own = request) :
    Content.read? request message.frame = some message.content := by
  unfold Content.read? frame
  rw [kind?_first message asked]
  exact ofBody?_body writable

/-- A body that has room can be counted beforehand. -/
theorem Writable.sized (writable : message.Writable) :
    ∃ size, message.size = .ok size ∧ size.toNat = message.body.bytes.length := by
  have counts := size_counts message
  rw [← extent_of_whole writable.whole] at counts
  cases sized : message.size with
  | ok size =>
      rw [sized] at counts
      exact ⟨size, rfl, counts⟩
  | error defect =>
      rw [sized] at counts
      exact absurd writable.body (by have large := counts.2; omega)

private theorem Writable.fitting (writable : message.Writable) : message.fits = true := by
  rw [fits_iff, ← extent_of_whole writable.whole]
  exact writable.body

/-! ### A whole stream -/

/-- The frame is the message on the wire: its length is the one that was counted
beforehand, its bytes are those that were written, and it is read as the message:
the answer to a request by the server that has made it, and anything else by every server. -/
structure Conveys (message : FrontendMessage) (frame : Frame) : Prop where
  first : frame.first = message.first
  body : frame.body = message.body.bytes
  counted : ∃ size, message.size = .ok size ∧ size.toNat = frame.body.length ∧
    frame.bytes = message.first :: (Bytes.ofUInt32 (4 + size) ++ message.body.bytes)
  content : ∀ request, (∀ own ∈ message.request?, own = request) →
    Content.read? request frame = some message.content

private theorem Writable.conveyed (writable : message.Writable) :
    message.Conveys message.frame := by
  obtain ⟨size, sized, counted⟩ := writable.sized
  refine ⟨rfl, rfl, ⟨size, sized, counted, ?_⟩, fun _ asked => read?_frame writable asked⟩
  rw [Frame.bytes, frame, ← counted, UInt32.ofNat_add, UInt32.ofNat_toNat]
  rfl

/-- Messages that are put behind what is there already are found again as frames, as many
as there are messages and in their order, with nothing left over. -/
theorem appendAll_conveyed {messages : List FrontendMessage}
    (writable : ∀ message ∈ messages, message.Writable) (buffer : Bytes) :
    ∃ output frames, appendAll messages buffer = (.ok (), buffer ++ output) ∧
      Frame.split output = .ok (frames, []) ∧ List.Forall₂ Conveys messages frames := by
  refine ⟨stream messages, messages.map frame, ?_, ?_, ?_⟩
  · exact appendAll_ok (fun message member => (writable message member).whole)
      (fun message member => (writable message member).fitting) buffer
  · apply Frame.split_stream
    intro frame member
    obtain ⟨message, present, same⟩ := List.mem_map.mp member
    rw [← same]
    exact (writable message present).fits
  · rw [List.forall₂_map_right_iff, List.forall₂_same]
    exact fun message member => (writable message member).conveyed

def missingAndEmpty : List FrontendMessage :=
  [.parse "" "select $1, $2" [⟨25, none⟩, ⟨17, some []⟩],
    .bind "" "" [⟨25, none⟩, ⟨17, some []⟩], .saslInitialResponse "SCRAM-SHA-256" [110, 44],
    .terminate]

theorem appendAll_conveyed_missingAndEmpty :
    (∀ message ∈ missingAndEmpty, message.Writable) ∧
      ∃ output frames, appendAll missingAndEmpty [1] = (.ok (), [1] ++ output) ∧
        Frame.split output = .ok (frames, []) ∧
        List.Forall₂ Conveys missingAndEmpty frames := by
  have writable : ∀ message ∈ missingAndEmpty, message.Writable := by
    intro message member
    simp only [missingAndEmpty, List.mem_cons, List.not_mem_nil, or_false] at member
    rcases member with rfl | rfl | rfl | rfl
    · exact ⟨by decide, by decide, by simp [values], by decide⟩
    · exact ⟨by decide, by decide, by simp [values, ResultBuilder.IsShort], by decide⟩
    · exact ⟨by decide, by decide, by simp [values, ResultBuilder.IsShort], by decide⟩
    · exact ⟨by decide, by decide, by simp [values], by decide⟩
  exact ⟨writable, appendAll_conveyed writable [1]⟩

end FrontendMessage

end PgClient
