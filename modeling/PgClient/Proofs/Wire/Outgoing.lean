/-
Messages of a client as frames.

A message that fits is put behind what is there already as one frame, with nothing before
it and nothing after it, and its length is that of the body. One that does not fit is too
large for a word of 32 bits in a field or in the whole, and it leaves nothing behind, or
its first byte where it exceeds the word only together with the length itself. Of several
messages those in front of the first that does not fit are put there.
-/

import PgClient.Command
import PgClient.Proofs.Wire.Stream

namespace PgClient

theorem Except.exists_of_isOk {ε α : Type} {outcome : Except ε α} (fine : outcome.isOk = true) :
    ∃ value, outcome = .ok value := by
  cases outcome with
  | error fault => cases fine
  | ok value => exact ⟨value, rfl⟩

namespace FrontendMessage

def frame (message : FrontendMessage) : Frame :=
  { first := message.first, body := message.body.bytes }

/-! ### Sizes -/

/-- A size is the count that it stands for, and none is refused but one that a word cannot hold. -/
def Counts (outcome : Except Defect UInt32) (count : Nat) : Prop :=
  match outcome with
  | .ok size => size.toNat = count
  | .error defect => (defect = .oversizedMessage ∨ defect = .overflow) ∧ 4294967296 ≤ count

private theorem count32_counts (count : Nat) : Counts (count32 count) count := by
  unfold count32
  by_cases small : count < 4294967296
  · rw [if_pos small]
    exact Nat.mod_eq_of_lt small
  · rw [if_neg small]
    exact ⟨.inl rfl, Nat.le_of_not_lt small⟩

private theorem sum_counts (first second : UInt32) :
    Counts (sum first second) (first.toNat + second.toNat) := by
  unfold sum
  by_cases small : first.toNat + second.toNat < 4294967296
  · rw [if_pos small]
    change (first + second).toNat = _
    rw [UInt32.toNat_add]
    exact Nat.mod_eq_of_lt small
  · rw [if_neg small]
    exact ⟨.inr rfl, Nat.le_of_not_lt small⟩

/-- What is added to a count does not make it smaller. -/
theorem Counts.bind {outcome : Except Defect UInt32} {next : UInt32 → Except Defect UInt32}
    {count total : Nat} (counts : Counts outcome count) (grows : count ≤ total)
    (onward : ∀ size, size.toNat = count → Counts (next size) total) :
    Counts (outcome >>= next) total := by
  cases outcome with
  | ok size => exact onward size counts
  | error defect => exact ⟨counts.1, Nat.le_trans counts.2 grows⟩

private theorem Counts.sum {outcome : Except Defect UInt32} {count : Nat}
    (counts : Counts outcome count) (first : UInt32) :
    Counts (outcome >>= FrontendMessage.sum first) (first.toNat + count) := by
  apply counts.bind (Nat.le_add_left _ _)
  rintro size rfl
  exact sum_counts first size

private theorem textBytes_length (text : String) :
    (textBytes text).length = text.utf8ByteSize + 1 := by
  unfold textBytes Bytes.endedByZero Utf8.encode
  rw [List.length_append]
  rfl

private theorem textSize_counts (text : String) :
    Counts (textSize text) (textBytes text).length := by
  rw [textBytes_length]
  apply (count32_counts text.utf8ByteSize).bind (Nat.le_add_right _ _)
  rintro size same
  rw [← same]
  exact sum_counts size 1

theorem counted_length (data : Bytes) : (counted data).length = 4 + data.length := by
  rw [counted, List.length_append, Bytes.ofUInt32_length]

private theorem valueSize_counts (parameter : Parameter) :
    Counts (valueSize parameter) (valueBytes parameter).length := by
  unfold valueSize valueBytes
  cases parameter.value with
  | none => rfl
  | some value =>
      dsimp only
      rw [counted_length]
      exact (count32_counts value.length).sum 4

theorem valuesSize_counts (sofar : UInt32) (parameters : List Parameter) :
    Counts (valuesSize sofar parameters)
      (sofar.toNat + (parameters.flatMap valueBytes).length) := by
  induction parameters generalizing sofar with
  | nil => rfl
  | cons parameter parameters ih =>
      rw [List.flatMap_cons, List.length_append, ← Nat.add_assoc]
      unfold valuesSize
      apply (valueSize_counts parameter).bind (by omega)
      rintro size same
      rw [← same]
      apply (sum_counts sofar size).bind (Nat.le_add_right _ _)
      rintro next added
      rw [← added]
      exact ih next

/-- The length of the body that the message has if all of it is written. -/
def extent : FrontendMessage → Nat
  | parse name sql parameters =>
      (textBytes name).length + (textBytes sql).length + 2 + parameters.length * 4
  | bind portal statement parameters =>
      (textBytes portal).length + (textBytes statement).length + 2 + 2 +
        (parameters.flatMap valueBytes).length + 2
  | message => message.body.bytes.length

/-- Two texts in front of a word. -/
theorem texts_counts (first second : String) {next : UInt32 → Except Defect UInt32} {total : Nat}
    (grows : (textBytes first).length + (textBytes second).length ≤ total)
    (onward : ∀ texts, texts.toNat = (textBytes first).length + (textBytes second).length →
      Counts (next texts) total) :
    Counts (do next (← sum (← textSize first) (← textSize second))) total := by
  apply (textSize_counts first).bind (by omega)
  intro size same
  apply (textSize_counts second).bind (by omega)
  intro other sameOther
  rw [← same, ← sameOther] at grows onward
  exact (sum_counts size other).bind grows onward

/-- What is added up is the length of the body. -/
theorem size_counts (message : FrontendMessage) : Counts message.size message.extent := by
  cases message with
  | password secret => exact textSize_counts secret
  | query sql => exact textSize_counts sql
  | copyFail reason => exact textSize_counts reason
  | saslResponse data => exact count32_counts data.length
  | sync => rfl
  | terminate => rfl
  | describe kind name =>
      have extent : (describe kind name).extent = 1 + (textBytes name).length := Nat.add_comm _ _
      rw [extent]
      exact (textSize_counts name).sum 1
  | execute portal rowLimit =>
      have extent : (execute portal rowLimit).extent = (textBytes portal).length + 4 :=
        List.length_append
      rw [extent]
      apply (textSize_counts portal).bind (Nat.le_add_right _ _)
      rintro size same
      rw [← same]
      exact sum_counts size 4
  | saslInitialResponse mechanism data =>
      have extent : (saslInitialResponse mechanism data).extent =
          (textBytes mechanism).length + (4 : UInt32).toNat + data.length := by
        change (textBytes mechanism ++ counted data).length = _
        rw [List.length_append, counted_length, ← Nat.add_assoc]
        rfl
      rw [extent]
      apply (textSize_counts mechanism).bind (by omega)
      rintro size same
      rw [← same]
      apply (sum_counts size 4).bind (Nat.le_add_right _ _)
      rintro next added
      rw [← added]
      exact (count32_counts data.length).sum next
  | parse name sql parameters =>
      apply texts_counts name sql (by simp only [extent]; omega)
      intro texts same
      have extent : (parse name sql parameters).extent =
          texts.toNat + (2 : UInt32).toNat + parameters.length * 4 := by
        rw [same]
        rfl
      rw [extent]
      apply (sum_counts texts 2).bind (Nat.le_add_right _ _)
      rintro next added
      rw [← added]
      exact (count32_counts (parameters.length * 4)).sum next
  | bind portal statement parameters =>
      have zero : (0 : UInt32).toNat = 0 := rfl
      apply (valuesSize_counts 0 parameters).bind (by simp only [extent]; omega)
      intro values sameValues
      apply texts_counts portal statement (by simp only [extent]; omega)
      intro texts same
      have two : (2 : UInt32).toNat = 2 := rfl
      have extent : (bind portal statement parameters).extent =
          texts.toNat + (2 : UInt32).toNat + (2 : UInt32).toNat + values.toNat +
            (2 : UInt32).toNat := by
        rw [same, sameValues, zero, Nat.zero_add]
        rfl
      rw [extent]
      apply (sum_counts texts 2).bind (by omega)
      rintro second added
      rw [← added]
      apply (sum_counts second 2).bind (by omega)
      rintro third added
      rw [← added]
      apply (sum_counts third values).bind (Nat.le_add_right _ _)
      rintro last added
      rw [← added]
      exact sum_counts last 2

private theorem oids_length (parameters : List Parameter) :
    (parameters.flatMap fun parameter => Bytes.ofUInt32 parameter.oid).length =
      parameters.length * 4 := by
  induction parameters with
  | nil => rfl
  | cons parameter parameters ih =>
      rw [List.flatMap_cons, List.length_append, Bytes.ofUInt32_length, ih, List.length_cons]
      omega

/-- A count that is written has room in its word. -/
theorem withCount_of_whole {before rest : Bytes} {parameters : List Parameter}
    (whole : (withCount before parameters rest).whole = true) :
    ∃ count : UInt16, count.toNat = parameters.length ∧
      (withCount before parameters rest).bytes = before ++ (Bytes.ofUInt16 count ++ rest) := by
  unfold withCount count16 at whole ⊢
  by_cases few : parameters.length < 65536
  · rw [if_pos few]
    refine ⟨_, ?_, rfl⟩
    rw [UInt16.toNat_ofNat']
    exact Nat.mod_eq_of_lt few
  · rw [if_neg few] at whole
    cases whole

theorem withCount_of_le {before rest : Bytes} {parameters : List Parameter}
    (few : parameters.length ≤ 65535) : (withCount before parameters rest).whole = true := by
  unfold withCount count16
  rw [if_pos (by omega)]

private theorem withCount_length {before rest : Bytes} {parameters : List Parameter}
    (whole : (withCount before parameters rest).whole = true) :
    (withCount before parameters rest).bytes.length = before.length + (2 + rest.length) := by
  obtain ⟨count, _, written⟩ := withCount_of_whole whole
  rw [written, List.length_append, List.length_append, Bytes.ofUInt16_length]

theorem extent_of_whole {message : FrontendMessage} (whole : message.body.whole = true) :
    message.body.bytes.length = message.extent := by
  cases message with
  | parse name sql parameters =>
      rw [show (parse name sql parameters).body.bytes.length = _ from withCount_length whole]
      simp only [extent, List.length_append, oids_length]
      omega
  | bind portal statement parameters =>
      rw [show (bind portal statement parameters).body.bytes.length = _ from
        withCount_length whole]
      simp only [extent, List.length_append, Bytes.ofUInt16_length]
      omega
  | _ => rfl

/-! ### Appending -/

def length (message : FrontendMessage) : Except Defect UInt32 :=
  message.size >>= sum 4

def fits (message : FrontendMessage) : Bool :=
  message.length.isOk

def fitting (messages : List FrontendMessage) : List FrontendMessage :=
  messages.takeWhile fits

/-- What a message that does not fit leaves behind. -/
def stub (message : FrontendMessage) : Bytes :=
  if message.size.isOk then [message.first] else []

def remnant : List FrontendMessage → Bytes
  | [] => []
  | message :: messages => if message.fits then remnant messages else message.stub

def stream (messages : List FrontendMessage) : Bytes :=
  Frame.stream (messages.map frame)

theorem stream_cons (message : FrontendMessage) (messages : List FrontendMessage) :
    stream (message :: messages) = message.frame.bytes ++ stream messages :=
  rfl

theorem stream_append (messages others : List FrontendMessage) :
    stream (messages ++ others) = stream messages ++ stream others := by
  rw [stream, List.map_append, Frame.stream_append]
  rfl

theorem length_counts (message : FrontendMessage) :
    Counts message.length (4 + message.extent) :=
  (size_counts message).sum 4

theorem fits_of_length {message : FrontendMessage} {length : UInt32}
    (counted : message.length = .ok length) : message.fits = true := by
  unfold fits
  rw [counted]
  rfl

theorem fits_iff {message : FrontendMessage} :
    message.fits = true ↔ message.extent < 4294967292 := by
  have counts := length_counts message
  cases counted : message.length with
  | ok length =>
      rw [counted] at counts
      have same : length.toNat = 4 + message.extent := counts
      have bound : length.toNat < 4294967296 := length.toNat_lt
      exact iff_of_true (fits_of_length counted) (by omega)
  | error defect =>
      rw [counted] at counts
      have large : 4294967296 ≤ 4 + message.extent := counts.2
      have unfit : message.fits = false := by
        rw [fits, counted]
        rfl
      rw [unfit]
      exact iff_of_false Bool.false_ne_true (by omega)

theorem append_of_length {message : FrontendMessage} {length : UInt32}
    (counted : message.length = .ok length) (buffer : Bytes) :
    message.append buffer =
      (if message.body.whole then .ok () else .error .oversizedMessage,
        buffer ++ message.first :: (Bytes.ofUInt32 length ++ message.body.bytes)) := by
  unfold FrontendMessage.length at counted
  unfold append
  cases sized : message.size with
  | error defect =>
      rw [sized] at counted
      cases counted
  | ok size =>
      rw [sized] at counted
      change sum 4 size = .ok length at counted
      dsimp only
      rw [counted]

theorem append_of_unfit {message : FrontendMessage} {defect : Defect}
    (unfit : message.length = .error defect) (buffer : Bytes) :
    message.append buffer = (.error defect, buffer ++ message.stub) := by
  unfold FrontendMessage.length at unfit
  unfold append stub
  cases sized : message.size with
  | error defect =>
      rw [sized] at unfit
      cases unfit
      exact Prod.ext rfl (List.append_nil buffer).symm
  | ok size =>
      rw [sized] at unfit
      change sum 4 size = .error defect at unfit
      dsimp only
      rw [unfit]
      rfl

theorem exists_unfit {message : FrontendMessage} (unfit : message.fits = false) :
    ∃ defect, message.length = .error defect := by
  unfold fits at unfit
  cases counted : message.length with
  | ok length =>
      rw [counted] at unfit
      cases unfit
  | error defect => exact ⟨defect, rfl⟩

theorem append_fits {message : FrontendMessage} (fits : message.fits = true)
    (whole : message.body.whole = true) (buffer : Bytes) :
    message.append buffer = (.ok (), buffer ++ message.frame.bytes) := by
  obtain ⟨length, counted⟩ := Except.exists_of_isOk fits
  have counts := length_counts message
  rw [counted, ← extent_of_whole whole] at counts
  have same : length = UInt32.ofNat (4 + message.body.bytes.length) := by
    rw [← show length.toNat = _ from counts, UInt32.ofNat_toNat]
  rw [append_of_length counted, if_pos whole, same]
  rfl

/-- The message is put there as a whole or not at all: its length exceeds a word by more than
counting itself, or does not exceed it. -/
def AllOrNothing (message : FrontendMessage) : Prop :=
  message.extent < 4294967292 ∨ 4294967296 ≤ message.extent

theorem stub_of_extent {message : FrontendMessage} (small : message.extent < 4294967296) :
    message.stub = [message.first] := by
  have counts := size_counts message
  unfold stub
  cases sized : message.size with
  | ok size => rfl
  | error defect =>
      rw [sized] at counts
      exact absurd counts.2 (Nat.not_le.mpr small)

private theorem stub_of_allOrNothing {message : FrontendMessage} (decided : message.AllOrNothing)
    (unfit : message.fits = false) : message.stub = [] := by
  have large : ¬message.extent < 4294967292 := by
    rw [← fits_iff, unfit]
    exact Bool.false_ne_true
  have counts := size_counts message
  unfold stub
  cases sized : message.size with
  | error defect => rfl
  | ok size =>
      rw [sized] at counts
      have same : size.toNat = message.extent := counts
      have bound := size.toNat_lt
      have decided := decided.resolve_left large
      omega

theorem remnant_eq_nil {messages : List FrontendMessage}
    (decided : ∀ message ∈ messages, message.AllOrNothing) : remnant messages = [] := by
  induction messages with
  | nil => rfl
  | cons message messages ih =>
      unfold remnant
      split
      · exact ih fun other member => decided other (List.mem_cons_of_mem _ member)
      · rename_i unfit
        exact stub_of_allOrNothing (decided message List.mem_cons_self)
          (Bool.not_eq_true _ ▸ unfit)

theorem fitting_cons_of_fits {message : FrontendMessage} (fits : message.fits = true)
    (messages : List FrontendMessage) :
    fitting (message :: messages) = message :: fitting messages :=
  List.takeWhile_cons_of_pos fits

theorem fitting_cons_of_unfit {message : FrontendMessage} (unfit : message.fits = false)
    (messages : List FrontendMessage) : fitting (message :: messages) = [] := by
  apply List.takeWhile_cons_of_neg
  rw [unfit]
  exact Bool.false_ne_true

theorem appendAll_fitting {messages : List FrontendMessage}
    (whole : ∀ message ∈ messages, message.body.whole = true) (buffer : Bytes) :
    (appendAll messages buffer).2 = buffer ++ (stream (fitting messages) ++ remnant messages) := by
  induction messages generalizing buffer with
  | nil => exact (List.append_nil buffer).symm
  | cons message messages ih =>
      unfold appendAll remnant
      cases fits : message.fits with
      | true =>
          rw [append_fits fits (whole message List.mem_cons_self), fitting_cons_of_fits fits,
            stream_cons, if_pos rfl, List.append_assoc, ← List.append_assoc]
          exact ih (fun other member => whole other (List.mem_cons_of_mem _ member)) _
      | false =>
          obtain ⟨defect, unfit⟩ := exists_unfit fits
          rw [append_of_unfit unfit, fitting_cons_of_unfit fits, if_neg Bool.false_ne_true]
          rfl

theorem appendAll_ok {messages : List FrontendMessage}
    (whole : ∀ message ∈ messages, message.body.whole = true)
    (fits : ∀ message ∈ messages, message.fits = true) (buffer : Bytes) :
    appendAll messages buffer = (.ok (), buffer ++ stream messages) := by
  induction messages generalizing buffer with
  | nil => exact Prod.ext rfl (List.append_nil buffer).symm
  | cons message messages ih =>
      rw [appendAll, append_fits (fits message List.mem_cons_self)
        (whole message List.mem_cons_self), stream_cons, ← List.append_assoc]
      exact ih (fun other member => whole other (List.mem_cons_of_mem _ member))
        (fun other member => fits other (List.mem_cons_of_mem _ member)) _

end FrontendMessage

namespace Command

def parameters : Command → List Parameter
  | queryWith _ parameters => parameters
  | _ => []

/-- A command is cut in no message if its parameters can be counted. -/
theorem messages_whole {command : Command} (few : command.parameters.length ≤ 65535) :
    ∀ message ∈ command.messages, message.body.whole = true := by
  intro message member
  cases command with
  | query sql =>
      cases List.mem_singleton.mp member
      rfl
  | describePortal name =>
      simp only [messages, List.mem_cons, List.not_mem_nil, or_false] at member
      rcases member with rfl | rfl
      · rfl
      · rfl
  | queryWith sql parameters =>
      simp only [messages, List.mem_cons, List.not_mem_nil, or_false] at member
      rcases member with rfl | rfl | rfl | rfl | rfl
      · exact FrontendMessage.withCount_of_le few
      · exact FrontendMessage.withCount_of_le few
      · rfl
      · rfl
      · rfl

end Command

end PgClient
