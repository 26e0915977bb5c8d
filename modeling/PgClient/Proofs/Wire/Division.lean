/-
A stream divided into its frames.

Whole frames are taken off the front of a stream one after the other, and each is read.
What is left in the end begins a frame and does not make it up. So a stream of frames is
divided where one frame ends and the next begins, whatever the frames hold.
-/

import PgClient.Proofs.Wire.Stream

namespace PgClient.Frame

variable {input rest : Bytes} {frame : Frame}

/-! ### Incomplete frames -/

def Incomplete (bytes : Bytes) : Prop :=
  ∃ frame : Frame, frame.Fits ∧ bytes <+: frame.bytes ∧ bytes ≠ frame.bytes

private theorem next_bytes (fits : frame.Fits) : next frame.bytes = .ok (some (frame, [])) := by
  have found := next_append frame fits []
  rw [List.append_nil] at found
  exact found

theorem next_of_incomplete (incomplete : Incomplete input) : next input = .ok none := by
  obtain ⟨frame, fits, ⟨missing, whole⟩, partly⟩ := incomplete
  have complete := next_bytes fits
  rw [← whole] at complete
  cases found : next input with
  | error fault =>
      rw [next_more_of_fault found missing] at complete
      cases complete
  | ok front =>
      cases front with
      | none => rfl
      | some read =>
          -- A frame that is there already is the whole of it, and then nothing is missing.
          obtain ⟨first, left⟩ := read
          rw [next_more found missing] at complete
          injection complete with pair
          injection pair with pair
          injection pair with _ nothing
          have none := (List.append_eq_nil_iff.mp nothing).2
          rw [none, List.append_nil] at whole
          exact absurd whole partly

private theorem incomplete_nil : Incomplete [] := by
  refine ⟨{ first := 0, body := [] }, by decide, List.nil_prefix, ?_⟩
  intro same
  cases same

private theorem incomplete_of_append {missing : Bytes} (fits : frame.Fits) (missed : missing ≠ [])
    (whole : input ++ missing = frame.bytes) : Incomplete input := by
  refine ⟨frame, fits, ⟨missing, whole⟩, ?_⟩
  intro same
  rw [← same] at whole
  exact missed (List.append_right_eq_self.mp whole)

/-- A frame whose body has the length that the bytes of its head tell. -/
theorem bytes_of_length (first : UInt8) {body : Bytes} {length : UInt32}
    (counted : 4 + body.length = length.toNat) :
    Fits { first, body } ∧ bytes { first, body } = first :: (Bytes.ofUInt32 length ++ body) := by
  have bound := length.toNat_lt
  have same : UInt32.ofNat (4 + body.length) = length := by
    apply UInt32.toNat_inj.mp
    rw [UInt32.toNat_ofNat']
    omega
  refine ⟨?_, ?_⟩
  · unfold Fits
    dsimp only
    omega
  · rw [bytes, same]

/-- A length that is not there yet in full can still become that of a frame. -/
theorem exists_length {front : Bytes} (short : Bytes.uint32? front = none) :
    ∃ (missing : Bytes) (length : UInt32),
      missing ≠ [] ∧ front ++ missing = Bytes.ofUInt32 length ∧ 4 ≤ length.toNat := by
  have ending (first second third : UInt8) :
      ∃ length : UInt32, [first, second, third, 255] = Bytes.ofUInt32 length ∧
        4 ≤ length.toNat := by
    have bounds := And.intro first.toNat_lt (And.intro second.toNat_lt third.toNat_lt)
    refine ⟨_, (Bytes.uint32?_eq_some rfl).trans (List.append_nil _), ?_⟩
    rw [UInt32.toNat_ofNat']
    have last : (255 : UInt8).toNat = 255 := rfl
    omega
  match front, short with
  | [], _ =>
      obtain ⟨length, same, enough⟩ := ending 0 0 0
      exact ⟨_, length, List.cons_ne_nil _ _, same, enough⟩
  | [first], _ =>
      obtain ⟨length, same, enough⟩ := ending first 0 0
      exact ⟨_, length, List.cons_ne_nil _ _, same, enough⟩
  | [first, second], _ =>
      obtain ⟨length, same, enough⟩ := ending first second 0
      exact ⟨_, length, List.cons_ne_nil _ _, same, enough⟩
  | [first, second, third], _ =>
      obtain ⟨length, same, enough⟩ := ending first second third
      exact ⟨_, length, List.cons_ne_nil _ _, same, enough⟩
  | _ :: _ :: _ :: _ :: _, impossible => cases impossible

/-- Bytes that give no frame yet and no fault begin one. -/
theorem incomplete_of_next (undecided : next input = .ok none) : Incomplete input := by
  unfold next at undecided
  split at undecided
  · exact incomplete_nil
  · rename_i first afterFirst
    split at undecided
    · rename_i short
      obtain ⟨missing, length, missed, completed, enough⟩ := exists_length short
      let body : Bytes := List.replicate (length.toNat - 4) 0
      have counted : 4 + body.length = length.toNat := by
        rw [List.length_replicate]
        omega
      obtain ⟨fits, spelled⟩ := bytes_of_length first counted
      have whole : (first :: afterFirst) ++ (missing ++ body) = bytes { first, body } := by
        rw [spelled, ← completed, List.cons_append, List.append_assoc]
      exact incomplete_of_append fits (List.append_ne_nil_of_left_ne_nil missed body) whole
    · rename_i length afterLength readLength
      split at undecided
      · cases undecided
      · rename_i enough
        split at undecided
        · rename_i short
          have fewer := Bytes.length_of_take? short
          let missing : Bytes := List.replicate (length.toNat - 4 - afterLength.length) 0
          have counted : 4 + (afterLength ++ missing).length = length.toNat := by
            rw [List.length_append, List.length_replicate]
            omega
          obtain ⟨fits, spelled⟩ := bytes_of_length first counted
          have whole : (first :: afterFirst) ++ missing =
              bytes { first, body := afterLength ++ missing } := by
            rw [spelled, Bytes.uint32?_eq_some readLength, List.cons_append, List.append_assoc]
          have missed : missing ≠ [] := by
            intro none
            have size := congrArg List.length none
            rw [List.length_replicate, List.length_nil] at size
            omega
          exact incomplete_of_append fits missed whole
        · cases undecided

/-! ### Reading frame by frame -/

/-- Reads the whole frames of some input, up to the first that cannot be read, and hands
back what follows them. -/
def readAll {α : Type} (read : Frame → Except ProtocolFault α) (input : Bytes) :
    Except ProtocolFault (List α × Bytes) :=
  match found : next input with
  | .error fault => .error fault
  | .ok none => .ok ([], input)
  | .ok (some (frame, rest)) =>
      match read frame with
      | .error fault => .error fault
      | .ok value =>
          have := next_length found
          match readAll read rest with
          | .error fault => .error fault
          | .ok (values, left) => .ok (value :: values, left)
termination_by input.length
decreasing_by
  simp only [headLength] at this
  omega

def split (input : Bytes) : Except ProtocolFault (List Frame × Bytes) :=
  readAll .ok input

section

variable {α : Type} {read : Frame → Except ProtocolFault α}

/-- The frame at the front is read, and then what follows it. -/
theorem readAll_eq : readAll read input =
    match next input with
    | .error fault => .error fault
    | .ok none => .ok ([], input)
    | .ok (some (frame, rest)) =>
        match read frame with
        | .error fault => .error fault
        | .ok value =>
            match readAll read rest with
            | .error fault => .error fault
            | .ok (values, left) => .ok (value :: values, left) := by
  rw [readAll]
  split
  · rename_i found
    simp only [found]
  · rename_i found
    simp only [found]
  · rename_i found
    simp only [found]

theorem readAll_of_fault {fault : ProtocolFault} (found : next input = .error fault) :
    readAll read input = .error fault := by
  rw [readAll_eq, found]

theorem readAll_of_partial (found : next input = .ok none) :
    readAll read input = .ok ([], input) := by
  rw [readAll_eq, found]

private theorem readAll_of_unread {fault : ProtocolFault}
    (found : next input = .ok (some (frame, rest))) (unread : read frame = .error fault) :
    readAll read input = .error fault := by
  rw [readAll_eq, found]
  dsimp only
  rw [unread]

private theorem readAll_of_frame {value : α} (found : next input = .ok (some (frame, rest)))
    (known : read frame = .ok value) :
    readAll read input =
      (readAll read rest).map fun further => (value :: further.1, further.2) := by
  rw [readAll_eq, found]
  dsimp only
  rw [known]
  cases readAll read rest with
  | error fault => rfl
  | ok further => rfl

/-- The values behind the first frame are read from what follows it. -/
theorem readAll_ok_of_frame {values : List α} {left : Bytes}
    (found : next input = .ok (some (frame, rest)))
    (all : readAll read input = .ok (values, left)) :
    ∃ value others, read frame = .ok value ∧ readAll read rest = .ok (others, left) ∧
      values = value :: others := by
  cases known : read frame with
  | error fault =>
      rw [readAll_of_unread found known] at all
      cases all
  | ok value =>
      rw [readAll_of_frame found known] at all
      cases behind : readAll read rest with
      | error fault =>
          rw [behind] at all
          cases all
      | ok further =>
          rw [behind] at all
          cases all
          exact ⟨value, further.1, rfl, rfl, rfl⟩

/-- What was laid out in a stream is read from it, and what follows it is left. -/
theorem readAll_stream {items : List α} {write : α → Frame}
    (fits : ∀ item ∈ items, (write item).Fits)
    (known : ∀ item ∈ items, read (write item) = .ok item) (incomplete : Incomplete rest) :
    readAll read (stream (items.map write) ++ rest) = .ok (items, rest) := by
  induction items with
  | nil => exact readAll_of_partial (next_of_incomplete incomplete)
  | cons item items ih =>
      have found := next_append (write item) (fits item List.mem_cons_self)
        (stream (items.map write) ++ rest)
      have others := ih (fun other member => fits other (List.mem_cons_of_mem _ member))
        (fun other member => known other (List.mem_cons_of_mem _ member))
      rw [List.map_cons, stream_cons, List.append_assoc,
        readAll_of_frame found (known item List.mem_cons_self), others]
      rfl

end

theorem split_stream {frames : List Frame} (fits : ∀ frame ∈ frames, frame.Fits) :
    split (stream frames) = .ok (frames, []) := by
  have divided : split (stream (frames.map id) ++ []) = .ok (frames, []) :=
    readAll_stream fits (fun frame _ => rfl) incomplete_nil
  rw [List.append_nil, List.map_id] at divided
  exact divided

end PgClient.Frame
