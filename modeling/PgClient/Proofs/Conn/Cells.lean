/-
The ways to the columns of a row.

A column is asked for by its place or by its name, comes up when the columns are gone through,
or is read as a component of a tuple. The fields and the values of a row are two lists, and
every way looks into both of them. In a row that has a value for each field all ways lead to
the same column, none leads beside the lists, and the rows of a session are such rows.
-/

import PgClient.Proofs.Conn.Filled

namespace PgClient

def Column.asSlot (column : Column) (slot : Row.Slot) : Except DecodeFault (Option Scalar) :=
  if slot.nullable then column.decodeOption slot.type else (column.decode slot.type).map some

namespace Row

variable {fields : List Field} {row : Row} {place : Nat}

/-! ### Agreement -/

/-- All ways to a place lead to a column, of the field and the value that stand there. -/
structure LeadsTo (fields : List Field) (row : Row) (place : Nat) (column : Column) : Prop where
  field : ∃ field, fields[place]? = some field ∧ field.name = column.name ∧
    field.typeOid = column.oid
  value : row.values[place]? = some column.value
  raw : row.raw place = column.value
  asked : row.column (.place place) = .ok column
  get : ∀ type, row.get (.place place) type = column.decode type
  getOption : ∀ type, row.getOption (.place place) type = column.decodeOption type
  item : row.columns[place]? = some column
  component : ∀ slot, row.slot place slot = column.asSlot slot

structure LeadsNowhere (row : Row) (place : Nat) : Prop where
  raw : row.raw place = none
  asked : row.column (.place place) = .error (.indexOutOfBounds place)
  get : ∀ type, row.get (.place place) type = .error (.indexOutOfBounds place)
  getOption : ∀ type, row.getOption (.place place) type = .error (.indexOutOfBounds place)
  item : row.columns[place]? = none
  component : ∀ slot, row.slot place slot = .error (.indexOutOfBounds place)

structure SameWay (row : Row) (index other : ColumnIndex) : Prop where
  asked : row.column index = row.column other
  get : ∀ type, row.get index type = row.get other type
  getOption : ∀ type, row.getOption index type = row.getOption other type

structure Agrees (fields : List Field) (row : Row) : Prop where
  length : row.length = fields.length
  items : row.columns.length = row.length
  inside : ∀ place, place < fields.length → ∃ column, row.LeadsTo fields place column
  outside : ∀ place, fields.length ≤ place → row.LeadsNowhere place
  /-- Of several fields of one name the first is meant. -/
  named : ∀ place field, fields[place]? = some field →
    (∀ earlier other, earlier < place → fields[earlier]? = some other → other.name ≠ field.name) →
      row.SameWay (.named field.name) (.place place)
  notFound : ∀ name fault, row.column (.named name) = .error fault ↔
    (∀ field ∈ fields, field.name ≠ name) ∧ fault = .columnNotFound name
  /-- Whatever is asked for, both lists are looked into only where they reach. -/
  within : ∀ (index : ColumnIndex) place, index.position row.fields = .ok place →
    place < row.fields.length ∧ place < row.values.length
  /-- A tuple is made of the first columns, one for each component. -/
  tuple : ∀ slots values, row.tuple slots = .ok values ↔
    values.length = slots.length ∧ ∀ place slot, slots[place]? = some slot →
      ∃ value, values[place]? = some value ∧ row.slot place slot = .ok value
  /-- The first component that cannot be read decides. -/
  noTuple : ∀ slots fault, row.tuple slots = .error fault ↔
    ∃ before slot after values, slots = before ++ slot :: after ∧
      row.tuple before = .ok values ∧ row.slot before.length slot = .error fault

/-! ### Places -/

private theorem get_eq (row : Row) (index : ColumnIndex) (type : ScalarType) :
    row.get index type = row.column index >>= Column.decode type := by
  unfold get
  cases row.column index with
  | error fault => rfl
  | ok column => rfl

private theorem getOption_eq (row : Row) (index : ColumnIndex) (type : ScalarType) :
    row.getOption index type = row.column index >>= Column.decodeOption type := by
  unfold getOption
  cases row.column index with
  | error fault => rfl
  | ok column => rfl

private theorem slot_eq (row : Row) (place : Nat) (slot : Slot) :
    row.slot place slot = row.column (.place place) >>= fun column => column.asSlot slot := by
  unfold Row.slot Column.asSlot
  rw [get_eq, getOption_eq]
  cases row.column (.place place) with
  | error fault =>
      split
      · rfl
      · rfl
  | ok column => rfl

private theorem SameWay.of_column {index other : ColumnIndex}
    (asked : row.column index = row.column other) : row.SameWay index other where
  asked := asked
  get type := by rw [get_eq, get_eq, asked]
  getOption type := by rw [getOption_eq, getOption_eq, asked]

private theorem Fills.leadsTo (fills : row.Fills fields) (inside : place < fields.length) :
    ∃ column, row.LeadsTo fields place column := by
  obtain ⟨shared, count⟩ := fills
  have hasValue : place < row.values.length := by omega
  let column : Column :=
    { name := fields[place].name, oid := fields[place].typeOid, value := row.values[place] }
  have fieldThere : fields[place]? = some fields[place] := List.getElem?_eq_getElem inside
  have valueThere : row.values[place]? = some row.values[place] :=
    List.getElem?_eq_getElem hasValue
  have asked : row.column (.place place) = .ok column := by
    simp only [Row.column, ColumnIndex.position, shared, if_pos inside, fieldThere, valueThere]
    rfl
  refine ⟨column, ⟨fields[place], fieldThere, rfl, rfl⟩, valueThere, ?_, asked, ?_, ?_, ?_, ?_⟩
  · rw [raw, valueThere]
    rfl
  · intro type
    rw [get_eq, asked]
    rfl
  · intro type
    rw [getOption_eq, asked]
    rfl
  · rw [columns, shared, List.getElem?_zipWith, fieldThere, valueThere]
  · intro slot
    rw [slot_eq, asked]
    rfl

private theorem Fills.leadsNowhere (fills : row.Fills fields) (outside : fields.length ≤ place) :
    row.LeadsNowhere place := by
  obtain ⟨shared, count⟩ := fills
  have noField : fields[place]? = none := List.getElem?_eq_none outside
  have noValue : row.values[place]? = none := List.getElem?_eq_none (by omega)
  have asked : row.column (.place place) = .error (.indexOutOfBounds place) := by
    have beyond : ¬(place < fields.length) := by omega
    simp only [Row.column, ColumnIndex.position, shared, if_neg beyond]
  refine ⟨?_, asked, ?_, ?_, ?_, ?_⟩
  · rw [raw, noValue]
    rfl
  · intro type
    rw [get_eq, asked]
    rfl
  · intro type
    rw [getOption_eq, asked]
    rfl
  · rw [columns, shared, List.getElem?_zipWith, noField]
  · intro slot
    rw [slot_eq, asked]
    rfl

/-! ### Names -/

private theorem position_lt {index : ColumnIndex} (found : index.position fields = .ok place) :
    place < fields.length := by
  cases index with
  | place asked =>
      rw [ColumnIndex.position] at found
      split at found
      · rename_i inside
        cases found
        exact inside
      · cases found
  | named name =>
      simp only [ColumnIndex.position] at found
      split at found
      · rename_i first isFirst
        cases found
        exact (List.findIdx?_eq_some_iff_getElem.mp isFirst).1
      · cases found

private theorem position_of_first {field : Field} (there : fields[place]? = some field)
    (first : ∀ earlier other, earlier < place → fields[earlier]? = some other →
      other.name ≠ field.name) :
    (ColumnIndex.named field.name).position fields = .ok place := by
  obtain ⟨inside, same⟩ := List.getElem?_eq_some_iff.mp there
  have found : fields.findIdx? (fun other => other.name == field.name) = some place := by
    rw [List.findIdx?_eq_some_iff_getElem]
    refine ⟨inside, ?_, ?_⟩
    · rw [same]
      exact beq_self_eq_true field.name
    · intro earlier before
      rw [beq_iff_eq]
      exact first earlier fields[earlier] before (List.getElem?_eq_getElem _)
  rw [ColumnIndex.position, found]

private theorem position_named_eq_error {name : String} {fault : DecodeFault} :
    (ColumnIndex.named name).position fields = .error fault ↔
      (∀ field ∈ fields, field.name ≠ name) ∧ fault = .columnNotFound name := by
  rw [ColumnIndex.position]
  cases found : fields.findIdx? (fun field => field.name == name) with
  | none =>
      have absent : ∀ field ∈ fields, field.name ≠ name := by
        intro field member
        have other := List.findIdx?_eq_none_iff.mp found field member
        exact fun same => by simp [same] at other
      constructor
      · intro same
        cases same
        exact ⟨absent, rfl⟩
      · rintro ⟨_, rfl⟩
        rfl
  | some place =>
      obtain ⟨inside, same, _⟩ := List.findIdx?_eq_some_iff_getElem.mp found
      constructor
      · intro impossible
        cases impossible
      · rintro ⟨absent, _⟩
        exact absurd (beq_iff_eq.mp same) (absent fields[place] (List.getElem_mem inside))

/-- A column that is found in a place is the column there. -/
theorem Fills.column_of_position (fills : row.Fills fields) {index : ColumnIndex}
    (found : index.position fields = .ok place) :
    row.column index = row.column (.place place) := by
  have same : (ColumnIndex.place place).position fields = .ok place := by
    rw [ColumnIndex.position, if_pos (position_lt found)]
  unfold Row.column
  rw [fills.1, found, same]

private theorem Fills.column_named_eq_error (fills : row.Fills fields) (name : String)
    (fault : DecodeFault) :
    row.column (.named name) = .error fault ↔
      (∀ field ∈ fields, field.name ≠ name) ∧ fault = .columnNotFound name := by
  rw [← position_named_eq_error]
  cases found : (ColumnIndex.named name).position fields with
  | error missing =>
      rw [Row.column, fills.1, found]
      constructor
      · intro same
        cases same
        rfl
      · intro same
        cases same
        rfl
  | ok place =>
      obtain ⟨column, leads⟩ := fills.leadsTo (position_lt found)
      rw [fills.column_of_position found, leads.asked]
      constructor
      · intro impossible
        cases impossible
      · intro impossible
        cases impossible

/-! ### Tuples -/

private theorem tupleFrom_cons (row : Row) (place : Nat) (first : Slot) (rest : List Slot) :
    row.tupleFrom place (first :: rest) =
      row.slot place first >>= fun value =>
        row.tupleFrom (place + 1) rest >>= fun values => .ok (value :: values) := by
  rw [tupleFrom]
  cases row.slot place first with
  | error fault => rfl
  | ok value =>
      dsimp only [bind, Except.bind]
      cases row.tupleFrom (place + 1) rest with
      | error fault => rfl
      | ok values => rfl

private theorem tupleFrom_append (row : Row) (place : Nat) (before after : List Slot) :
    row.tupleFrom place (before ++ after) =
      row.tupleFrom place before >>= fun values =>
        row.tupleFrom (place + before.length) after >>= fun others =>
          .ok (values ++ others) := by
  induction before generalizing place with
  | nil =>
      change row.tupleFrom place after = row.tupleFrom place after >>= pure
      rw [bind_pure]
  | cons first rest ih =>
      have further : place + (first :: rest).length = place + 1 + rest.length := by
        rw [List.length_cons]
        omega
      rw [List.cons_append, tupleFrom_cons, tupleFrom_cons, ih, further]
      simp only [bind_assoc]
      rfl

private theorem tupleFrom_eq_ok_iff {slots : List Slot} {values : List (Option Scalar)} :
    row.tupleFrom place slots = .ok values ↔
      values.length = slots.length ∧ ∀ further slot, slots[further]? = some slot →
        ∃ value, values[further]? = some value ∧ row.slot (place + further) slot = .ok value := by
  induction slots generalizing place values with
  | nil =>
      rw [tupleFrom, List.length_nil, List.length_eq_zero_iff]
      constructor
      · intro same
        cases same
        exact ⟨rfl, nofun⟩
      · rintro ⟨rfl, _⟩
        rfl
  | cons first rest ih =>
      have shift : ∀ further, place + (further + 1) = place + 1 + further := by
        intro further
        omega
      rw [tupleFrom]
      constructor
      · intro read
        split at read
        · cases read
        rename_i value isFirst
        split at read
        · cases read
        rename_i others areOthers
        cases read
        obtain ⟨count, each⟩ := ih.mp areOthers
        refine ⟨congrArg Nat.succ count, ?_⟩
        intro further slot there
        cases further with
        | zero =>
            cases there
            exact ⟨value, rfl, isFirst⟩
        | succ further =>
            rw [shift]
            exact each further slot there
      · rintro ⟨count, each⟩
        obtain ⟨value, isValue, isFirst⟩ := each 0 first rfl
        cases values with
        | nil => cases isValue
        | cons head others =>
            cases isValue
            have areOthers : row.tupleFrom (place + 1) rest = .ok others := by
              refine ih.mpr ⟨Nat.succ.inj count, ?_⟩
              intro further slot there
              rw [← shift]
              exact each (further + 1) slot there
            rw [Nat.add_zero] at isFirst
            simp only [isFirst, areOthers]

private theorem tupleFrom_eq_error_iff {slots : List Slot} {fault : DecodeFault} :
    row.tupleFrom place slots = .error fault ↔
      ∃ before slot after values, slots = before ++ slot :: after ∧
        row.tupleFrom place before = .ok values ∧
          row.slot (place + before.length) slot = .error fault := by
  constructor
  · intro fails
    induction slots generalizing place with
    | nil => cases fails
    | cons first rest ih =>
        rw [tupleFrom_cons] at fails
        cases isFirst : row.slot place first with
        | error failure =>
            rw [isFirst] at fails
            cases fails
            exact ⟨[], first, rest, [], rfl, rfl, isFirst⟩
        | ok value =>
            rw [isFirst] at fails
            cases areOthers : row.tupleFrom (place + 1) rest with
            | ok values =>
                simp only [areOthers] at fails
                cases fails
            | error failure =>
                simp only [areOthers] at fails
                cases fails
                obtain ⟨before, slot, after, values, whole, read, decides⟩ := ih areOthers
                refine ⟨first :: before, slot, after, value :: values, ?_, ?_, ?_⟩
                · rw [whole, List.cons_append]
                · rw [tupleFrom_cons, isFirst, read]
                  rfl
                · rw [List.length_cons, Nat.add_comm before.length, ← Nat.add_assoc]
                  exact decides
  · rintro ⟨before, slot, after, values, rfl, read, decides⟩
    rw [tupleFrom_append, read, tupleFrom_cons, decides]
    rfl

/-! ### Rows that are filled -/

private theorem Fills.agrees (fills : row.Fills fields) : row.Agrees fields where
  length := fills.2
  items := by
    have count : row.values.length = fields.length := fills.2
    rw [columns, List.length_zipWith, fills.1, length]
    omega
  inside _ inside := fills.leadsTo inside
  outside _ outside := fills.leadsNowhere outside
  named _ field there first :=
    SameWay.of_column (fills.column_of_position (position_of_first there first))
  notFound := fills.column_named_eq_error
  within index _ found := by
    have inside := position_lt found
    rw [fills.1] at inside ⊢
    rw [fills.2]
    exact ⟨inside, inside⟩
  tuple slots values := by
    have read : row.tupleFrom 0 slots = .ok values ↔ _ := tupleFrom_eq_ok_iff
    simpa only [tuple, Nat.zero_add] using read
  noTuple slots fault := by
    have read : row.tupleFrom 0 slots = .error fault ↔ _ := tupleFrom_eq_error_iff
    simpa only [tuple, Nat.zero_add] using read

end Row

/-! ### Any session with any server -/

/-- Whatever is on the other end, in the rows of every result that has come to wait in a session
all ways to a column agree. -/
theorem Conn.results_agree (config : Config) (nonces : Nat → String)
    (dial : Address → Except IoFault Link) (deeds : List Deed) :
    let reached := (Conn.connect config nonces dial).2.course deeds
    ∀ result ∈ reached.results.toList, ∀ row ∈ result.rows, row.Agrees result.fields := by
  intro reached result waiting row member
  have opened : (Conn.connect config nonces dial).2.Filled := .connect config nonces dial
  have filled : reached.Filled :=
    Conn.course_keeps (fun _ deed filled => filled.perform deed) opened deeds
  have fills : row.Fills result.fields := filled.results result waiting row member
  exact fills.agrees

/-- A server that answers with two columns of one name, of which the second holds no value. -/
def twins (_ : Address) : Except IoFault Link :=
  let described : BackendMessage :=
    .rowDescription 2 ((Field.ofType "n" Oid.int4).bytes ++ (Field.ofType "n" Oid.text).bytes)
  let row : BackendMessage := .dataRow 2 [0, 0, 0, 1, 55, 255, 255, 255, 255]
  .ok
    { arrivals :=
        [.data (Frame.stream [(BackendMessage.authentication .ok).frame,
            (BackendMessage.readyForQuery 73).frame]),
          .data (Frame.stream [described.frame, row.frame,
            (BackendMessage.commandComplete "SELECT 1").frame,
            (BackendMessage.readyForQuery 73).frame])] }

theorem Conn.results_agree_twins :
    let deeds : List Deed := [.send (.query "select 7 n, null n"), .flush, .consume]
    let reached := (Conn.connect {} (fun _ => "") twins).2.course deeds
    let first : Column := { name := "n", oid := Oid.int4, value := some [55] }
    ∃ result row, result ∈ reached.results.toList ∧ row ∈ result.rows ∧
      row.Agrees result.fields ∧ row.column (.named "n") = .ok first ∧
      row.tuple [⟨.int4, false⟩, ⟨.text, true⟩] = .ok [some (.int4 7), none] := by
  intro deeds reached first
  let fields : List Field := [Field.ofType "n" Oid.int4, Field.ofType "n" Oid.text]
  let row : Row := { fields, values := [some [55], none] }
  let result : QueryResult := { status := .tuplesOk, fields, rows := [row], tag := some "SELECT 1" }
  have answered : reached.results.toList = [result] := by decide +kernel
  have waiting : result ∈ reached.results.toList := by
    rw [answered]
    exact List.mem_singleton_self result
  have member : row ∈ result.rows := List.mem_singleton_self row
  have agrees : row.Agrees result.fields :=
    Conn.results_agree {} (fun _ => "") twins deeds result waiting row member
  exact ⟨result, row, waiting, member, agrees, rfl, rfl⟩

end PgClient
