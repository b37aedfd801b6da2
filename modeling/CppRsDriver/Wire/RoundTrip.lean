import CppRsDriver.Wire.Decode
import CppRsDriver.Wire.Serialize
import Mathlib.Data.List.Forall2

/-! A value laid out as a column expects is read back from its bytes. -/
namespace CppRsDriver.Wire

open CppRsDriver.Lib CppRsDriver.Types

section Layout
variable {D : Type}

def cqlValueWith : ValueLayer D CqlValue → CqlValue
  | .scalar s => .scalar (plain s)
  | .tuple _ fields => .tuple fields
  | .list _ values => .list values
  | .map _ values => .map values
  | .set _ values => .set values
  | .vector _ _ values => .vector values
  | .userDefinedType _ fields => .userDefinedType fields

/-- What a value says, without the data types it was built from. -/
def cqlValue : CassCqlValue D → CqlValue := CassCqlValue.fold cqlValueWith

/-- The shape of a value is the shape a column expects, down to the encoding of the
elements of its vectors. -/
inductive Fits (variableLength : D → Bool) (sizes : NativeType → Option Nat) :
    CassCqlValue D → ColumnType → Prop where
  | scalar (s t) (compatible : s.isTypeCompatible t.toValueType = true) :
      Fits variableLength sizes (.scalar s) (.native t)
  | tuple (dataType fields types) (length : fields.length = types.length)
      (sub : ∀ v c, (some v, c) ∈ fields.zip types → Fits variableLength sizes v c) :
      Fits variableLength sizes (.tuple dataType fields) (.tuple types)
  | list (dataType values c frozen) (sub : ∀ v ∈ values, Fits variableLength sizes v c) :
      Fits variableLength sizes (.list dataType values) (.list c frozen)
  | set (dataType values c frozen) (sub : ∀ v ∈ values, Fits variableLength sizes v c) :
      Fits variableLength sizes (.set dataType values) (.set c frozen)
  | map (dataType values key value frozen)
      (keys : ∀ pair ∈ values, Fits variableLength sizes pair.1 key)
      (vals : ∀ pair ∈ values, Fits variableLength sizes pair.2 value) :
      Fits variableLength sizes (.map dataType values) (.map key value frozen)
  | vector (dataType elementType values c dimensions)
      (length : values.length = dimensions.toNat)
      (encoding : variableLength elementType = (fixedSize sizes c).isNone)
      (sub : ∀ v, some v ∈ values → Fits variableLength sizes v c) :
      Fits variableLength sizes (.vector dataType elementType values) (.vector c dimensions)
  | userDefinedType (dataType fields fieldTypes keyspace name frozen)
      (names : fields.map Prod.fst = fieldTypes.map Prod.fst)
      (sub : ∀ field v fieldType, (field, fieldType) ∈ fields.zip fieldTypes → field.2 = some v →
        Fits variableLength sizes v fieldType.2) :
      Fits variableLength sizes (.userDefinedType dataType fields)
        (.userDefinedType fieldTypes keyspace name frozen)

end Layout

theorem counted_eq_ok {count : Nat} {tooMany : SerializationError}
    {elements : Except SerializationError (List UInt8)} {bytes : List UInt8}
    (written : counted count tooMany elements = .ok bytes) :
    count < 2 ^ 31 ∧ ∃ rest, elements = .ok rest ∧ bytes = beBytes 4 count ++ rest := by
  unfold counted at written
  split at written
  · rename_i small
    cases elements with
    | error e => contradiction
    | ok rest => exact ⟨small, rest, rfl, (Except.ok.inj written).symm⟩
  · contradiction

theorem forall₂_replicate {α ι : Type} (read : Reader α) (items : List ι) :
    List.Forall₂ (fun _ r => r = read) items (List.replicate items.length read) := by
  induction items with
  | nil => exact .nil
  | cons item items ih => exact .cons rfl ih

theorem reads_counted {α ι : Type} (read : Reader α) (value : ι → α) {items : List ι}
    {chunks : List (List UInt8)} {written : ι → List UInt8 → Prop} (few : items.length < 2 ^ 31)
    (writes : List.Forall₂ written items chunks)
    (each : ∀ item chunk, written item chunk → Reads read chunk (value item)) :
    Reads (readCounted read) (beBytes 4 items.length ++ chunks.flatten) (items.map value) := by
  have count := reads_readNat 4 items.length
  have whole : items.length % 256 ^ 4 = items.length := Nat.mod_eq_of_lt (by omega)
  rw [whole] at count
  apply count.andThen
  rw [if_pos few]
  refine Reads.sequence value writes (forall₂_replicate read items) ?_
  rintro item chunk r wrote rfl
  exact each item chunk wrote

theorem length_le_flatten {chunk : List UInt8} {chunks : List (List UInt8)} (member : chunk ∈ chunks) :
    chunk.length ≤ chunks.flatten.length :=
  (List.sublist_flatten_of_mem member).length_le

section RoundTrip
variable {D : Type} {variableLength : D → Bool} {sizes : NativeType → Option Nat}

/-- The content of the value, if it is not too long, is decoded as `x`. -/
def DecodesAs (variableLength : D → Bool) (decode : List UInt8 → Option CqlValue)
    (v : CassCqlValue D) : Prop :=
  ∀ bytes, content variableLength v = .ok bytes → bytes.length < 2 ^ 31 →
    decode bytes = some (cqlValue v)

theorem reads_element {decode : List UInt8 → Option CqlValue} {v : CassCqlValue D}
    {cell : List UInt8} (decodes : DecodesAs variableLength decode v)
    (written : doSerialize variableLength v .sized = .ok cell) :
    Reads (readElement decode) cell (cqlValue v) := by
  obtain ⟨bytes, inner, small, rfl⟩ := sized_eq_ok written
  exact (reads_cell small).filterMap (decodes bytes inner small)

theorem reads_field {decode : List UInt8 → Option CqlValue} {field : Option (CassCqlValue D)}
    {cell : List UInt8} (decodes : ∀ v, field = some v → DecodesAs variableLength decode v)
    (null : field = none → cell = nullCell)
    (written : ∀ v, field = some v → doSerialize variableLength v .sized = .ok cell) :
    Reads (readField decode) cell (field.map cqlValue) := by
  cases field with
  | none =>
    rw [null rfl]
    exact reads_null.filterMap rfl
  | some v =>
    obtain ⟨bytes, inner, small, rfl⟩ := sized_eq_ok (written v rfl)
    apply (reads_cell small).filterMap
    simp only [decodes v rfl bytes inner small, Option.map_some]

theorem vectorElement_eq_ok {prefixed : Bool} {index : Nat} {element : Option (CassCqlValue D)}
    {chunk : List UInt8}
    (written : vectorElement prefixed index (element.map (doSerialize variableLength)) = .ok chunk) :
    ∃ v bytes, element = some v ∧ content variableLength v = .ok bytes ∧
      chunk = if prefixed then unsignedVintEncode (UInt64.ofNat bytes.length) ++ bytes else bytes := by
  cases element with
  | none => contradiction
  | some v =>
    obtain ⟨bytes, inner, is⟩ := bind_eq_ok.mp written
    exact ⟨v, bytes, rfl, mapError_eq_ok.mp inner, (Except.ok.inj is).symm⟩

theorem reads_vectorElement {α : Type} {decode : List UInt8 → Option α} {size : Option Nat}
    {bytes : List UInt8} {x : α} (small : bytes.length < 2 ^ 31) (is : decode bytes = some x)
    (fixed : ∀ k, size = some k → bytes.length = k) :
    Reads (readVectorElement decode size)
      (if size.isNone then unsignedVintEncode (UInt64.ofNat bytes.length) ++ bytes else bytes)
      (some x) := by
  have decoded : (decode bytes).map some = some (some x) := by
    rw [is, Option.map_some]
  cases size with
  | some k =>
    cases fixed k rfl
    exact (Reads.take bytes).filterMap decoded
  | none =>
    have count := reads_unsignedVint (UInt64.ofNat bytes.length)
    rw [UInt64.toNat_ofNat_of_lt' (by omega : bytes.length < 2 ^ 64)] at count
    exact (count.andThen (Reads.take bytes)).filterMap decoded

theorem length_flatten_const {ι : Type} {k : Nat} {items : List ι} {chunks : List (List UInt8)}
    (each : List.Forall₂ (fun _ chunk => chunk.length = k) items chunks) :
    chunks.flatten.length = k * items.length := by
  induction each with
  | nil => rfl
  | cons head tail ih =>
    rw [List.flatten_cons, List.length_append, head, ih, List.length_cons, Nat.mul_succ]
    omega

theorem length_content_vector {dataType elementType : D} {values : List (Option (CassCqlValue D))}
    {size : Nat} {bytes : List UInt8} (fixed : variableLength elementType = false)
    (each : ∀ v, some v ∈ values →
      ∀ bytes, content variableLength v = .ok bytes → bytes.length = size)
    (written : content variableLength (.vector dataType elementType values) = .ok bytes) :
    bytes.length = size * values.length := by
  rw [content_vector, fixed] at written
  obtain ⟨chunks, rfl, wrote⟩ := writeEach_ok written
  apply length_flatten_const
  refine wrote.imp ?_
  rintro item chunk ⟨member, -, i, wrote⟩
  obtain ⟨v, bytes, rfl, inner, is⟩ := vectorElement_eq_ok wrote
  rw [is]
  exact each v member bytes inner

theorem length_content (standard : ∀ t k, sizes t = some k → standardSize t = some k)
    {v : CassCqlValue D} {c : ColumnType} (fits : Fits variableLength sizes v c) :
    ∀ k bytes, fixedSize sizes c = some k → content variableLength v = .ok bytes →
      bytes.length = k := by
  induction fits with
  | scalar s t compatible =>
    intro k bytes fixed written
    cases Except.ok.inj written
    exact length_scalarBytes s t k compatible (standard t k fixed)
  | vector dataType elementType values c dimensions length encoding sub ih =>
    intro k bytes fixed written
    simp only [fixedSize, Option.map_eq_some_iff] at fixed
    obtain ⟨size, element, rfl⟩ := fixed
    rw [element] at encoding
    rw [← length]
    exact length_content_vector encoding (fun v member bytes => ih v member size bytes element) written
  | _ => intro k bytes fixed; contradiction

theorem reads_tupleCell {decode : List UInt8 → Option CqlValue} {field : Option (CassCqlValue D)}
    {index : Nat} {cell : List UInt8}
    (decodes : ∀ v, field = some v → DecodesAs variableLength decode v)
    (written : tupleCell index (field.map (doSerialize variableLength)) = .ok cell) :
    Reads (readField decode) cell (field.map cqlValue) := by
  refine reads_field decodes ?_ ?_
  · rintro rfl
    exact (Except.ok.inj written).symm
  · rintro v rfl
    exact mapError_eq_ok.mp written

theorem reads_udtCell {decode : List UInt8 → Option CqlValue}
    {field : String × Option (CassCqlValue D)} {index : Nat} {cell : List UInt8}
    (decodes : ∀ v, field.2 = some v → DecodesAs variableLength decode v)
    (written : udtCell index (field.1, field.2.map (doSerialize variableLength)) = .ok cell) :
    Reads (readNamed decode field.1) cell (field.1, field.2.map cqlValue) := by
  obtain ⟨name, value⟩ := field
  have cells : Reads (readField decode) cell (value.map cqlValue) := by
    refine reads_field decodes ?_ ?_
    · rintro rfl
      exact (Except.ok.inj written).symm
    · rintro v rfl
      exact mapError_eq_ok.mp written
  exact cells.filterMap rfl

theorem complete_elements {decode : List UInt8 → Option CqlValue} {dataType : Option D}
    {values : List (CassCqlValue D)} {bytes : List UInt8}
    (decodes : ∀ v ∈ values, DecodesAs variableLength decode v)
    (written : content variableLength (.list dataType values) = .ok bytes) :
    (readCounted (readElement decode)).complete bytes = some (values.map cqlValue) := by
  rw [content_list] at written
  obtain ⟨few, rest, elements, rfl⟩ := counted_eq_ok written
  obtain ⟨chunks, rfl, each⟩ := writeEach_ok elements
  have reads := reads_counted (readElement decode) cqlValue few each
    (by
      rintro v chunk ⟨member, -, i, wrote⟩
      exact reads_element (decodes v member) (mapError_eq_ok.mp wrote))
  exact reads.complete

theorem reads_mapCells {decodeKey decodeValue : List UInt8 → Option CqlValue}
    {pair : CassCqlValue D × CassCqlValue D} {index : Nat} {cells : List UInt8}
    (keys : DecodesAs variableLength decodeKey pair.1)
    (values : DecodesAs variableLength decodeValue pair.2)
    (written : mapCells index
      (doSerialize variableLength pair.1, doSerialize variableLength pair.2) = .ok cells) :
    Reads (readPair decodeKey decodeValue) cells (cqlValue pair.1, cqlValue pair.2) := by
  obtain ⟨keyCell, key, written⟩ := bind_eq_ok.mp written
  obtain ⟨valueCell, value, written⟩ := bind_eq_ok.mp written
  cases Except.ok.inj written
  have first := reads_element keys (mapError_eq_ok.mp key)
  have second := reads_element values (mapError_eq_ok.mp value)
  exact first.andThen (second.filterMap rfl)

theorem decodesAs_tuple {dataType : Option D} {fields : List (Option (CassCqlValue D))}
    {types : List ColumnType} (length : fields.length = types.length)
    (decodes : ∀ v c, (some v, c) ∈ fields.zip types →
      DecodesAs variableLength (decodeValue sizes c) v) :
    DecodesAs variableLength (decodeValue sizes (.tuple types)) (.tuple dataType fields) := by
  intro bytes written small
  rw [content_tuple] at written
  obtain ⟨chunks, rfl, each⟩ := writeEach_ok written
  have belongs : List.Forall₂ (fun field read => ∃ c, (field, c) ∈ fields.zip types ∧
      read = readField (decodeValue sizes c)) fields (fieldReaders sizes types) := by
    rw [fieldReaders_eq, List.forall₂_map_right_iff]
    exact List.forall₂_iff_zip.mpr ⟨length, fun member => ⟨_, member, rfl⟩⟩
  have reads := Reads.sequence (Option.map cqlValue) each belongs (by
    rintro field chunk read ⟨-, -, i, wrote⟩ ⟨c, member, rfl⟩
    exact reads_tupleCell (fun v is => decodes v c (is ▸ member)) wrote)
  rw [decodeValue, reads.complete, cqlValue, CassCqlValue.fold, CassCqlValue.foldOptions_eq]
  rfl

theorem decodesAs_map {dataType : Option D} {values : List (CassCqlValue D × CassCqlValue D)}
    {key value : ColumnType} {frozen : Bool}
    (keys : ∀ pair ∈ values, DecodesAs variableLength (decodeValue sizes key) pair.1)
    (vals : ∀ pair ∈ values, DecodesAs variableLength (decodeValue sizes value) pair.2) :
    DecodesAs variableLength (decodeValue sizes (.map key value frozen)) (.map dataType values) := by
  intro bytes written small
  rw [content_map] at written
  obtain ⟨few, rest, elements, rfl⟩ := counted_eq_ok written
  obtain ⟨chunks, rfl, each⟩ := writeEach_ok elements
  have reads := reads_counted (readPair (decodeValue sizes key) (decodeValue sizes value))
    (fun pair => (cqlValue pair.1, cqlValue pair.2)) few each
    (by
      rintro pair chunk ⟨member, -, i, wrote⟩
      exact reads_mapCells (keys pair member) (vals pair member) wrote)
  rw [decodeValue, reads.complete, cqlValue, CassCqlValue.fold, CassCqlValue.foldPairs_eq]
  rfl

theorem decodesAs_vector {dataType elementType : D} {values : List (Option (CassCqlValue D))}
    {c : ColumnType} {dimensions : UInt16} (length : values.length = dimensions.toNat)
    (encoding : variableLength elementType = (fixedSize sizes c).isNone)
    (sized : ∀ v, some v ∈ values → ∀ k bytes, fixedSize sizes c = some k →
      content variableLength v = .ok bytes → bytes.length = k)
    (decodes : ∀ v, some v ∈ values → DecodesAs variableLength (decodeValue sizes c) v) :
    DecodesAs variableLength (decodeValue sizes (.vector c dimensions))
      (.vector dataType elementType values) := by
  intro bytes written small
  rw [content_vector, encoding] at written
  obtain ⟨chunks, rfl, each⟩ := writeEach_ok written
  have reads := Reads.sequence (Option.map cqlValue) each
    (forall₂_replicate (readVectorElement (decodeValue sizes c) (fixedSize sizes c)) values) (by
    rintro item chunk read ⟨member, inChunks, i, wrote⟩ rfl
    obtain ⟨v, bytes, rfl, inner, rfl⟩ := vectorElement_eq_ok wrote
    -- an element is no longer than the whole
    have short : bytes.length < 2 ^ 31 := by
      have le := length_le_flatten inChunks
      split at le
      · rw [List.length_append] at le
        omega
      · omega
    exact reads_vectorElement short (decodes v member bytes inner short)
      (fun k fixed => sized v member k bytes fixed inner))
  rw [decodeValue, ← length, reads.complete, cqlValue, CassCqlValue.fold,
    CassCqlValue.foldOptions_eq]
  rfl

theorem decodesAs_userDefinedType {dataType : D} {fields : List (String × Option (CassCqlValue D))}
    {fieldTypes : List (String × ColumnType)} {keyspace name : String} {frozen : Bool}
    (names : fields.map Prod.fst = fieldTypes.map Prod.fst)
    (decodes : ∀ field v fieldType, (field, fieldType) ∈ fields.zip fieldTypes → field.2 = some v →
      DecodesAs variableLength (decodeValue sizes fieldType.2) v) :
    DecodesAs variableLength (decodeValue sizes (.userDefinedType fieldTypes keyspace name frozen))
      (.userDefinedType dataType fields) := by
  intro bytes written small
  rw [content_userDefinedType] at written
  obtain ⟨chunks, rfl, each⟩ := writeEach_ok written
  have sameNames : List.Forall₂ (fun field fieldType => field.1 = fieldType.1)
      fields fieldTypes := by
    have eq : List.Forall₂ (· = ·) (fields.map Prod.fst) (fieldTypes.map Prod.fst) := by
      rw [names, List.forall₂_eq_eq_eq]
    rwa [List.forall₂_map_left_iff, List.forall₂_map_right_iff] at eq
  have belongs : List.Forall₂ (fun field read => ∃ fieldType,
      (field, fieldType) ∈ fields.zip fieldTypes ∧ field.1 = fieldType.1 ∧
        read = readNamed (decodeValue sizes fieldType.2) fieldType.1)
      fields (namedReaders sizes fieldTypes) := by
    rw [namedReaders_eq, List.forall₂_map_right_iff]
    exact List.forall₂_iff_zip.mpr ⟨sameNames.length_eq, fun member =>
      ⟨_, member, List.forall₂_zip sameNames member, rfl⟩⟩
  have reads := Reads.sequence (fun field => (field.1, field.2.map cqlValue)) each belongs (by
    rintro field chunk read ⟨-, -, i, wrote⟩ ⟨fieldType, member, same, rfl⟩
    rw [← same]
    exact reads_udtCell (fun v is => decodes field v fieldType member is) wrote)
  rw [decodeValue, reads.complete, cqlValue, CassCqlValue.fold, CassCqlValue.foldNamed_eq]
  rfl

/-- A value that fits a column is decoded from its content. -/
theorem decodesAs_of_fits (standard : ∀ t k, sizes t = some k → standardSize t = some k)
    {v : CassCqlValue D} {c : ColumnType} (fits : Fits variableLength sizes v c) :
    DecodesAs variableLength (decodeValue sizes c) v := by
  induction fits with
  | scalar s t compatible =>
    intro bytes written small
    cases Except.ok.inj written
    rw [decodeValue, decodeScalar_scalarBytes s t compatible]
    rfl
  | tuple dataType fields types length sub ih => exact decodesAs_tuple length ih
  | list dataType values c frozen sub ih =>
    intro bytes written small
    rw [decodeValue, complete_elements ih written, cqlValue, CassCqlValue.fold,
      CassCqlValue.foldList_eq]
    rfl
  | set dataType values c frozen sub ih =>
    intro bytes written small
    rw [content_set] at written
    rw [decodeValue, complete_elements ih written, cqlValue, CassCqlValue.fold,
      CassCqlValue.foldList_eq]
    rfl
  | map dataType values key value frozen keys vals keyIh valueIh =>
    exact decodesAs_map keyIh valueIh
  | vector dataType elementType values c dimensions length encoding sub ih =>
    exact decodesAs_vector length encoding
      (fun v member k bytes fixed inner => length_content standard (sub v member) k bytes fixed inner) ih
  | userDefinedType dataType fields fieldTypes keyspace name frozen names sub ih =>
    exact decodesAs_userDefinedType names ih

end RoundTrip

end CppRsDriver.Wire
