import CppRsDriver.Result.Payload
import CppRsDriver.Statement.Checked
import CppRsDriver.Types.Arguments
import CppRsDriver.Wire.Soundness

/-! A client reads back what it wrote itself. -/
namespace CppRsDriver.Result.Iteration

open CppRsDriver.Lib CppRsDriver.Types CppRsDriver.Wire
open CppRsDriver.Statement hiding Fits step Call
open Filter (atTop)

/- The two types whose columns reject some of what a compatible value can say. -/
def scalarInRange : NativeType → CassScalar → Bool
  | .time, .bigInt v => v.toNat < nanosecondsPerDay
  | .ascii, .text v => (utf8 v).all (· < 128)
  | _, _ => true

section Range
variable {D : Type}

def inRangeWith : ValueLayer D (ColumnType → Bool) → ColumnType → Bool
  | .scalar s, .native t => scalarInRange t s
  | .tuple _ fields, .tuple types => (fields.zip types).all (fun (field, typ) => field.all (· typ))
  | .list _ values, .list typ _ => values.all (· typ)
  | .set _ values, .set typ _ => values.all (· typ)
  | .map _ values, .map key value _ => values.all (fun pair => pair.1 key && pair.2 value)
  | .vector _ _ values, .vector typ _ => values.all (fun element => element.all (· typ))
  | .userDefinedType _ fields, .userDefinedType fieldTypes _ _ _ =>
    (fields.zip fieldTypes).all (fun (field, fieldType) => field.2.all (· fieldType.2))
  | _, _ => true

/-- No server rejects a part of the value: times of day are within a day and the text for ASCII
columns is ASCII. -/
def inRange : CassCqlValue D → ColumnType → Bool := CassCqlValue.fold inRangeWith

theorem stored_of_inRange {t : NativeType} {s : CassScalar}
    (compatible : s.isTypeCompatible t.toValueType = true)
    (range : inRange (.scalar s : CassCqlValue D) (.native t) = true) : Stored t s where
  compatible := compatible
  time := by
    rintro v rfl rfl
    exact of_decide_eq_true range
  ascii := by
    rintro v rfl rfl b member
    exact of_decide_eq_true (List.all_eq_true.mp range b member)

/- What the condition says of the parts of a value. -/
section Parts
variable {w : CassCqlValue D} {dataType : Option D}

theorem inRange_tuple {fields : List (Option (CassCqlValue D))} {types : List ColumnType}
    (range : inRange (.tuple dataType fields) (.tuple types) = true) {c : ColumnType}
    (member : (some w, c) ∈ fields.zip types) : inRange w c = true := by
  simp only [inRange, CassCqlValue.fold, CassCqlValue.foldOptions_eq, inRangeWith, List.zip_map_left,
    List.all_map, List.all_eq_true] at range
  exact range _ member

theorem inRange_list {values : List (CassCqlValue D)} {c : ColumnType} {frozen : Bool}
    (range : inRange (.list dataType values) (.list c frozen) = true) (member : w ∈ values) :
    inRange w c = true := by
  simp only [inRange, CassCqlValue.fold, CassCqlValue.foldList_eq, inRangeWith, List.all_map,
    List.all_eq_true] at range
  exact range w member

theorem inRange_set {values : List (CassCqlValue D)} {c : ColumnType} {frozen : Bool}
    (range : inRange (.set dataType values) (.set c frozen) = true) (member : w ∈ values) :
    inRange w c = true := by
  simp only [inRange, CassCqlValue.fold, CassCqlValue.foldList_eq, inRangeWith, List.all_map,
    List.all_eq_true] at range
  exact range w member

theorem inRange_map {values : List (CassCqlValue D × CassCqlValue D)} {key value : ColumnType}
    {frozen : Bool} (range : inRange (.map dataType values) (.map key value frozen) = true)
    {pair : CassCqlValue D × CassCqlValue D} (member : pair ∈ values) :
    inRange pair.1 key = true ∧ inRange pair.2 value = true := by
  simp only [inRange, CassCqlValue.fold, CassCqlValue.foldPairs_eq, inRangeWith, List.all_map,
    Bool.and_eq_true, List.all_eq_true, Function.comp_apply] at range
  exact range pair member

theorem inRange_vector {typ elementType : D} {values : List (Option (CassCqlValue D))} {c : ColumnType}
    {dimensions : UInt16} (range : inRange (.vector typ elementType values) (.vector c dimensions) = true)
    (member : some w ∈ values) : inRange w c = true := by
  simp only [inRange, CassCqlValue.fold, CassCqlValue.foldOptions_eq, inRangeWith, List.all_map,
    List.all_eq_true] at range
  exact range _ member

theorem inRange_userDefinedType {typ : D} {fields : List (String × Option (CassCqlValue D))}
    {fieldTypes : List (String × ColumnType)} {keyspace name : String} {frozen : Bool}
    (range : inRange (.userDefinedType typ fields)
      (.userDefinedType fieldTypes keyspace name frozen) = true)
    {field : String × Option (CassCqlValue D)} {fieldType : String × ColumnType}
    (member : (field, fieldType) ∈ fields.zip fieldTypes) (is : field.2 = some w) :
    inRange w fieldType.2 = true := by
  simp only [inRange, CassCqlValue.fold, CassCqlValue.foldNamed_eq, inRangeWith, List.zip_map_left,
    List.all_map, List.all_eq_true] at range
  simpa [is, inRange] using range _ member

end Parts

end Range

section Carries
variable {D : Type} {f : D → Bool} {sizes : NativeType → Option Nat}

/-- The content of a value, if it is not too long, is a cell of the column with the value. -/
def WrittenTo (f : D → Bool) (sizes : NativeType → Option Nat) (c : ColumnType)
    (v : CassCqlValue D) : Prop :=
  ∀ bytes, content f v = .ok bytes → bytes.length < 2 ^ 31 →
    Carries sizes c (some bytes) (seen sizes c (cqlValue v))

def fieldSeen (sizes : NativeType → Option Nat) (c : ColumnType) (field : Option (CassCqlValue D)) :
    Seen :=
  (field.map cqlValue).elim .null (seen sizes c)

theorem Holds.carries {c : ColumnType} {field : Option (CassCqlValue D)} {cell : Option (List UInt8)}
    (holds : Holds f field cell) (written : ∀ v, field = some v → WrittenTo f sizes c v) :
    Framable cell ∧ Carries sizes c cell (fieldSeen sizes c field) := by
  refine ⟨holds.small, ?_⟩
  cases holds with
  | null => exact .null c
  | value v bytes inner small => exact written v rfl bytes inner small

theorem exists_items {c : ColumnType} {dataType : Option D} {values : List (CassCqlValue D)}
    {bytes : List UInt8} (each : ∀ v ∈ values, WrittenTo f sizes c v)
    (written : content f (.list dataType values) = .ok bytes) :
    ∃ items : List Sent, items.map Prod.snd = values.map (fun v => seen sizes c (cqlValue v)) ∧
      items.length < 2 ^ 31 ∧ bytes = beBytes 4 items.length ++ frames (items.map Prod.fst) ∧
      ∀ item ∈ items, Framable item.1 ∧ Carries sizes c item.1 item.2 := by
  obtain ⟨cells, rfl, few, holds⟩ := sequence_cells written
  obtain ⟨items, contents, same, carries⟩ := exists_list_of_forall₂ Prod.snd Prod.fst
    (fun sent : Sent => Framable sent.1 ∧ Carries sizes c sent.1 sent.2)
    (fun v => seen sizes c (cqlValue v)) holds
    (fun v member cell held => ⟨(cell, _), rfl, rfl, held.carries (by
      rintro _ ⟨⟩
      exact each v member)⟩)
  have count : items.length = cells.length := by rw [← same, List.length_map]
  refine ⟨items, contents, count ▸ few, ?_, carries⟩
  rw [frames, same, count]

theorem writtenTo_list {c : ColumnType} {frozen : Bool} {dataType : Option D}
    {values : List (CassCqlValue D)} (each : ∀ v ∈ values, WrittenTo f sizes c v) :
    WrittenTo f sizes (.list c frozen) (.list dataType values) := by
  intro bytes written _
  obtain ⟨items, contents, few, rfl, carries⟩ := exists_items each written
  rw [cqlValue, CassCqlValue.fold, CassCqlValue.foldList_eq, cqlValueWith, ← cqlValue, seen,
    List.map_map]
  have list := Carries.list c frozen items few (fun item member => (carries item member).1)
    (fun item member => (carries item member).2)
  rw [contents] at list
  exact list

theorem writtenTo_set {c : ColumnType} {frozen : Bool} {dataType : Option D}
    {values : List (CassCqlValue D)} (each : ∀ v ∈ values, WrittenTo f sizes c v) :
    WrittenTo f sizes (.set c frozen) (.set dataType values) := by
  intro bytes written _
  rw [content_set] at written
  obtain ⟨items, contents, few, rfl, carries⟩ := exists_items each written
  rw [cqlValue, CassCqlValue.fold, CassCqlValue.foldList_eq, cqlValueWith, ← cqlValue, seen,
    List.map_map]
  have set := Carries.set c frozen items few (fun item member => (carries item member).1)
    (fun item member => (carries item member).2)
  rw [contents] at set
  exact set

theorem writtenTo_map {key value : ColumnType} {frozen : Bool} {dataType : Option D}
    {pairs : List (CassCqlValue D × CassCqlValue D)}
    (keys : ∀ pair ∈ pairs, WrittenTo f sizes key pair.1)
    (values : ∀ pair ∈ pairs, WrittenTo f sizes value pair.2) :
    WrittenTo f sizes (.map key value frozen) (.map dataType pairs) := by
  intro bytes written _
  obtain ⟨cells, rfl, few, holds⟩ := map_cells written
  obtain ⟨entries, contents, same, carries⟩ := exists_list_of_forall₂
    (fun entry : Sent × Sent => (entry.1.2, entry.2.2)) (fun entry => (entry.1.1, entry.2.1))
    (fun entry => (Framable entry.1.1 ∧ Carries sizes key entry.1.1 entry.1.2) ∧
      Framable entry.2.1 ∧ Carries sizes value entry.2.1 entry.2.2)
    (fun pair => (seen sizes key (cqlValue pair.1), seen sizes value (cqlValue pair.2))) holds
    (by
      rintro pair member ⟨left, right⟩ ⟨heldKey, heldValue⟩
      refine ⟨((left, _), (right, _)), rfl, rfl, heldKey.carries ?_, heldValue.carries ?_⟩
      · rintro _ ⟨⟩
        exact keys pair member
      · rintro _ ⟨⟩
        exact values pair member)
  have count : entries.length = cells.length := by rw [← same, List.length_map]
  have map := Carries.map key value frozen entries (count ▸ few)
    (fun entry member => ⟨(carries entry member).1.1, (carries entry member).2.1⟩)
    (fun entry member => (carries entry member).1.2) (fun entry member => (carries entry member).2.2)
  rw [cqlValue, CassCqlValue.fold, CassCqlValue.foldPairs_eq, cqlValueWith, ← cqlValue, seen,
    List.map_map, ← count, ← same, List.map_map]
  rw [contents] at map
  exact map

theorem exists_fields {T V : Type} (typ : T → ColumnType) (value : V → Option (CassCqlValue D))
    {values : List V} {types : List T} {cells : List (Option (List UInt8))}
    (length : values.length = types.length)
    (holds : List.Forall₂ (fun x cell => Holds f (value x) cell) values cells)
    (each : ∀ x t, (x, t) ∈ values.zip types → ∀ v, value x = some v → WrittenTo f sizes (typ t) v) :
    ∃ fields : List (T × Sent), fields.map Prod.fst = types ∧ fields.map (fun x => x.2.1) = cells ∧
      fields.map (fun x => (x.1, x.2.2)) =
        (values.zip types).map (fun x => (x.2, fieldSeen sizes (typ x.2) (value x.1))) ∧
      ∀ x ∈ fields, Framable x.2.1 ∧ Carries sizes (typ x.1) x.2.1 x.2.2 := by
  have aligned : List.Forall₂ (fun (_ : V) (_ : T) => True) values types :=
    List.forall₂_iff_zip.mpr ⟨length, fun _ => trivial⟩
  have zipped := (forall₂_iff_zip (q := fun x cell => Holds f (value x.1) cell)
    (fun _ _ _ _ => Iff.rfl) aligned cells).mp holds
  obtain ⟨fields, contents, same, carries⟩ := exists_list_of_forall₂
    (fun x : T × Sent => (x.1, x.2.2)) (fun x => x.2.1)
    (fun x => Framable x.2.1 ∧ Carries sizes (typ x.1) x.2.1 x.2.2)
    (fun x => (x.2, fieldSeen sizes (typ x.2) (value x.1))) zipped
    (by
      rintro ⟨x, t⟩ member cell held
      exact ⟨(t, (cell, _)), rfl, rfl, held.carries (each x t member)⟩)
  refine ⟨fields, ?_, same, contents, carries⟩
  have firsts := congrArg (List.map Prod.fst) contents
  simp only [List.map_map, Function.comp_def] at firsts
  exact firsts.trans (List.map_snd_zip length.ge)

theorem writtenTo_tuple {types : List ColumnType} {dataType : Option D}
    {fields : List (Option (CassCqlValue D))} (length : fields.length = types.length)
    (each : ∀ v c, (some v, c) ∈ fields.zip types → WrittenTo f sizes c v) :
    WrittenTo f sizes (.tuple types) (.tuple dataType fields) := by
  intro bytes written _
  rw [content_tuple] at written
  obtain ⟨cells, rfl, holds⟩ := writeEach_pieces
    (fun i field _ chunk wrote => holds_of_tupleCell wrote) written
  obtain ⟨sent, isTypes, isCells, contents, carries⟩ := exists_fields id id length holds
    (by
      rintro _ c member v rfl
      exact each v c member)
  have isSeen : seenFields sizes types (fields.map (Option.map cqlValue)) =
      sent.map (fun x => x.2.2) := by
    have all := seenFields_eq sizes Prod.snd
      (fun x : Option (CassCqlValue D) × ColumnType => x.1.map cqlValue) (fields.zip types)
    have lefts : (fields.zip types).map (fun x => x.1.map cqlValue) =
        fields.map (Option.map cqlValue) := by
      conv_rhs => rw [← List.map_fst_zip length.le, List.map_map]
      rfl
    rw [List.map_snd_zip length.ge, lefts] at all
    have seconds := congrArg (List.map Prod.snd) contents
    simp only [List.map_map, Function.comp_def] at seconds
    exact all.trans seconds.symm
  rw [cqlValue, CassCqlValue.fold, CassCqlValue.foldOptions_eq, cqlValueWith, ← cqlValue, seen, isSeen]
  cases sent with
  | nil =>
    cases isTypes
    cases isCells
    exact .empty _ rfl
  | cons first sent =>
    have tuple := Carries.tuple (first :: sent) [] (List.cons_ne_nil _ _)
      (fun x member => (carries x member).1) (fun x member => (carries x member).2)
    rw [List.append_nil, isCells] at tuple
    rw [← isTypes]
    exact tuple

theorem writtenTo_userDefinedType {fieldTypes : List (String × ColumnType)} {keyspace name : String}
    {frozen : Bool} {dataType : D} {fields : List (String × Option (CassCqlValue D))}
    (names : fields.map Prod.fst = fieldTypes.map Prod.fst)
    (each : ∀ field v fieldType, (field, fieldType) ∈ fields.zip fieldTypes → field.2 = some v →
      WrittenTo f sizes fieldType.2 v) :
    WrittenTo f sizes (.userDefinedType fieldTypes keyspace name frozen)
      (.userDefinedType dataType fields) := by
  intro bytes written _
  rw [content_userDefinedType] at written
  obtain ⟨cells, rfl, holds⟩ := writeEach_pieces
    (fun i field _ chunk wrote => holds_of_udtCell wrote) written
  have length : fields.length = fieldTypes.length := by
    simpa using congrArg List.length names
  obtain ⟨sent, isTypes, isCells, contents, carries⟩ := exists_fields Prod.snd Prod.snd length holds
    (fun field fieldType member v is => each field v fieldType member is)
  have isSeen : seenNamed sizes fieldTypes (fields.map (fun field => (field.1, field.2.map cqlValue))) =
      sent.map (fun x => (x.1.1, x.2.2)) := by
    have all := seenNamed_eq sizes Prod.snd
      (fun x : (String × Option (CassCqlValue D)) × (String × ColumnType) =>
        (x.1.1, x.1.2.map cqlValue)) (fields.zip fieldTypes)
    have lefts : (fields.zip fieldTypes).map (fun x => (x.1.1, x.1.2.map cqlValue)) =
        fields.map (fun field => (field.1, field.2.map cqlValue)) := by
      conv_rhs => rw [← List.map_fst_zip length.le, List.map_map]
      rfl
    rw [List.map_snd_zip length.ge, lefts] at all
    have named := congrArg (List.map (fun x => (x.1.1, x.2))) contents
    simp only [List.map_map, Function.comp_def] at named
    exact all.trans named.symm
  have udt := Carries.userDefinedType sent keyspace name frozen sent.length
    (by rw [List.drop_length]; exact List.forall_mem_nil _)
    (fun x member => (carries x member).1) (fun x member => (carries x member).2)
  rw [isTypes, List.take_length, isCells, ← isSeen] at udt
  rw [cqlValue, CassCqlValue.fold, CassCqlValue.foldNamed_eq, cqlValueWith, ← cqlValue]
  exact udt

theorem vectorChunk_eq_nil {size : Option Nat} {bytes : List UInt8}
    (fixed : ∀ k, size = some k → bytes.length = k) : vectorChunk size bytes = [] ↔ size = some 0 := by
  cases size with
  | none =>
    refine iff_of_false (fun empty => ?_) (by rintro ⟨⟩)
    have read := reads_unsignedVint (UInt64.ofNat bytes.length) []
    rw [(List.append_eq_nil_iff.mp empty).1] at read
    cases read
  | some k =>
    have length := fixed k rfl
    rw [vectorChunk, if_neg (by rintro ⟨⟩), ← List.length_eq_zero_iff, length, Option.some.injEq]

theorem vector_bytes_eq_nil {c : ColumnType} {dimensions : UInt16} {items : List (List UInt8 × Seen)}
    (length : items.length = dimensions.toNat)
    (fixed : ∀ item ∈ items, ∀ k, fixedSize sizes c = some k → item.1.length = k) :
    (items.map (fun item => vectorChunk (fixedSize sizes c) item.1)).flatten = [] ↔
      dimensions = 0 ∨ fixedSize sizes c = some 0 := by
  rw [List.flatten_eq_nil_iff, List.forall_mem_map]
  cases items with
  | nil =>
    have zero : dimensions = 0 := UInt16.toNat_inj.mp length.symm
    exact iff_of_true (List.forall_mem_nil _) (.inl zero)
  | cons item items =>
    have some' : dimensions ≠ 0 := by
      rintro rfl
      cases length
    rw [or_iff_right some']
    constructor
    · intro empty
      exact (vectorChunk_eq_nil (fixed item List.mem_cons_self)).mp (empty item List.mem_cons_self)
    · intro zero w member
      exact (vectorChunk_eq_nil (fixed w member)).mpr zero

theorem writtenTo_vector {c : ColumnType} {dimensions : UInt16} {dataType elementType : D}
    {values : List (Option (CassCqlValue D))} (length : values.length = dimensions.toNat)
    (encoding : f elementType = (fixedSize sizes c).isNone)
    (sized : ∀ v, some v ∈ values → ∀ k bytes, fixedSize sizes c = some k →
      content f v = .ok bytes → bytes.length = k)
    (elements : ∀ v, some v ∈ values → WrittenTo f sizes c v) :
    WrittenTo f sizes (.vector c dimensions) (.vector dataType elementType values) := by
  intro bytes written small
  rw [content_vector, encoding] at written
  obtain ⟨chunks, rfl, each⟩ := writeEach_ok written
  obtain ⟨items, contents, same, carries⟩ := exists_list_of_forall₂
    Prod.snd (fun item : List UInt8 × Seen => vectorChunk (fixedSize sizes c) item.1)
    (fun item => (item.1.length < 2 ^ 31 ∧ ∀ k, fixedSize sizes c = some k → item.1.length = k) ∧
      Carries sizes c (some item.1) item.2) (fieldSeen sizes c) each
    (by
      rintro item member chunk ⟨-, inChunks, i, wrote⟩
      obtain ⟨v, bytes, rfl, inner, rfl⟩ := vectorElement_eq_ok wrote
      have short : bytes.length < 2 ^ 31 := length_lt_of_vectorChunk inChunks small
      exact ⟨(bytes, _), rfl, rfl, ⟨short, fun k fixed => sized v member k bytes fixed inner⟩,
        elements v member bytes inner short⟩)
  have count : items.length = dimensions.toNat := by
    rw [← length]
    simpa using congrArg List.length contents
  have fixed := fun item member => (carries item member).1.2
  rw [cqlValue, CassCqlValue.fold, CassCqlValue.foldOptions_eq, cqlValueWith, ← cqlValue, seen,
    List.map_map, ← same]
  split
  · rename_i hollow
    rw [(vector_bytes_eq_nil count fixed).mpr hollow]
    exact .empty _ rfl
  · rename_i full
    have vector := Carries.vector c dimensions items count (fun item member => (carries item member).1.1)
      fixed (fun empty => full ((vector_bytes_eq_nil count fixed).mp empty))
      (fun item member => (carries item member).2)
    rw [contents] at vector
    exact vector

theorem writtenTo_native {t : NativeType} {s : CassScalar} (stored : Stored t s) :
    WrittenTo f sizes (.native t) (.scalar s) := by
  intro bytes written _
  cases Except.ok.inj written
  have is : seen sizes (.native t) (.scalar (plain s)) =
      if isHollow t s then .null else .scalar (outputOf t s) := by
    cases s <;> rfl
  change Carries sizes (.native t) (some (scalarBytes s)) (seen sizes (.native t) (.scalar (plain s)))
  rw [is]
  cases hollow : isHollow t s with
  | false => exact .native t s stored hollow
  | true =>
    obtain ⟨varint, empty⟩ := Bool.and_eq_true_iff.mp hollow
    cases eq_of_beq varint
    rw [List.isEmpty_iff.mp empty]
    exact .empty _ rfl

theorem writtenTo_of_fits (standard : ∀ t k, sizes t = some k → standardSize t = some k)
    {v : CassCqlValue D} {c : ColumnType} (fits : Fits f sizes v c) (range : inRange v c = true) :
    WrittenTo f sizes c v := by
  induction fits with
  | scalar s t compatible => exact writtenTo_native (stored_of_inRange compatible range)
  | tuple dataType fields types length sub ih =>
    exact writtenTo_tuple length (fun v c member => ih v c member (inRange_tuple range member))
  | list dataType values c frozen sub ih =>
    exact writtenTo_list (fun v member => ih v member (inRange_list range member))
  | set dataType values c frozen sub ih =>
    exact writtenTo_set (fun v member => ih v member (inRange_set range member))
  | map dataType values key value frozen keys vals keyIh valueIh =>
    exact writtenTo_map (fun pair member => keyIh pair member (inRange_map range member).1)
      (fun pair member => valueIh pair member (inRange_map range member).2)
  | vector dataType elementType values c dimensions length encoding sub ih =>
    exact writtenTo_vector length encoding
      (fun v member k bytes fixed inner => length_content standard (sub v member) k bytes fixed inner)
      (fun v member => ih v member (inRange_vector range member))
  | userDefinedType dataType fields fieldTypes keyspace name frozen names sub ih =>
    exact writtenTo_userDefinedType names (fun field v fieldType member is =>
      ih field v fieldType member is (inRange_userDefinedType range member is))

end Carries

section Rows
variable {ε ε' : Type} {d : Decoder ε} {s : ScalarDecoder ε'} {sizes : NativeType → Option Nat}

/-- A value that was built through the API and is accepted for a column is written as a value
of the column. -/
theorem writtenTo_of_accepted (standard : ∀ t k, sizes t = some k → standardSize t = some k)
    {v : CassCqlValue CassDataType} {c : ColumnType} (built : Built (.value v))
    (nonempty : c.nonemptyTuples = true) (fields : sameFields v c = true)
    (accepted : v.isTypeCompatible CassDataType.ops (getColumnType c) = some true)
    (range : inRange v c = true) :
    WrittenTo (CassDataType.usesVariableLengthEncodingInVector sizes) sizes c v := by
  have laid := laid_of_compatible built.wellTyped fields (alike_getColumnType c nonempty) accepted
  exact writtenTo_of_fits standard (fits_of_laid sizes built.wellTyped c fields laid) range

/-- A slot that holds a null, or a value that its column can hold. -/
def Storable (c : ColumnType) (slot : Slot) : Prop :=
  ∃ value, slot = .set value ∧ ∀ v, value = some v → Built (.value v) ∧ c.nonemptyTuples = true ∧
    sameFields v c = true ∧ inRange v c = true

def slotSeen (sizes : NativeType → Option Nat) (c : ColumnType) : Slot → Seen
  | .set (some v) => seen sizes c (cqlValue v)
  | _ => .null

theorem Storable.exists_sent (standard : ∀ t k, sizes t = some k → standardSize t = some k)
    {col : ColumnSpec} {slot : Slot} {cell : List UInt8} (storable : Storable col.typ slot)
    (fits : Statement.Fits slot col) (wrote : serializeSlot sizes col.typ slot = .ok cell) :
    ∃ sent : Sent, sent.2 = slotSeen sizes col.typ slot ∧ frameCell sent.1 = cell ∧
      Framable sent.1 ∧ Carries sizes col.typ sent.1 sent.2 := by
  obtain ⟨value, rfl, holds⟩ := storable
  cases value with
  | none =>
    cases Except.ok.inj wrote
    exact ⟨(none, .null), rfl, rfl, by rintro _ ⟨⟩, .null _⟩
  | some v =>
    obtain ⟨built, nonempty, fields, range⟩ := holds v rfl
    obtain ⟨bytes, inner, small, rfl⟩ := sized_eq_ok wrote
    refine ⟨(some bytes, _), rfl, rfl, ?_, ?_⟩
    · rintro _ ⟨⟩
      exact small
    · exact writtenTo_of_accepted standard built nonempty fields (fits v rfl) range bytes inner small

variable {vec : List ColumnSpec → List Slot → Except SerializationError (List (List UInt8))}

/-- The cells of a prepared statement, for any calls that bound its values, read as a row of the
columns: the client sees in each column the value that was in its slot. -/
theorem bound_row_read_back (reads : ReadsFrames sizes d) (scalars : ReadsScalars s)
    (standard : ∀ t k, sizes t = some k → standardSize t = some k)
    (positional : Positional (serializeSlot sizes) vec) (colSpecs : List ColumnSpec)
    (calls : List Statement.Call) (p : BoundPreparedStatement)
    (ran : run Statement.step (.newPrepared (.newFromPreparedStatement colSpecs)) calls =
      some (.prepared p))
    (describe : String → List ColumnSpec) (cells : List (List UInt8))
    (sent : (BoundStatement.prepared p).execute (serializeSlot sizes) vec describe = .ok cells)
    (storable : ∀ entry ∈ p.statement.variableColSpecs.zip p.boundValues,
      Storable entry.1.typ entry.2) :
    ∃ row, CassRow.fromRawRowAndMetadata (d.columns p.statement.variableColSpecs cells.flatten)
        (CassResultMetadata.fromColumnSpecs p.statement.variableColSpecs) = .ok row ∧
      ∀ᶠ n in atTop, collect (CassIterator.next d) (seeValue (readBack d s n)) n (.row ⟨row, none⟩) =
        some ((p.statement.variableColSpecs.zip p.boundValues).map
          (fun entry => slotSeen sizes entry.1.typ entry.2)) := by
  let columns := p.statement.variableColSpecs
  have typed : Typed describe (.prepared p) :=
    (Fresh.prepared colSpecs).typed_of_run (fitsWhenBound_prepared describe _ calls) ran
  obtain ⟨length, written⟩ := (positional columns p.boundValues cells).mp (mapError_eq_ok.mp sent)
  have fits : ∀ entry ∈ columns.zip p.boundValues, Statement.Fits entry.2 entry.1 := by
    intro entry member
    obtain ⟨i, at'⟩ := List.mem_iff_getElem?.mp member
    obtain ⟨left, right⟩ := List.getElem?_zip_eq_some.mp at'
    exact typed.2 i entry.2 entry.1 left right
  -- each column with what is sent for it
  obtain ⟨fields, contents, same, carries⟩ := exists_list_of_forall₂
    (fun x : ColumnSpec × Sent => (x.1, x.2.2)) (fun x => frameCell x.2.1)
    (fun x => Framable x.2.1 ∧ Carries sizes x.1.typ x.2.1 x.2.2)
    (fun entry => (entry.1, slotSeen sizes entry.1.typ entry.2)) written
    (by
      intro entry member cell wrote
      obtain ⟨sent, is, framed, carried⟩ :=
        (storable entry member).exists_sent standard (fits entry member) wrote
      exact ⟨(entry.1, sent), by rw [is], framed, carried⟩)
  have isColumns := congrArg (List.map Prod.fst) contents
  have isSeen := congrArg (List.map Prod.snd) contents
  simp only [List.map_map, Function.comp_def] at isColumns isSeen
  rw [show (columns.zip p.boundValues).map (fun entry => entry.1) = columns from
    List.map_fst_zip length.le] at isColumns
  have row : RowCarries sizes columns (fields.map Prod.snd) := by
    rw [← isColumns, RowCarries, List.forall₂_map_left_iff, List.forall₂_map_right_iff,
      List.forall₂_same]
    exact carries
  have isCells : rowBytes (fields.map Prod.snd) = cells.flatten := by
    rw [rowBytes, frames, List.map_map, List.map_map, ← same]
    rfl
  obtain ⟨read, decoded, later⟩ := row_read_back reads scalars row
  rw [isCells] at decoded
  rw [List.map_map] at later
  refine ⟨read, decoded, ?_⟩
  rw [← isSeen]
  exact later

end Rows

/- A row of an integer, bound by name, and a tuple of a text and a null. -/
theorem bound_row_read_back_tuple :
    let columns : List ColumnSpec := [⟨"a", .native .int⟩, ⟨"b", .tuple [.native .text, .native .int]⟩]
    let dataType : CassDataType := .mk (.tuple [.mk (.value .text), .mk (.value .int)])
    let pair : Value := .tuple (some dataType) [some (.scalar (.text "x")), none]
    let calls : List Statement.Call := [.bind 1 (some pair), .bindByName "a" (some (.scalar (.int 7)))]
    ∃ p row, run Statement.step (.newPrepared (.newFromPreparedStatement columns)) calls =
        some (.prepared p) ∧
      CassRow.fromRawRowAndMetadata
        ((vectorDecoder standardSize).columns p.statement.variableColSpecs
          [0, 0, 0, 4, 0, 0, 0, 7, 0, 0, 0, 9, 0, 0, 0, 1, 120, 255, 255, 255, 255])
        (CassResultMetadata.fromColumnSpecs p.statement.variableColSpecs) = .ok row ∧
      ∀ᶠ n in atTop, collect (CassIterator.next (vectorDecoder standardSize))
          (seeValue (readBack (vectorDecoder standardSize) formatScalars n)) n (.row ⟨row, none⟩) =
        some [.scalar (.int32 7), .sequence [.scalar (.string [120]), .null]] := by
  intro columns dataType pair calls
  have tuple : Built (.tuple ⟨some dataType, [none, none]⟩) := .newTuple dataType _ (by decide) rfl
  have filled := Built.setTuple _ 0 (some (.scalar (.text "x"))) _ _ tuple
    (fun w is => Option.some.inj is ▸ .scalar _) rfl
  have built : Built (.value pair) := .ofTuple _ filled
  obtain ⟨row, decoded, later⟩ := bound_row_read_back vectorDecoder_readsFrames formatScalars_reads
    (fun t k is => is) (vecSerialize_positional (serializeSlot standardSize) .sizeOverflow) columns calls
    _ rfl (fun _ => columns) _ rfl (by
      intro entry member
      rcases List.mem_cons.mp member with rfl | member
      · refine ⟨_, rfl, ?_⟩
        rintro _ ⟨⟩
        exact ⟨.scalar _, rfl, rfl, rfl⟩
      · cases List.mem_singleton.mp member
        refine ⟨_, rfl, ?_⟩
        rintro _ ⟨⟩
        exact ⟨built, rfl, rfl, by decide⟩)
  exact ⟨_, row, rfl, decoded, later⟩

section Arguments
variable {ε : Type} {s : ScalarDecoder ε}

/- The bytes that a pointer and a length stand for. -/
def given (v : Pointer) (size : Nat) : List UInt8 := (v.getD []).take size

/-- What was handed in, as the getter of a column would hand it out. What stands behind the bytes
of a short address is not part of it. -/
def handedIn (t : NativeType) : ScalarArgument → Output
  | .int8 v => .int8 v
  | .int16 v => .int16 v
  | .int32 v => .int32 v
  | .uint32 v => .uint32 v
  | .int64 v => .int64 v
  | .float v => .float v
  | .double v => .double v
  | .bool v => .bool (v ≠ 0)
  | .string v => text t (given v.ptr (strlen v.ptr))
  | .stringN v n => text t (given v.ptr n)
  | .bytes v size => text t (given v size)
  | .uuid v => .uuid v
  | .inet v => .inet v.cleared
  | .duration months days nanoseconds => .duration ⟨months, days, nanoseconds⟩
  | .decimal v size scale => .decimal ⟨given v size, scale⟩
where
  text (t : NativeType) (bytes : List UInt8) : Output :=
    if getterOf t = .string then .string bytes else .bytes bytes

theorem utf8_of_fromUtf8 {bytes : List UInt8} {v : String} (is : fromUtf8 bytes = .ok v) :
    utf8 v = bytes := by
  unfold fromUtf8 String.fromUTF8? at is
  split at is
  · cases Except.ok.inj is
    rw [utf8, String.toUTF8_eq_toByteArray]
    exact List.toList_data_toByteArray
  · cases is

theorem given_of_pointedBytes {v : Pointer} {size : Nat} {bytes : List UInt8}
    (is : pointedBytes v size = .ok bytes) : given v size = bytes := by
  cases v with
  | none =>
    simp only [pointedBytes] at is
    split at is
    · cases is
    · cases Except.ok.inj is
      exact List.take_nil
  | some all => exact Except.ok.inj is

theorem outputOf_stringN {t : NativeType} {v : CassStrLenDelimited} {n : Nat} {x : CassScalar}
    (converted : (ScalarArgument.stringN v n).toCql = .ok x) :
    outputOf t x = handedIn.text t (given v.ptr n) := by
  simp only [ScalarArgument.toCql] at converted
  obtain ⟨ptr⟩ := v
  cases ptr with
  | none =>
    simp only [CassStrLenDelimited.toStr] at converted
    split at converted
    · cases Except.ok.inj converted
      simp only [given, Option.getD_none, List.take_nil]
      rfl
    · cases converted
  | some bytes =>
    simp only [CassStrLenDelimited.toStr] at converted
    split at converted
    · rename_i text is
      cases Except.ok.inj converted
      simp only [outputOf, handedIn.text, utf8_of_fromUtf8 is, given, Option.getD_some]
    · rename_i is
      -- there is a pointer
      unfold fromUtf8 at is
      cases text : String.fromUTF8? (bytes.take n).toByteArray <;> rw [text] at is <;> cases is
    · cases converted

theorem outputOf_argument {t : NativeType} {a : ScalarArgument} {x : CassScalar}
    (converted : a.toCql = .ok x) : outputOf t x = handedIn t a := by
  cases a with
  | string v =>
    rw [ScalarArgument.toCql_string] at converted
    rw [outputOf_stringN converted]
    obtain ⟨ptr⟩ := v
    cases ptr <;> rfl
  | stringN v n => exact outputOf_stringN converted
  | bytes v size =>
    obtain ⟨bytes, is, rfl⟩ := map_eq_ok.mp converted
    simp only [outputOf, handedIn, handedIn.text, given_of_pointedBytes is]
  | decimal v size scale =>
    obtain ⟨bytes, is, rfl⟩ := map_eq_ok.mp converted
    simp only [outputOf, handedIn, given_of_pointedBytes is]
  | uuid v =>
    cases Except.ok.inj converted
    obtain ⟨parts, rfl⟩ := Uuid.exists_cass v
    simp only [outputOf, handedIn, Uuid.toUuid_cass, Uuid.ofUuid_standard]
  | inet v =>
    simp only [ScalarArgument.toCql] at converted
    split at converted
    · rename_i addr is
      cases Except.ok.inj converted
      simp only [outputOf, handedIn, CassInet.fromIpAddr_toIpAddr is]
    · cases converted
  | _ =>
    cases Except.ok.inj converted
    rfl

/-- A scalar that was handed in from C and stored in a column it is compatible with is handed out
again by the getter of the column, to the last byte; a varint handed in without bytes is null. -/
theorem scalar_argument_comes_back (scalars : ReadsScalars s) (t : NativeType) (a : ScalarArgument)
    (x : CassScalar) (converted : a.toCql = .ok x) (stored : Stored t x) :
    ∃ raw, CassRawValue.deserialize (.native t) (some (scalarBytes x)) = .ok raw ∧
      ∀ valueType, (getterOf t).call s (some ⟨raw, valueType⟩) =
        some (if isHollow t x then .error .libNullValue else .ok (handedIn t a)) := by
  refine ⟨_, deserialize_native t _, fun valueType => ?_⟩
  rw [ValueGetter.call_eq, emptyToNull_stored stored.compatible]
  cases isHollow t x with
  | true =>
    obtain ⟨read, is⟩ := reads_own s t
    rw [is]
    rfl
  | false =>
    exact congrArg some ((answer_stored scalars stored _).trans
      ((if_pos rfl).trans (congrArg Except.ok (outputOf_argument converted))))

end Arguments

/- A string that ends with a NUL, an address with something behind its four bytes, and a varint
without bytes. -/
theorem scalar_argument_comes_back_string :
    ∃ text addr varint,
      CassRawValue.deserialize (.native .text) (some [104, 105]) = .ok text ∧
      CassRawValue.deserialize (.native .inet) (some [127, 0, 0, 1]) = .ok addr ∧
      CassRawValue.deserialize (.native .varint) (some []) = .ok varint ∧
      ValueGetter.string.call formatScalars (some ⟨text, .mk (.value .text)⟩) =
        some (.ok (.string [104, 105])) ∧
      ValueGetter.inet.call formatScalars (some ⟨addr, .mk (.value .inet)⟩) =
        some (.ok (.inet ⟨[127, 0, 0, 1, 0, 0, 0, 0, 0, 0, 0, 0, 0, 0, 0, 0], 4, rfl⟩)) ∧
      ValueGetter.bytes.call formatScalars (some ⟨varint, .mk (.value .varint)⟩) =
        some (.error .libNullValue) := by
  let inet : CassInet := ⟨[127, 0, 0, 1, 9, 9, 9, 9, 9, 9, 9, 9, 9, 9, 9, 9], 4, rfl⟩
  have isText : Stored .text (.text "hi") := ⟨rfl, by rintro _ ⟨⟩, by rintro _ ⟨⟩⟩
  have isAddr : Stored .inet (.inet (.v4 0x7f000001)) := ⟨rfl, by rintro _ ⟨⟩, by rintro _ ⟨⟩⟩
  have isVarint : Stored .varint (.blob []) := ⟨rfl, by rintro _ ⟨⟩, by rintro _ ⟨⟩⟩
  obtain ⟨text, decodedText, ofText⟩ := scalar_argument_comes_back formatScalars_reads .text
    (.string ⟨some [104, 105, 0, 33]⟩) (.text "hi") (by decide) isText
  obtain ⟨addr, decodedAddr, ofAddr⟩ := scalar_argument_comes_back formatScalars_reads .inet
    (.inet inet) (.inet (.v4 0x7f000001)) (by decide) isAddr
  obtain ⟨varint, decodedVarint, ofVarint⟩ := scalar_argument_comes_back formatScalars_reads .varint
    (.bytes (some []) 0) (.blob []) rfl isVarint
  exact ⟨text, addr, varint, decodedText, decodedAddr, decodedVarint, ofText _, ofAddr _, ofVarint _⟩

end CppRsDriver.Result.Iteration
