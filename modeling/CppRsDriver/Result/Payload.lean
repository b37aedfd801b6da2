import CppRsDriver.Errors.Result
import CppRsDriver.Result.ReadBack

/-! Results as they come from the driver underneath. The first row is read when the result is
made, and again by every iterator over it. -/
namespace CppRsDriver.Result

open CppRsDriver.Lib CppRsDriver.Types CppRsDriver.Statement CppRsDriver.Errors CppRsDriver.Wire
  CppRsDriver.Result.Iteration Filter

inductive PagingStateResponse where
  | hasMorePages (state : PagingState)
  | noMorePages
  deriving DecidableEq, Repr

structure CassRowsResult (ε : Type) where
  sharedData : RowsResult ε
  firstRow : Option CassRow

inductive CassResultKind (ε : Type) where
  | nonRows
  | rows (result : CassRowsResult ε)

structure CassResult (ε : Type) where
  tracingId : Option Uuid.StandardUuid
  pagingStateResponse : PagingStateResponse
  kind : CassResultKind ε

/-- What `into_rows_result` makes of a response. -/
inductive IntoRowsResult (ε : Type) where
  | rows (specs : List ColumnSpec) (rows : List (Except ε (List UInt8)))
  | resultNotRows
  | resultMetadataLazyDeserializationError

structure QueryResult (ε : Type) where
  tracingId : Option Uuid.StandardUuid
  intoRowsResult : IntoRowsResult ε

section Payload
variable {ε : Type} (d : Decoder ε)

def initFirstRow (sharedData : RowsResult ε) : Except CassErrorResult (Option CassRow) :=
  match sharedData.rows with
  | [] => .ok none
  | .error _ :: _ => .error .deserialization
  | .ok bytes :: _ =>
    match CassRow.fromRawRowAndMetadata (d.columns sharedData.specs bytes) sharedData.metadata with
    | .error _ => .error .deserialization
    | .ok row => .ok (some row)

/- Without metadata of the statement the columns of the frame describe the result. -/
def getOrMakeResultMetadata
    (tryGetOrMakeResultMetadata : Option (List ColumnSpec → Option CassResultMetadata))
    (specs : List ColumnSpec) : CassResultMetadata :=
  (tryGetOrMakeResultMetadata.bind (fun f => f specs)).getD (.fromColumnSpecs specs)

def fromResultPayload (result : QueryResult ε) (pagingStateResponse : PagingStateResponse)
    (tryGetOrMakeResultMetadata : Option (List ColumnSpec → Option CassResultMetadata)) :
    Except CassErrorResult (CassResult ε) :=
  match result.intoRowsResult with
  | .rows specs rows =>
    let sharedData : RowsResult ε :=
      ⟨specs, rows, getOrMakeResultMetadata tryGetOrMakeResultMetadata specs⟩
    (initFirstRow d sharedData).map (fun firstRow =>
      ⟨result.tracingId, pagingStateResponse, .rows ⟨sharedData, firstRow⟩⟩)
  | .resultNotRows => .ok ⟨result.tracingId, pagingStateResponse, .nonRows⟩
  | .resultMetadataLazyDeserializationError => .error .resultMetadataLazyDeserialization

end Payload

section Accessors
variable {ε : Type} (result : CassResult ε)

def CassResult.rows? : Option (CassRowsResult ε) :=
  match result.kind with
  | .nonRows => none
  | .rows rows => some rows

def cassResultRowCount : Nat := result.rows?.elim 0 (fun r => r.sharedData.rows.length)

def cassResultFirstRow : Option CassRow := result.rows?.bind CassRowsResult.firstRow

def cassIteratorFromResult : CassIterator ε :=
  fromResult (result.rows?.map CassRowsResult.sharedData)

def cassResultColumnDataType (index : Nat) : Option CassDataType :=
  result.rows?.bind (fun r => r.sharedData.metadata.colSpecs[index]?.map CassColumnSpec.dataType)

def cassResultColumnName (index : Nat) : Except CassError String :=
  match result.rows? with
  | none => .error .libBadParams
  | some r =>
    match r.sharedData.metadata.colSpecs[index]? with
    | none => .error .libIndexOutOfBounds
    | some colSpec => .ok colSpec.name

end Accessors

section FirstRow
variable {ε : Type} {d : Decoder ε}

theorem initFirstRow_ok {sharedData : RowsResult ε} {firstRow : Option CassRow}
    (is : initFirstRow d sharedData = .ok firstRow) :
    firstRow.isSome = decide (0 < sharedData.rows.length) ∧
      ∃ t, (fromResult (some sharedData)).next d = some (firstRow.isSome, t) ∧ t.getRow = firstRow := by
  obtain ⟨specs, rows, metadata⟩ := sharedData
  unfold initFirstRow at is
  split at is
  · rename_i empty
    cases empty
    cases is
    exact ⟨rfl, _, rfl, rfl⟩
  · cases is
  · rename_i bytes rest left
    cases left
    split at is
    · cases is
    · rename_i row decoded
      cases is
      have new := congrArg Except.toOption decoded
      refine ⟨rfl, .result (some ⟨specs, rest, metadata, some row⟩), ?_, rfl⟩
      simp only [fromResult, Option.map_some, CassIterator.next, CassRowsResultIterator.next, new]
      rfl

theorem initFirstRow_error {sharedData : RowsResult ε} {e : CassErrorResult}
    (is : initFirstRow d sharedData = .error e) :
    e = .deserialization ∧ 0 < sharedData.rows.length ∧
      ∃ t, (fromResult (some sharedData)).next d = some (false, t) := by
  obtain ⟨specs, rows, metadata⟩ := sharedData
  unfold initFirstRow at is
  split at is
  · cases is
  · rename_i failed rest left
    cases left
    cases is
    exact ⟨rfl, Nat.zero_lt_succ _, _, rfl⟩
  · rename_i bytes rest left
    cases left
    split at is
    · rename_i failed broken
      cases is
      have new := congrArg Except.toOption broken
      refine ⟨rfl, Nat.zero_lt_succ _, .result (some ⟨specs, rest, metadata, none⟩), ?_⟩
      simp only [fromResult, Option.map_some, CassIterator.next, CassRowsResultIterator.next, new]
      rfl
    · cases is

/-- A response with rows becomes a result exactly when it has none or an iterator gets past the
first: then the first row of the result is the one the iterator comes to first, and otherwise
the request has failed. -/
theorem first_row_as_iterated (d : Decoder ε) (tracingId : Option Uuid.StandardUuid)
    (specs : List ColumnSpec) (rows : List (Except ε (List UInt8))) (paging : PagingStateResponse)
    (get : Option (List ColumnSpec → Option CassResultMetadata)) :
    match fromResultPayload d ⟨tracingId, .rows specs rows⟩ paging get with
    | .ok r => cassResultRowCount r = rows.length ∧
        ∃ t, (cassIteratorFromResult r).next d = some (decide (0 < rows.length), t) ∧
          t.getRow = cassResultFirstRow r
    | .error e => e = .deserialization ∧ 0 < rows.length ∧ ∃ t,
        (fromResult (some ⟨specs, rows, getOrMakeResultMetadata get specs⟩)).next d = some (false, t) := by
  let metadata := getOrMakeResultMetadata get specs
  have payload : fromResultPayload d ⟨tracingId, .rows specs rows⟩ paging get =
      (initFirstRow d ⟨specs, rows, metadata⟩).map (fun firstRow =>
        ⟨tracingId, paging, .rows ⟨⟨specs, rows, metadata⟩, firstRow⟩⟩) := rfl
  rw [payload]
  cases is : initFirstRow d ⟨specs, rows, metadata⟩ with
  | ok firstRow =>
    obtain ⟨present, t, moved, got⟩ := initFirstRow_ok is
    rw [present] at moved
    exact ⟨rfl, t, moved, got⟩
  | error e =>
    obtain ⟨rfl, many, t, moved⟩ := initFirstRow_error is
    exact ⟨rfl, many, t, moved⟩

end FirstRow

section ReadBack
variable {ε ε' : Type} (d : Decoder ε) (s : ScalarDecoder ε')

end ReadBack

/-- The cells of a row are cells of its columns. -/
def RowCarries (sizes : NativeType → Option Nat) (specs : List ColumnSpec) (row : List Sent) : Prop :=
  List.Forall₂ (fun spec sent => Framable sent.1 ∧ Carries sizes spec.typ sent.1 sent.2) specs row

def rowBytes (row : List Sent) : List UInt8 := frames (row.map Prod.fst)

section Rows
variable {ε ε' : Type} {d : Decoder ε} {s : ScalarDecoder ε'} {sizes : NativeType → Option Nat}

theorem columns_of_row (reads : ReadsFrames sizes d) (scalars : ReadsScalars s)
    {specs : List ColumnSpec} {row : List Sent} (carries : RowCarries sizes specs row)
    {columns : List (Except ε RawColumn)} (read : List.Forall₂
      (fun entry column => ∃ index, column = .ok ⟨index, entry.1, entry.2⟩)
      (specs.zip (row.map Prod.fst)) columns) :
    ∃ values, List.Forall₂ (fun column v => deserializeColumn column.1 column.2 = .ok v)
        (columns.zip (CassResultMetadata.fromColumnSpecs specs).colSpecs) values ∧
      List.Forall₂ (fun sent v => ∀ᶠ n in atTop, readBack d s n v = some sent.2) row values := by
  induction carries generalizing columns with
  | nil =>
    cases read
    exact ⟨[], .nil, .nil⟩
  | cons head tail ih =>
    cases read with
    | cons first others =>
      obtain ⟨index, rfl⟩ := first
      obtain ⟨values, decoded, seen⟩ := ih others
      obtain ⟨raw, is, later⟩ := head.2.presents reads scalars
      refine ⟨⟨raw, _⟩ :: values, .cons ?_ decoded, .cons later seen⟩
      simp only [deserializeColumn, is]

theorem row_read_back (reads : ReadsFrames sizes d) (scalars : ReadsScalars s)
    {specs : List ColumnSpec} {row : List Sent} (carries : RowCarries sizes specs row) :
    ∃ read, CassRow.fromRawRowAndMetadata (d.columns specs (rowBytes row))
        (CassResultMetadata.fromColumnSpecs specs) = .ok read ∧
      ∀ᶠ n in atTop, collect (CassIterator.next d) (seeValue (readBack d s n)) n (.row ⟨read, none⟩) =
        some (row.map Prod.snd) := by
  have small : ∀ cell ∈ row.map Prod.fst, Framable cell := by
    refine List.forall_mem_map.mpr (fun sent member => ?_)
    obtain ⟨spec, -, fits, -⟩ := forall₂_mem_right carries member
    exact fits
  have read := reads.columns specs (row.map Prod.fst)
    (carries.length_eq.trans (List.length_map _).symm) small
  obtain ⟨values, decoded, seen⟩ := columns_of_row reads scalars carries read
  let metadata := CassResultMetadata.fromColumnSpecs specs
  refine ⟨⟨values, metadata⟩, map_eq_ok.mpr ⟨values, mapM_eq_ok.mpr decoded, rfl⟩, ?_⟩
  have length := seen.length_eq
  -- each cell is looked at next to its value
  have ahead : Ahead d (.row ⟨⟨values, metadata⟩, none⟩)
      ((row.zip values).map (fun pair => some (Item.value pair.2)) ++ []) := by
    refine ⟨?_, trivial⟩
    have seconds : (row.zip values).map Prod.snd = values := List.map_snd_zip length.ge
    change values.map (fun column => some (Item.value column)) = _
    rw [List.append_nil]
    conv_lhs => rw [← seconds, List.map_map]
    rfl
  have each : ∀ pair ∈ row.zip values, ∀ᶠ n in atTop, ∃ x, some (Item.value pair.2) = some x ∧
      ∀ t : CassIterator ε, Shows t x → seeValue (readBack d s n) t = some pair.1.2 := by
    intro pair member
    filter_upwards [List.forall₂_zip seen member] with n read
    refine ⟨_, rfl, fun t shows => ?_⟩
    rw [seeValue, shows]
    exact read
  filter_upwards [eventually_forall_mem each, eventually_gt_atTop (row.zip values).length]
    with n sees enough
  rw [(iterators_walk d).collect ahead rfl sees enough]
  have firsts : (row.zip values).map Prod.fst = row := List.map_fst_zip length.le
  conv_rhs => rw [← firsts, List.map_map]
  rfl

end Rows

end CppRsDriver.Result
