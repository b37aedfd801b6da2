import CppRsDriver.Lib.Maps
import CppRsDriver.Metadata.Schema

/-! The columns of a table by index: partition keys, clustering keys, then the others by
name. The index of a later group is reached by subtraction, which must not underflow, and
a name of any group must be that of a column. -/
namespace CppRsDriver.Metadata

open CppRsDriver.Lib CppRsDriver.Types

section Accessors
variable {V : Type} (tableMeta : CassTableMeta V)

def CassTableMeta.columnCount : Nat := tableMeta.columnsMetadata.entries.length

/- `usize` subtraction; an underflow panics. -/
def checkedSub (a b : Nat) : Option Nat := if b ≤ a then some (a - b) else none

/- `columns_metadata.get(name).unwrap()` -/
def CassTableMeta.unwrapColumn (name : String) : Option (Option CassColumnMeta) :=
  (tableMeta.columnsMetadata.lookup name).map some

/-- `cass_table_meta_column`: nothing if it panics, and a null or a column otherwise. -/
def CassTableMeta.column (index : Nat) : Option (Option CassColumnMeta) :=
  match tableMeta.partitionKeys[index]? with
  | some pkName => tableMeta.unwrapColumn pkName
  | none => do
    let index ← checkedSub index tableMeta.partitionKeys.length
    match tableMeta.clusteringKeys[index]? with
    | some ckName => tableMeta.unwrapColumn ckName
    | none => do
      let index ← checkedSub index tableMeta.clusteringKeys.length
      match tableMeta.nonKeySortedColumns[index]? with
      | some columnName => tableMeta.unwrapColumn columnName
      | none => some none

def CassTableMeta.columnNames : List String :=
  tableMeta.partitionKeys ++ tableMeta.clusteringKeys ++ tableMeta.nonKeySortedColumns

theorem checkedSub_of_none {names : List String} {index : Nat} (past : names[index]? = none) :
    checkedSub index names.length = some (index - names.length) := by
  rw [List.getElem?_eq_none_iff] at past
  rw [checkedSub, if_pos past]

theorem getElem?_append_of_none {names more : List String} {index : Nat}
    (past : names[index]? = none) : (names ++ more)[index]? = more[index - names.length]? := by
  rw [List.getElem?_eq_none_iff] at past
  rw [List.getElem?_append_right past]

theorem getElem?_append_of_some {names more : List String} {index : Nat} {name : String}
    (found : names[index]? = some name) : (names ++ more)[index]? = some name := by
  obtain ⟨inside, -⟩ := List.getElem?_eq_some_iff.mp found
  rw [List.getElem?_append_left inside, found]

/-- The two subtractions never underflow: an index is looked up in the three lists joined. -/
theorem CassTableMeta.column_eq (index : Nat) :
    tableMeta.column index =
      match tableMeta.columnNames[index]? with
      | some name => tableMeta.unwrapColumn name
      | none => some none := by
  rw [columnNames, List.append_assoc]
  cases pk : tableMeta.partitionKeys[index]? with
  | some name => simp only [column, pk, getElem?_append_of_some pk]
  | none =>
    rw [getElem?_append_of_none pk]
    cases ck : tableMeta.clusteringKeys[index - tableMeta.partitionKeys.length]? with
    | some name =>
      simp only [column, pk, checkedSub_of_none pk, Option.bind_eq_bind, Option.bind_some, ck,
        getElem?_append_of_some ck]
    | none =>
      rw [getElem?_append_of_none ck]
      simp only [column, pk, checkedSub_of_none pk, Option.bind_eq_bind, Option.bind_some, ck,
        checkedSub_of_none ck]

end Accessors

/-- The metadata of one column of the cluster's table. -/
def columnMeta (column : (_ : String) × Column) : CassColumnMeta :=
  ⟨column.1, getColumnType column.2.typ, column.2.kind.toColumnType⟩

/-- The key names are those of the key columns, each once. -/
structure KeysListed (table : Table) : Prop where
  partitionNodup : table.partitionKey.Nodup
  clusteringNodup : table.clusteringKey.Nodup
  partition : ∀ name, name ∈ table.partitionKey ↔
    ∃ column, table.columns.lookup name = some column ∧ column.kind = .partitionKey
  clustering : ∀ name, name ∈ table.clusteringKey ↔
    ∃ column, table.columns.lookup name = some column ∧ column.kind = .clustering

section Enumeration
variable {V : Type} (tableName : String) (table : Table)

theorem lookup_columnsMetadata (name : String) :
    (createTableMetadata tableName table : CassTableMeta V).columnsMetadata.lookup name =
      (table.columns.lookup name).map (fun column => columnMeta ⟨name, column⟩) := by
  have filled := lookup_foldl_insert columnMeta table.columns.nodupKeys ∅ name
  rw [AList.lookup_empty, Option.or_none] at filled
  exact filled

theorem mem_columnsMetadata (entry : (_ : String) × CassColumnMeta) :
    entry ∈ (createTableMetadata tableName table : CassTableMeta V).columnsMetadata.entries ↔
      ∃ column, table.columns.lookup entry.1 = some column ∧
        columnMeta ⟨entry.1, column⟩ = entry.2 := by
  obtain ⟨name, shown⟩ := entry
  rw [← AList.mem_lookup_iff, Option.mem_def, lookup_columnsMetadata, Option.map_eq_some_iff]

theorem columnCount_eq :
    (createTableMetadata tableName table : CassTableMeta V).columnCount =
      table.columns.entries.length := by
  have names : (createTableMetadata tableName table : CassTableMeta V).columnsMetadata.keys.Perm
      table.columns.keys := by
    rw [List.perm_ext_iff_of_nodup (AList.keys_nodup _) (AList.keys_nodup _)]
    intro name
    rw [← AList.mem_keys, ← AList.mem_keys, ← AList.lookup_isSome, ← AList.lookup_isSome,
      lookup_columnsMetadata, Option.isSome_map]
  have lengths := names.length_eq
  rwa [AList.keys, AList.keys, List.keys, List.keys, List.length_map, List.length_map] at lengths

theorem ColumnKind.nonKey_iff (kind : ColumnKind) :
    (kind.toColumnType != .partitionKey && kind.toColumnType != .clusteringKey) = true ↔
      kind ≠ .partitionKey ∧ kind ≠ .clustering := by
  cases kind <;> decide

theorem mem_nonKeySortedColumns (name : String) :
    name ∈ (createTableMetadata tableName table : CassTableMeta V).nonKeySortedColumns ↔
      ∃ column, table.columns.lookup name = some column ∧
        column.kind ≠ .partitionKey ∧ column.kind ≠ .clustering := by
  refine List.mem_mergeSort.trans ?_
  rw [List.mem_map]
  constructor
  · rintro ⟨entry, member, rfl⟩
    obtain ⟨listed, nonKey⟩ := List.mem_filter.mp member
    obtain ⟨column, found, is⟩ := (mem_columnsMetadata (V := V) tableName table entry).mp listed
    rw [← is] at nonKey
    exact ⟨column, found, (ColumnKind.nonKey_iff column.kind).mp nonKey⟩
  · rintro ⟨column, found, nonKey⟩
    have shown := (mem_columnsMetadata (V := V) tableName table ⟨name, columnMeta ⟨name, column⟩⟩).mpr
      ⟨column, found, rfl⟩
    exact ⟨_, List.mem_filter.mpr ⟨shown, (ColumnKind.nonKey_iff column.kind).mpr nonKey⟩, rfl⟩

theorem nonKeySortedColumns_nodup :
    (createTableMetadata tableName table : CassTableMeta V).nonKeySortedColumns.Nodup := by
  refine (List.mergeSort_perm _ _).nodup_iff.mpr ?_
  refine List.Nodup.sublist (List.Sublist.map _ List.filter_sublist) ?_
  exact AList.keys_nodup (createTableMetadata tableName table : CassTableMeta V).columnsMetadata

theorem nonKeySortedColumns_increasing :
    (createTableMetadata tableName table : CassTableMeta V).nonKeySortedColumns.Pairwise (· < ·) := by
  have distinct := nonKeySortedColumns_nodup (V := V) tableName table
  have sorted : (createTableMetadata tableName table : CassTableMeta V).nonKeySortedColumns.Pairwise
      (fun a b => decide (a ≤ b) = true) := by
    refine List.pairwise_mergeSort ?_ ?_ _
    · intro a b c first second
      rw [decide_eq_true_iff] at first second ⊢
      exact String.le_trans first second
    · intro a b
      rw [Bool.or_eq_true, decide_eq_true_iff, decide_eq_true_iff]
      exact String.le_total a b
  refine (sorted.and distinct).imp ?_
  rintro a b ⟨le, ne⟩
  rw [decide_eq_true_iff] at le
  by_contra notLt
  exact ne (String.le_antisymm le (String.not_lt.mp notLt))

variable {table}

theorem KeysListed.mem_columnNames (listed : KeysListed table) (name : String) :
    name ∈ (createTableMetadata tableName table : CassTableMeta V).columnNames ↔
      ∃ column, table.columns.lookup name = some column := by
  rw [CassTableMeta.columnNames, List.mem_append, List.mem_append, mem_nonKeySortedColumns]
  constructor
  · rintro ((partition | clustering) | ⟨column, found, -⟩)
    · obtain ⟨column, found, -⟩ := (listed.partition name).mp partition
      exact ⟨column, found⟩
    · obtain ⟨column, found, -⟩ := (listed.clustering name).mp clustering
      exact ⟨column, found⟩
    · exact ⟨column, found⟩
  · rintro ⟨column, found⟩
    by_cases partition : column.kind = .partitionKey
    · exact .inl (.inl ((listed.partition name).mpr ⟨column, found, partition⟩))
    · by_cases clustering : column.kind = .clustering
      · exact .inl (.inr ((listed.clustering name).mpr ⟨column, found, clustering⟩))
      · exact .inr ⟨column, found, partition, clustering⟩

theorem KeysListed.columnNames_nodup (listed : KeysListed table) :
    (createTableMetadata tableName table : CassTableMeta V).columnNames.Nodup := by
  have keys : (table.partitionKey ++ table.clusteringKey).Nodup := by
    refine listed.partitionNodup.append listed.clusteringNodup ?_
    intro name partition clustering
    obtain ⟨column, found, isPartition⟩ := (listed.partition name).mp partition
    obtain ⟨other, same, isClustering⟩ := (listed.clustering name).mp clustering
    cases Option.some.inj (found.symm.trans same)
    exact absurd (isPartition.symm.trans isClustering) (by decide)
  refine keys.append (nonKeySortedColumns_nodup tableName table) ?_
  intro name key other
  obtain ⟨column, found, notPartition, notClustering⟩ :=
    (mem_nonKeySortedColumns tableName table name).mp other
  rcases List.mem_append.mp key with partition | clustering
  · obtain ⟨same, is, isPartition⟩ := (listed.partition name).mp partition
    cases Option.some.inj (found.symm.trans is)
    exact notPartition isPartition
  · obtain ⟨same, is, isClustering⟩ := (listed.clustering name).mp clustering
    cases Option.some.inj (found.symm.trans is)
    exact notClustering isClustering

theorem KeysListed.exists_listing (listed : KeysListed table) :
    ∃ listing : List ((_ : String) × Column),
      listing.map Sigma.fst =
        (createTableMetadata tableName table : CassTableMeta V).columnNames ∧
      listing.Perm table.columns.entries := by
  let column (name : String) : Option ((_ : String) × Column) :=
    (table.columns.lookup name).map (fun c => ⟨name, c⟩)
  let names := (createTableMetadata tableName table : CassTableMeta V).columnNames
  have named : ∀ chosen : List String, (∀ name ∈ chosen, name ∈ names) →
      (chosen.filterMap column).map Sigma.fst = chosen := by
    intro chosen known
    induction chosen with
    | nil => rfl
    | cons name rest ih =>
      obtain ⟨c, found⟩ := (listed.mem_columnNames (V := V) tableName name).mp
        (known name List.mem_cons_self)
      have is : column name = some ⟨name, c⟩ := by
        change (table.columns.lookup name).map _ = _
        rw [found, Option.map_some]
      rw [List.filterMap_cons_some is, List.map_cons,
        ih (fun other member => known other (List.mem_cons_of_mem _ member))]
  have fst := named names (fun _ member => member)
  refine ⟨names.filterMap column, fst, ?_⟩
  have distinct : (names.filterMap column).Nodup := by
    refine List.Nodup.of_map Sigma.fst ?_
    rw [fst]
    exact listed.columnNames_nodup tableName
  rw [List.perm_ext_iff_of_nodup distinct table.columns.nodupKeys.nodup]
  rintro ⟨name, c⟩
  rw [List.mem_filterMap, ← AList.mem_lookup_iff, Option.mem_def]
  constructor
  · rintro ⟨other, -, is⟩
    obtain ⟨c', found, same⟩ := Option.map_eq_some_iff.mp is
    cases same
    exact found
  · intro found
    refine ⟨name, (listed.mem_columnNames tableName name).mpr ⟨c, found⟩, ?_⟩
    exact Option.map_eq_some_iff.mpr ⟨c, found, rfl⟩

/-- The enumeration by index: the listed columns, then null. -/
structure Enumerates (table : Table) (tableMeta : CassTableMeta V)
    (listing : List ((_ : String) × Column)) : Prop where
  complete : listing.Perm table.columns.entries
  ordered : ∃ others, listing.map Sigma.fst = table.partitionKey ++ table.clusteringKey ++ others ∧
    others.Pairwise (· < ·)
  counted : tableMeta.columnCount = listing.length
  shown : ∀ index, tableMeta.column index = some (listing[index]?.map columnMeta)

theorem columns_enumerated (listed : KeysListed table) :
    ∃ listing, Enumerates table (createTableMetadata tableName table : CassTableMeta V) listing := by
  obtain ⟨listing, names, complete⟩ := listed.exists_listing (V := V) tableName
  refine ⟨listing, complete, ?_, ?_, ?_⟩
  · exact ⟨_, names, nonKeySortedColumns_increasing (V := V) tableName table⟩
  · rw [columnCount_eq, complete.length_eq]
  · intro index
    rw [CassTableMeta.column_eq, ← names, List.getElem?_map]
    cases at' : listing[index]? with
    | none => rfl
    | some column =>
      have found : table.columns.lookup column.1 = some column.2 := by
        exact AList.mem_lookup_iff.mpr (complete.subset (List.mem_of_getElem? at'))
      simp only [Option.map_some, CassTableMeta.unwrapColumn, lookup_columnsMetadata, found]

end Enumeration

/-- A table with a column of each kind, in no order. -/
def eachKind : Table where
  columns := ⟨[⟨"g", .native .int, .static⟩, ⟨"h", .native .int, .clustering⟩,
    ⟨"b", .native .int, .regular⟩, ⟨"d", .native .int, .partitionKey⟩], by
      simp [List.NodupKeys, List.keys]⟩
  partitionKey := ["d"]
  clusteringKey := ["h"]

theorem eachKind_keysListed : KeysListed eachKind := by
  have columns (name : String) (column : Column)
      (found : eachKind.columns.lookup name = some column) :
      name = "g" ∧ column.kind = .static ∨ name = "h" ∧ column.kind = .clustering ∨
        name = "b" ∧ column.kind = .regular ∨ name = "d" ∧ column.kind = .partitionKey := by
    have member := AList.mem_lookup_iff.mp (Option.mem_def.mpr found)
    simp only [eachKind, List.mem_cons, List.not_mem_nil, or_false] at member
    rcases member with is | is | is | is <;> cases is <;> simp
  refine ⟨List.nodup_singleton _, List.nodup_singleton _, ?_, ?_⟩
  · intro name
    constructor
    · intro member
      cases List.mem_singleton.mp member
      exact ⟨_, rfl, rfl⟩
    · rintro ⟨column, found, kind⟩
      have known := columns name column found
      exact List.mem_singleton.mpr (by simpa [kind] using known)
  · intro name
    constructor
    · intro member
      cases List.mem_singleton.mp member
      exact ⟨_, rfl, rfl⟩
    · rintro ⟨column, found, kind⟩
      have known := columns name column found
      exact List.mem_singleton.mpr (by simpa [kind] using known)

theorem columns_enumerated_each_kind :
    KeysListed eachKind ∧
      ∃ listing, Enumerates eachKind (createTableMetadata "t" eachKind : CassTableMeta Empty) listing :=
  ⟨eachKind_keysListed, columns_enumerated "t" eachKind_keysListed⟩

end CppRsDriver.Metadata
