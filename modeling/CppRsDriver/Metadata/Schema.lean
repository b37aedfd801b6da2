import CppRsDriver.Types.Column
import Mathlib.Data.List.AList

/-! The schema metadata of a session. Hash maps are association lists whose order is
that of the iteration; a table is found at the place it was allocated, so that the weak
reference from a view to its table is the number of that place. -/
namespace CppRsDriver.Metadata

open CppRsDriver.Types

abbrev HashMap (V : Type) := AList (fun _ : String => V)

inductive ColumnKind where
  | regular
  | static
  | clustering
  | partitionKey
  deriving DecidableEq, Repr

structure Column where
  typ : ColumnType
  kind : ColumnKind

/- The cluster's metadata, as the Rust driver keeps it. -/

structure Table where
  columns : HashMap Column
  partitionKey : List String
  clusteringKey : List String

structure MaterializedView where
  viewMetadata : Table
  baseTableName : String

structure UserDefinedType where
  fieldTypes : List (String × ColumnType)
  keyspace : String
  name : String

structure Keyspace where
  userDefinedTypes : HashMap UserDefinedType
  tables : HashMap Table
  views : HashMap MaterializedView

/- The metadata handed to the user. -/

inductive CassColumnType where
  | regular
  | partitionKey
  | clusteringKey
  | static
  deriving DecidableEq, Repr

def ColumnKind.toColumnType : ColumnKind → CassColumnType
  | .regular => .regular
  | .static => .static
  | .clustering => .clusteringKey
  | .partitionKey => .partitionKey

structure CassColumnMeta where
  name : String
  columnType : CassDataType
  columnKind : CassColumnType

/-- A table, with its views in `V`; the table of a view has no views of its own. -/
structure CassTableMeta (V : Type) where
  name : String
  columnsMetadata : HashMap CassColumnMeta
  partitionKeys : List String
  clusteringKeys : List String
  nonKeySortedColumns : List String
  views : HashMap V

structure CassMaterializedViewMeta where
  name : String
  viewMetadata : CassTableMeta Empty
  /-- A weak reference to an allocated table. -/
  baseTable : Nat

abbrev TableMeta := CassTableMeta CassMaterializedViewMeta

structure CassKeyspaceMeta where
  name : String
  userDefinedTypeDataType : HashMap CassDataType
  /-- The tables by their places. -/
  allocated : List TableMeta
  tables : HashMap Nat
  views : HashMap CassMaterializedViewMeta

structure CassSchemaMeta where
  keyspaces : HashMap CassKeyspaceMeta

def createTableMetadata {V : Type} (tableName : String) (tableMetadata : Table) :
    CassTableMeta V :=
  let columnsMetadata : HashMap CassColumnMeta :=
    tableMetadata.columns.entries.foldl
      (fun columns column =>
        columns.insert column.1
          ⟨column.1, getColumnType column.2.typ, column.2.kind.toColumnType⟩) ∅
  let nonKeyColumns := columnsMetadata.entries.filter (fun column =>
    column.2.columnKind != .partitionKey && column.2.columnKind != .clusteringKey)
  { name := tableName
    columnsMetadata := columnsMetadata
    partitionKeys := tableMetadata.partitionKey
    clusteringKeys := tableMetadata.clusteringKey
    nonKeySortedColumns :=
      (nonKeyColumns.map Sigma.fst).mergeSort (fun a b => decide (a ≤ b))
    views := ∅ }

/-- The maps filled by the loop over the tables of a keyspace. -/
structure Building where
  allocated : List TableMeta
  tables : HashMap Nat
  views : HashMap CassMaterializedViewMeta

/-- The inner loop: the views of one table, and the views of the keyspace so far. -/
def attachViews (weakCassTableMeta : Nat) (keyspaceViews : HashMap MaterializedView)
    (views : HashMap CassMaterializedViewMeta) :
    HashMap CassMaterializedViewMeta × HashMap CassMaterializedViewMeta :=
  keyspaceViews.entries.foldl
    (fun (maps : HashMap CassMaterializedViewMeta × HashMap CassMaterializedViewMeta) view =>
      let cassViewMeta : CassMaterializedViewMeta :=
        { name := view.1
          viewMetadata := createTableMetadata view.1 view.2.viewMetadata
          baseTable := weakCassTableMeta }
      (maps.1.insert view.1 cassViewMeta, maps.2.insert view.1 cassViewMeta))
    (∅, views)

/- One turn of the outer loop. `Arc::new_cyclic` knows the place before the table is made. -/
def addTable (keyspace : Keyspace) (building : Building) (table : (_ : String) × Table) :
    Building :=
  let weakCassTableMeta := building.allocated.length
  let (tableViews, views) := attachViews weakCassTableMeta keyspace.views building.views
  { allocated :=
      building.allocated ++
        [{ (createTableMetadata table.1 table.2 : TableMeta) with views := tableViews }]
    tables := building.tables.insert table.1 weakCassTableMeta
    views := views }

def keyspaceMeta (keyspaceName : String) (keyspace : Keyspace) : CassKeyspaceMeta :=
  let building := keyspace.tables.entries.foldl (addTable keyspace) ⟨[], ∅, ∅⟩
  { name := keyspaceName
    userDefinedTypeDataType :=
      keyspace.userDefinedTypes.entries.foldl
        (fun types udt => types.insert udt.1
          (getColumnType (.userDefinedType udt.2.fieldTypes udt.2.keyspace udt.2.name false))) ∅
    allocated := building.allocated
    tables := building.tables
    views := building.views }

/-- `cass_session_get_schema_meta`, from the keyspaces of the cluster state. -/
def getSchemaMeta (keyspaces : HashMap Keyspace) : CassSchemaMeta where
  keyspaces := keyspaces.entries.foldl
    (fun metas keyspace => metas.insert keyspace.1 (keyspaceMeta keyspace.1 keyspace.2)) ∅

/- The accessors return pointers: a table's is its place. -/

def CassKeyspaceMeta.tableByName (keyspaceMeta : CassKeyspaceMeta) (name : String) : Option Nat :=
  keyspaceMeta.tables.lookup name

def CassKeyspaceMeta.materializedViewByName (keyspaceMeta : CassKeyspaceMeta) (name : String) :
    Option CassMaterializedViewMeta :=
  keyspaceMeta.views.lookup name

def CassTableMeta.materializedViewByName {V : Type} (tableMeta : CassTableMeta V) (name : String) :
    Option V :=
  tableMeta.views.lookup name

def CassTableMeta.materializedView {V : Type} (tableMeta : CassTableMeta V) (index : Nat) :
    Option V :=
  tableMeta.views.entries[index]?.map Sigma.snd

/-- `cass_materialized_view_meta_base_table`: null unless the table is still owned. -/
def CassKeyspaceMeta.baseTable (keyspaceMeta : CassKeyspaceMeta)
    (viewMeta : CassMaterializedViewMeta) : Option Nat :=
  if keyspaceMeta.tables.entries.any (fun entry => entry.2 == viewMeta.baseTable) then
    some viewMeta.baseTable
  else none

end CppRsDriver.Metadata
