import CppRsDriver.Lib.Checks
import CppRsDriver.Lib.Maps
import CppRsDriver.Metadata.Schema
import Mathlib.Data.List.Induction

/-! Which views a table is given. The loop over the views does not look at their base
tables: every table gets every view, and the keyspace keeps those of the last table. -/
namespace CppRsDriver.Metadata

open CppRsDriver.Lib CppRsDriver.Types

/-- A view of a keyspace as it is attached to a table. -/
def viewMeta (baseTable : Nat) (view : (_ : String) × MaterializedView) :
    CassMaterializedViewMeta where
  name := view.1
  viewMetadata := createTableMetadata view.1 view.2.viewMetadata
  baseTable := baseTable

theorem attachViews_eq (baseTable : Nat) (keyspaceViews : HashMap MaterializedView)
    (views : HashMap CassMaterializedViewMeta) :
    attachViews baseTable keyspaceViews views =
      (keyspaceViews.entries.foldl (fun map view => map.insert view.1 (viewMeta baseTable view)) ∅,
        keyspaceViews.entries.foldl (fun map view => map.insert view.1 (viewMeta baseTable view))
          views) := by
  have both : ∀ (entries : List ((_ : String) × MaterializedView))
      (maps : HashMap CassMaterializedViewMeta × HashMap CassMaterializedViewMeta),
      entries.foldl (fun (maps : HashMap CassMaterializedViewMeta × HashMap CassMaterializedViewMeta)
          view => (maps.1.insert view.1 (viewMeta baseTable view),
            maps.2.insert view.1 (viewMeta baseTable view))) maps =
        (entries.foldl (fun map view => map.insert view.1 (viewMeta baseTable view)) maps.1,
          entries.foldl (fun map view => map.insert view.1 (viewMeta baseTable view)) maps.2) := by
    intro entries
    induction entries with
    | nil => intro maps; rfl
    | cons view rest ih => intro maps; exact ih _
  exact both keyspaceViews.entries (∅, views)

/-- The views that one table is given. -/
def tableViews (keyspace : Keyspace) (baseTable : Nat) : HashMap CassMaterializedViewMeta :=
  keyspace.views.entries.foldl (fun map view => map.insert view.1 (viewMeta baseTable view)) ∅

theorem lookup_tableViews (keyspace : Keyspace) (baseTable : Nat) (v : String) :
    (tableViews keyspace baseTable).lookup v =
      (keyspace.views.lookup v).map (fun view => viewMeta baseTable ⟨v, view⟩) := by
  rw [tableViews, lookup_foldl_insert _ keyspace.views.nodupKeys, AList.lookup_empty, Option.or_none]
  rfl

/-- What the loop has built after some of the tables. -/
structure Built (keyspace : Keyspace) (done : List ((_ : String) × Table)) (building : Building) :
    Prop where
  allocated : building.allocated.length = done.length
  views : ∀ i tableMeta, building.allocated[i]? = some tableMeta →
    tableMeta.views = tableViews keyspace i
  tables : ∀ t i, building.tables.lookup t = some i ↔ ∃ table, done[i]? = some table ∧ table.1 = t
  keyspaceViews : ∀ v, building.views.lookup v =
    if done = [] then none
    else (keyspace.views.lookup v).map (fun view => viewMeta (done.length - 1) ⟨v, view⟩)

theorem Built.addTable {keyspace : Keyspace} {done : List ((_ : String) × Table)}
    {building : Building} (built : Built keyspace done building) {table : (_ : String) × Table}
    (new : table.1 ∉ done.keys) :
    Built keyspace (done ++ [table]) (addTable keyspace building table) := by
  have added : Metadata.addTable keyspace building table =
      { allocated := building.allocated ++
          [{ (createTableMetadata table.1 table.2 : TableMeta) with
              views := tableViews keyspace building.allocated.length }]
        tables := building.tables.insert table.1 building.allocated.length
        views := keyspace.views.entries.foldl
          (fun map view => map.insert view.1 (viewMeta building.allocated.length view))
          building.views } := by
    rw [Metadata.addTable, attachViews_eq]
    rfl
  rw [added]
  refine ⟨?_, ?_, ?_, ?_⟩
  · simp [built.allocated]
  · intro i tableMeta found
    rcases getElem?_snoc found with old | ⟨rfl, rfl⟩
    · exact built.views i tableMeta old
    · rfl
  · intro t i
    by_cases same : t = table.1
    · subst same
      rw [AList.lookup_insert, built.allocated]
      constructor
      · intro is
        cases Option.some.inj is
        exact ⟨table, List.getElem?_concat_length, rfl⟩
      · rintro ⟨table', found, name⟩
        rcases getElem?_snoc found with old | ⟨rfl, -⟩
        · exact absurd (name ▸ List.mem_keys_of_mem (List.mem_of_getElem? old)) new
        · rfl
    · rw [AList.lookup_insert_ne same, built.tables]
      constructor
      · rintro ⟨table', found, name⟩
        have inside := (List.getElem?_eq_some_iff.mp found).1
        exact ⟨table', by rw [List.getElem?_append_left inside, found], name⟩
      · rintro ⟨table', found, name⟩
        rcases getElem?_snoc found with old | ⟨-, rfl⟩
        · exact ⟨table', old, name⟩
        · exact absurd name.symm same
  · intro v
    have nonempty : done ++ [table] ≠ [] := by simp
    rw [lookup_foldl_insert _ keyspace.views.nodupKeys, built.keyspaceViews, built.allocated,
      if_neg nonempty, List.length_append, List.length_singleton, Nat.add_sub_cancel]
    change ((keyspace.views.lookup v).map _).or _ = _
    cases keyspace.views.lookup v with
    | none => simp
    | some view => rfl

theorem keyspaceMeta_built (keyspace : Keyspace) :
    Built keyspace keyspace.tables.entries
      (keyspace.tables.entries.foldl (addTable keyspace) ⟨[], ∅, ∅⟩) := by
  have all : ∀ done : List ((_ : String) × Table), done.NodupKeys →
      Built keyspace done (done.foldl (addTable keyspace) ⟨[], ∅, ∅⟩) := by
    intro done
    induction done using List.reverseRecOn with
    | nil =>
      intro distinct
      exact ⟨rfl, by simp, by simp, by simp⟩
    | append_singleton done table ih =>
      intro distinct
      rw [List.foldl_append]
      have keys : (done.keys ++ [table.1]).Nodup := by
        simpa [List.NodupKeys, List.keys] using distinct
      have parts := List.nodup_append.mp keys
      refine (ih parts.1).addTable (fun member => ?_)
      exact parts.2.2 _ member _ (List.mem_singleton_self _) rfl
  exact all _ keyspace.tables.nodupKeys

namespace CassKeyspaceMeta

/-- The table is found by its name, and the view among its views. -/
def Lists (keyspaceMeta : CassKeyspaceMeta) (t v : String) : Prop :=
  ∃ place tableMeta index viewMeta, keyspaceMeta.tableByName t = some place ∧
    keyspaceMeta.allocated[place]? = some tableMeta ∧
    tableMeta.materializedView index = some viewMeta ∧ viewMeta.name = v

/-- The view is found by its name, in the keyspace or in one of its tables. -/
def Reaches (keyspaceMeta : CassKeyspaceMeta) (v : String) (viewMeta : CassMaterializedViewMeta) :
    Prop :=
  keyspaceMeta.materializedViewByName v = some viewMeta ∨
    ∃ t place tableMeta, keyspaceMeta.tableByName t = some place ∧
      keyspaceMeta.allocated[place]? = some tableMeta ∧
      tableMeta.materializedViewByName v = some viewMeta

end CassKeyspaceMeta

/-- The views are attached to their base tables, and only to these. -/
structure ViewsAttached (keyspace : Keyspace) (keyspaceMeta : CassKeyspaceMeta) : Prop where
  listed : ∀ t ∈ keyspace.tables, ∀ v view, keyspace.views.lookup v = some view →
    (keyspaceMeta.Lists t v ↔ view.baseTableName = t)
  present : ∀ v ∈ keyspace.views, ∃ viewMeta, keyspaceMeta.materializedViewByName v = some viewMeta
  base : ∀ v view viewMeta, keyspace.views.lookup v = some view → keyspaceMeta.Reaches v viewMeta →
    ∃ place, keyspaceMeta.baseTable viewMeta = some place ∧
      keyspaceMeta.tableByName view.baseTableName = some place

/-- There are no views, or one table that is the base table of all. -/
def SingleBase (keyspace : Keyspace) : Prop :=
  keyspace.views.entries = [] ∨
    ∃ table, keyspace.tables.entries = [table] ∧
      ∀ v view, keyspace.views.lookup v = some view → view.baseTableName = table.1

section Keyspaces
variable {name : String} {keyspace : Keyspace}

theorem mem_entries_of_lookup {V : Type} {map : HashMap V} {k : String} {v : V}
    (found : map.lookup k = some v) : (⟨k, v⟩ : (_ : String) × V) ∈ map.entries :=
  List.of_mem_dlookup found

theorem tableByName_iff {t : String} {place : Nat} :
    (keyspaceMeta name keyspace).tableByName t = some place ↔
      ∃ table, keyspace.tables.entries[place]? = some table ∧ table.1 = t :=
  (keyspaceMeta_built keyspace).tables t place

theorem allocated_views {place : Nat} {tableMeta : TableMeta}
    (found : (keyspaceMeta name keyspace).allocated[place]? = some tableMeta) :
    tableMeta.views = tableViews keyspace place :=
  (keyspaceMeta_built keyspace).views place tableMeta found

/- Every view is listed under every table. -/
theorem lists_of_mem {t v : String} {view : MaterializedView} (table : t ∈ keyspace.tables)
    (found : keyspace.views.lookup v = some view) : (keyspaceMeta name keyspace).Lists t v := by
  obtain ⟨entry, member, rfl⟩ := List.mem_map.mp table
  obtain ⟨place, at'⟩ := List.mem_iff_getElem?.mp member
  have length : (keyspaceMeta name keyspace).allocated.length = keyspace.tables.entries.length :=
    (keyspaceMeta_built keyspace).allocated
  have inside : place < (keyspaceMeta name keyspace).allocated.length :=
    length ▸ (List.getElem?_eq_some_iff.mp at').1
  have allocated := List.getElem?_eq_getElem inside
  have own := allocated_views allocated
  have attached : (tableViews keyspace place).lookup v = some (viewMeta place ⟨v, view⟩) := by
    rw [lookup_tableViews, found]
    rfl
  obtain ⟨index, listed⟩ := List.mem_iff_getElem?.mp (mem_entries_of_lookup attached)
  refine ⟨place, _, index, viewMeta place ⟨v, view⟩, tableByName_iff.mpr ⟨entry, at', rfl⟩,
    allocated, ?_, rfl⟩
  rw [CassTableMeta.materializedView, own, listed]
  rfl

theorem baseTable_eq {viewMeta : CassMaterializedViewMeta} {table : (_ : String) × Table}
    (at' : keyspace.tables.entries[viewMeta.baseTable]? = some table) :
    (keyspaceMeta name keyspace).baseTable viewMeta = some viewMeta.baseTable := by
  have found : (keyspaceMeta name keyspace).tables.lookup table.1 = some viewMeta.baseTable :=
    tableByName_iff.mpr ⟨table, at', rfl⟩
  rw [CassKeyspaceMeta.baseTable, if_pos]
  rw [List.any_eq_true]
  exact ⟨_, mem_entries_of_lookup found, beq_self_eq_true _⟩

theorem materializedViewByName_eq {v : String} (tables : keyspace.tables.entries ≠ []) :
    (keyspaceMeta name keyspace).materializedViewByName v =
      (keyspace.views.lookup v).map
        (fun view => viewMeta (keyspace.tables.entries.length - 1) ⟨v, view⟩) := by
  have found := (keyspaceMeta_built keyspace).keyspaceViews v
  rw [if_neg tables] at found
  exact found

theorem reaches_single {table : (_ : String) × Table} (single : keyspace.tables.entries = [table])
    {v : String} {viewMeta : CassMaterializedViewMeta}
    (reaches : (keyspaceMeta name keyspace).Reaches v viewMeta) : viewMeta.baseTable = 0 := by
  rcases reaches with own | ⟨t, place, tableMeta, found, allocated, listed⟩
  · rw [materializedViewByName_eq (by simp [single]), single] at own
    obtain ⟨view, -, rfl⟩ := Option.map_eq_some_iff.mp own
    rfl
  · obtain ⟨table', at', -⟩ := tableByName_iff.mp found
    rw [single] at at'
    have first : place = 0 := by
      have bound := (List.getElem?_eq_some_iff.mp at').1
      rw [List.length_singleton] at bound
      omega
    subst first
    rw [CassTableMeta.materializedViewByName, allocated_views allocated, lookup_tableViews] at listed
    obtain ⟨view, -, rfl⟩ := Option.map_eq_some_iff.mp listed
    rfl

theorem viewsAttached_of_single {table : (_ : String) × Table}
    (single : keyspace.tables.entries = [table])
    (base : ∀ v view, keyspace.views.lookup v = some view → view.baseTableName = table.1) :
    ViewsAttached keyspace (keyspaceMeta name keyspace) := by
  refine ⟨?_, ?_, ?_⟩
  · intro t member v view found
    have here : t = table.1 := by
      have inside : t ∈ keyspace.tables.entries.keys := member
      rw [single] at inside
      exact List.mem_singleton.mp inside
    refine ⟨fun _ => ?_, fun _ => lists_of_mem member found⟩
    rw [base v view found, here]
  · intro v member
    obtain ⟨view, found⟩ := Option.isSome_iff_exists.mp (AList.lookup_isSome.mpr member)
    rw [materializedViewByName_eq (by simp [single]), found]
    exact ⟨_, rfl⟩
  · intro v view viewMeta found reaches
    have zero := reaches_single single reaches
    have at' : keyspace.tables.entries[viewMeta.baseTable]? = some table := by
      rw [zero, single]
      rfl
    exact ⟨_, baseTable_eq at', tableByName_iff.mpr ⟨table, at', (base v view found).symm⟩⟩

theorem viewsAttached_iff :
    ViewsAttached keyspace (keyspaceMeta name keyspace) ↔ SingleBase keyspace := by
  constructor
  · intro attached
    rcases views : keyspace.views.entries with _ | ⟨entry, rest⟩
    · exact .inl views
    · have member : (⟨entry.1, entry.2⟩ : (_ : String) × MaterializedView) ∈ keyspace.views.entries :=
        views ▸ List.mem_cons_self
      have found : keyspace.views.lookup entry.1 = some entry.2 :=
        List.mem_dlookup keyspace.views.nodupKeys member
      -- a view that is present was attached to some table
      have nonempty : keyspace.tables.entries ≠ [] := by
        intro empty
        obtain ⟨viewMeta, present⟩ := attached.present entry.1 (List.mem_keys_of_mem member)
        have absent := (keyspaceMeta_built keyspace).keyspaceViews entry.1
        rw [if_pos empty] at absent
        have same := present.symm.trans absent
        contradiction
      have base : ∀ t ∈ keyspace.tables, ∀ v view, keyspace.views.lookup v = some view →
          view.baseTableName = t :=
        fun t table v view found => (attached.listed t table v view found).mp (lists_of_mem table found)
      obtain ⟨table, tables, is⟩ := List.exists_cons_of_ne_nil nonempty
      have first : table.1 ∈ keyspace.tables := List.mem_keys_of_mem (is ▸ List.mem_cons_self)
      refine .inr ⟨table, ?_, base table.1 first⟩
      rw [is]
      cases tables with
      | nil => rfl
      | cons other tables =>
        have second : other.1 ∈ keyspace.tables :=
          List.mem_keys_of_mem (is ▸ List.mem_cons_of_mem _ List.mem_cons_self)
        have same : table.1 = other.1 :=
          (base _ first _ _ found).symm.trans (base _ second _ _ found)
        have distinct := keyspace.tables.nodupKeys
        rw [is, List.nodupKeys_cons] at distinct
        exact absurd (List.mem_keys_of_mem List.mem_cons_self) (same ▸ distinct.1)
  · rintro (empty | ⟨table, single, base⟩)
    · have absent : ∀ v, keyspace.views.lookup v = none := by
        intro v
        rw [lookup_eq_dlookup, empty]
        rfl
      refine ⟨?_, ?_, ?_⟩
      · intro t member v view found
        rw [absent v] at found
        contradiction
      · intro v member
        exact absurd member (AList.lookup_eq_none.mp (absent v))
      · intro v view viewMeta found
        rw [absent v] at found
        contradiction
    · exact viewsAttached_of_single single base

end Keyspaces

theorem lookup_getSchemaMeta (keyspaces : HashMap Keyspace) (name : String) :
    (getSchemaMeta keyspaces).keyspaces.lookup name =
      (keyspaces.lookup name).map (keyspaceMeta name) := by
  rw [getSchemaMeta, lookup_foldl_insert _ keyspaces.nodupKeys, AList.lookup_empty, Option.or_none]
  rfl

/-- The views of a schema are attached to their base tables, and only to these, exactly
when every keyspace has no views or a single table, the base table of them all. -/
theorem views_attached_iff (keyspaces : HashMap Keyspace) :
    (∀ name keyspace, keyspaces.lookup name = some keyspace →
      ∃ keyspaceMeta, (getSchemaMeta keyspaces).keyspaces.lookup name = some keyspaceMeta ∧
        ViewsAttached keyspace keyspaceMeta) ↔
    ∀ name keyspace, keyspaces.lookup name = some keyspace → SingleBase keyspace := by
  refine forall_congr' (fun name => forall_congr' (fun keyspace => ?_))
  refine imp_congr_right (fun found => ?_)
  rw [lookup_getSchemaMeta, found, ← viewsAttached_iff]
  constructor
  · rintro ⟨keyspaceMeta, is, attached⟩
    cases Option.some.inj is
    exact attached
  · intro attached
    exact ⟨_, rfl, attached⟩

/-- Two tables and a view of the first: the view is listed under the second too. -/
theorem view_attached_to_other_table :
    let table : Table := ⟨∅, ["k"], []⟩
    let keyspace : Keyspace :=
      { userDefinedTypes := ∅
        tables := (AList.singleton "t1" table).insert "t2" table
        views := AList.singleton "v" ⟨table, "t1"⟩ }
    ∃ keyspaceMeta, (getSchemaMeta (AList.singleton "ks" keyspace)).keyspaces.lookup "ks" =
        some keyspaceMeta ∧
      keyspaceMeta.Lists "t2" "v" ∧ ¬ ViewsAttached keyspace keyspaceMeta := by
  intro table keyspace
  have found : (AList.singleton "ks" keyspace : HashMap Keyspace).lookup "ks" = some keyspace := rfl
  have second : "t2" ∈ keyspace.tables := by decide
  have view : keyspace.views.lookup "v" = some ⟨table, "t1"⟩ := rfl
  refine ⟨keyspaceMeta "ks" keyspace, by rw [lookup_getSchemaMeta, found]; rfl,
    lists_of_mem second view, ?_⟩
  intro attached
  have same := (attached.listed "t2" second "v" _ view).mp (lists_of_mem second view)
  exact absurd same (by decide)

end CppRsDriver.Metadata
