import CppRsDriver.Lib.Memory
import CppRsDriver.Lib.Runs
import CppRsDriver.Result.Row

/-! The metadata that the executions of a prepared statement share. Whether it belongs to
a result is decided by comparing addresses of column specs, and the specs nobody holds
any more may be freed and their cells used for other specs. -/
namespace CppRsDriver.Result.MetadataCache

open CppRsDriver.Lib CppRsDriver.Statement

/-- Metadata and the column specs, still held, that it is kept for: the content of the
cache, or a result and its metadata. -/
structure Described where
  specs : Slice
  metadata : CassResultMetadata

/-- How far an execution has got: where in `try_update_and_get_result_metadata` or
`from_result_payload` it is, with what it holds there. -/
inductive Execution where
  -- sent with the result columns that were current then
  | sent (cached : Slice)
  -- the rows are here, and the columns that describe them
  | received (specs : Slice)
  -- `update_if_necessary`, before it loads the cache, after that, and before it stores
  | updating (specs newGuard : Slice)
  | comparing (specs newGuard : Slice) (inner : Described)
  | storing (specs : Slice) (inner new : Described)
  -- `get_metadata_unless_stale`, before and after it loads the cache
  | updated (specs : Slice)
  | checking (specs : Slice) (inner : Described)
  | stale (specs : Slice)
  | finished (result : Described)
  -- failed, or its result was freed
  | dropped

namespace Execution

/-- One step of an execution, and the cache after it. -/
def advance (memory : Memory ColumnSpec) (current : Slice) (cache : Described) :
    Execution → Option (Described × Execution)
  | .received specs => some (cache, .updating specs current)
  | .updating specs newGuard => some (cache, .comparing specs newGuard cache)
  | .comparing specs newGuard inner =>
    if inner.specs = newGuard then some (cache, .updated specs)
    else some (cache, .storing specs inner ⟨newGuard, .fromColumnSpecs (memory.read newGuard)⟩)
  | .storing specs _ new => some (new, .updated specs)
  | .updated specs => some (cache, .checking specs cache)
  | .checking specs inner =>
    if inner.specs = specs then some (cache, .finished ⟨specs, inner.metadata⟩)
    else some (cache, .stale specs)
  | .stale specs => some (cache, .finished ⟨specs, .fromColumnSpecs (memory.read specs)⟩)
  | .sent _ | .finished _ | .dropped => none

/-- The metadata an execution holds. -/
def described : Execution → List Described
  | .comparing _ _ inner | .checking _ inner => [inner]
  | .storing _ inner new => [inner, new]
  | .finished result => [result]
  | _ => []

/-- The columns an execution keeps alive next to those of its metadata. -/
def slices : Execution → List Slice
  | .sent cached => [cached]
  | .received specs | .storing specs _ _ | .updated specs | .checking specs _ | .stale specs =>
    [specs]
  | .updating specs newGuard | .comparing specs newGuard _ => [specs, newGuard]
  | .finished _ | .dropped => []

def held (e : Execution) : List Slice := e.slices ++ e.described.map Described.specs

end Execution

structure State where
  memory : Memory ColumnSpec
  current : Slice
  cache : Described
  executions : List Execution

/-- `CassResultMetadataCache::new`. -/
def State.new (memory : Memory ColumnSpec) (current : Slice) : State where
  memory
  current
  cache := ⟨current, .fromColumnSpecs (memory.read current)⟩
  executions := []

/-- Everything that may not be written over. -/
def State.live (s : State) : List Slice :=
  s.current :: s.cache.specs :: s.executions.flatMap Execution.held

/-- Where the columns of a response come from. -/
inductive Source where
  | cached
  | current
  | fresh (addr : Nat) (columns : List ColumnSpec)

inductive Action where
  | changeMetadata (addr : Nat) (columns : List ColumnSpec)
  | execute
  | receive (e : Nat) (source : Source)
  -- the columns of a response become those of the statement
  | publish (e : Nat)
  | advance (e : Nat)
  | drop (e : Nat)

def State.allocate (s : State) (addr : Nat) (columns : List ColumnSpec) : Option (State × Slice) :=
  let slice : Slice := ⟨addr, columns.length⟩
  if ∀ other ∈ s.live, other.Disjoint slice then
    some ({ s with memory := s.memory.write addr columns }, slice)
  else none

def State.setExecution (s : State) (e : Nat) (execution : Execution) : State :=
  { s with executions := s.executions.set e execution }

def step (s : State) : Action → Option State
  | .changeMetadata addr columns =>
    (s.allocate addr columns).map (fun (s, slice) => { s with current := slice })
  | .execute => some { s with executions := s.executions ++ [.sent s.current] }
  | .receive e source =>
    match s.executions[e]? with
    | some (.sent cached) =>
      match source with
      | .cached => some (s.setExecution e (.received cached))
      | .current => some (s.setExecution e (.received s.current))
      | .fresh addr columns =>
        (s.allocate addr columns).map (fun (s, slice) => s.setExecution e (.received slice))
    | _ => none
  | .publish e =>
    match s.executions[e]? with
    | some (.received specs) => some { s with current := specs }
    | _ => none
  | .advance e =>
    match s.executions[e]? with
    | some execution =>
      (execution.advance s.memory s.current s.cache).map (fun (cache, next) =>
        { s with cache, executions := s.executions.set e next })
    | none => none
  | .drop e =>
    match s.executions[e]? with
    | some (.sent _) | some (.finished _) => some (s.setExecution e .dropped)
    | _ => none

section Invariant
variable {s t : State}

def Described.Current (d : Described) (memory : Memory ColumnSpec) : Prop :=
  d.metadata = .fromColumnSpecs (memory.read d.specs)

/-- Whatever is held as the metadata of some columns is what these columns say. -/
structure State.Current (s : State) : Prop where
  cache : s.cache.Current s.memory
  executions : ∀ execution ∈ s.executions, ∀ d ∈ execution.described, d.Current s.memory

theorem State.new_current (memory : Memory ColumnSpec) (current : Slice) :
    (State.new memory current).Current where
  cache := rfl
  executions := by simp [State.new]

theorem State.Current.setExecution (inv : s.Current) (e : Nat) {execution : Execution}
    (current : ∀ d ∈ execution.described, d.Current s.memory) :
    (s.setExecution e execution).Current where
  cache := inv.cache
  executions := by
    intro other member
    rcases List.mem_or_eq_of_mem_set member with old | rfl
    · exact inv.executions other old
    · exact current

/- Only what nobody holds is written over, and the columns of metadata are held. -/
theorem State.Current.allocate (inv : s.Current) {addr : Nat} {columns : List ColumnSpec}
    {slice : Slice} (allocated : s.allocate addr columns = some (t, slice)) : t.Current := by
  simp only [State.allocate] at allocated
  split at allocated
  · rename_i free
    cases allocated
    have kept : ∀ d : Described, d.specs ∈ s.live → d.Current s.memory →
        d.Current (s.memory.write addr columns) := by
      intro d live current
      rw [Described.Current, Memory.read_write_disjoint (free d.specs live)]
      exact current
    constructor
    · apply kept _ _ inv.cache
      simp [State.live]
    · intro execution member d held
      apply kept d _ (inv.executions execution member d held)
      have own : d.specs ∈ execution.held :=
        List.mem_append_right _ (List.mem_map_of_mem held)
      exact List.mem_cons_of_mem _ (List.mem_cons_of_mem _ (List.mem_flatMap_of_mem member own))
  · contradiction

/- The one place where metadata is taken from the cache: the addresses are equal, and the
cache still holds its columns, so these are the columns of the result. -/
theorem Execution.advance_current {memory : Memory ColumnSpec} {current : Slice}
    {cache cache' : Described} {execution next : Execution} (inv : cache.Current memory)
    (own : ∀ d ∈ execution.described, d.Current memory)
    (advanced : execution.advance memory current cache = some (cache', next)) :
    cache'.Current memory ∧ ∀ d ∈ next.described, d.Current memory := by
  cases execution with
  | sent cached | dropped => cases advanced
  | finished result => cases advanced
  | received specs =>
    cases advanced
    exact ⟨inv, by simp [described]⟩
  | updating specs newGuard =>
    cases advanced
    exact ⟨inv, by simpa [described] using inv⟩
  | comparing specs newGuard inner =>
    simp only [advance] at advanced
    split at advanced
    · cases advanced
      exact ⟨inv, by simp [described]⟩
    · cases advanced
      have built : (⟨newGuard, .fromColumnSpecs (memory.read newGuard)⟩ : Described).Current memory :=
        rfl
      have loaded : inner.Current memory := own inner (by simp [described])
      exact ⟨inv, by simpa [described] using ⟨loaded, built⟩⟩
  | storing specs inner new =>
    cases advanced
    exact ⟨own cache' (by simp [described]), by simp [described]⟩
  | updated specs =>
    cases advanced
    exact ⟨inv, by simpa [described] using inv⟩
  | checking specs inner =>
    have loaded : inner.Current memory := own inner (by simp [described])
    simp only [advance] at advanced
    split at advanced
    · rename_i same
      cases advanced
      subst same
      exact ⟨inv, by simpa [described] using loaded⟩
    · cases advanced
      exact ⟨inv, by simp [described]⟩
  | stale specs =>
    cases advanced
    have built : (⟨specs, .fromColumnSpecs (memory.read specs)⟩ : Described).Current memory := rfl
    exact ⟨inv, by simpa [described] using built⟩

theorem step_current (inv : s.Current) {a : Action} (stepped : step s a = some t) : t.Current := by
  cases a with
  | changeMetadata addr columns =>
    obtain ⟨⟨next, slice⟩, allocated, rfl⟩ := Option.map_eq_some_iff.mp stepped
    have kept := inv.allocate allocated
    exact ⟨kept.cache, kept.executions⟩
  | execute =>
    cases stepped
    refine ⟨inv.cache, ?_⟩
    intro execution member
    rcases List.mem_append.mp member with old | new
    · exact inv.executions execution old
    · rw [List.mem_singleton.mp new]
      simp [Execution.described]
  | receive e source =>
    simp only [step] at stepped
    split at stepped
    · cases source with
      | cached | current =>
        cases stepped
        exact inv.setExecution e (by simp [Execution.described])
      | fresh addr columns =>
        obtain ⟨⟨next, slice⟩, allocated, rfl⟩ := Option.map_eq_some_iff.mp stepped
        exact (inv.allocate allocated).setExecution e (by simp [Execution.described])
    · contradiction
  | publish e =>
    simp only [step] at stepped
    split at stepped
    · cases stepped
      exact ⟨inv.cache, inv.executions⟩
    · contradiction
  | advance e =>
    simp only [step] at stepped
    split at stepped
    · rename_i execution found
      obtain ⟨⟨cache, next⟩, advanced, rfl⟩ := Option.map_eq_some_iff.mp stepped
      have own := inv.executions execution (List.mem_of_getElem? found)
      obtain ⟨cacheCurrent, nextCurrent⟩ := Execution.advance_current inv.cache own advanced
      exact ⟨cacheCurrent, (inv.setExecution e nextCurrent).executions⟩
    · contradiction
  | drop e =>
    simp only [step] at stepped
    split at stepped
    · cases stepped
      exact inv.setExecution e (by simp [Execution.described])
    · cases stepped
      exact inv.setExecution e (by simp [Execution.described])
    · contradiction

end Invariant

/-- However executions and changes of the metadata interleave, a result has the metadata
of its own columns, so that its rows have the columns of its frame with their types. -/
theorem result_described_by_own_columns {ε : Type} (d : ColumnDecoder ε)
    {memory : Memory ColumnSpec} {current : Slice} {actions : List Action} {t : State}
    (ran : run step (State.new memory current) actions = some t)
    {result : Described} (member : Execution.finished result ∈ t.executions) :
    result.metadata = .fromColumnSpecs (t.memory.read result.specs) ∧
      ∀ bytes row, CassRow.fromRawRowAndMetadata
          (d.columns (t.memory.read result.specs) bytes) result.metadata = .ok row →
        row.columns.length = result.specs.len ∧ row.Of (t.memory.read result.specs) := by
  have keeps : ∀ s a t, State.Current s → step s a = some t → t.Current :=
    fun _ _ _ inv stepped => step_current inv stepped
  have inv := run_invariant keeps (State.new_current memory current) ran
  have own : result.metadata = .fromColumnSpecs (t.memory.read result.specs) :=
    inv.executions _ member result (by simp [Execution.described])
  refine ⟨own, ?_⟩
  intro bytes row built
  rw [own] at built
  have rowOf := CassRow.fromRawRowAndMetadata_of d built
  refine ⟨?_, rowOf⟩
  rw [← rowOf.length_eq]
  simp [Memory.read]

/-- The second response is at the address the cache was made for, with another column. -/
def addressReused : List Action :=
  [.changeMetadata 1 [⟨"b", .native .text⟩], .execute, .receive 0 .cached] ++
    List.replicate 4 (.advance 0) ++
    [.execute, .receive 1 (.fresh 0 [⟨"c", .native .boolean⟩])] ++
    List.replicate 6 (.advance 1)

theorem result_described_by_own_columns_reused :
    ∃ t metadata,
      run step (State.new (fun _ => ⟨"a", .native .int⟩) ⟨0, 1⟩) addressReused = some t ∧
      Execution.finished ⟨⟨0, 1⟩, metadata⟩ ∈ t.executions ∧
      metadata = .fromColumnSpecs (t.memory.read ⟨0, 1⟩) := by
  have ran : run step (State.new (fun _ => ⟨"a", .native .int⟩) ⟨0, 1⟩) addressReused = some _ :=
    rfl
  refine ⟨_, _, ran, List.mem_cons_of_mem _ List.mem_cons_self, ?_⟩
  let nullCells : ColumnDecoder Unit :=
    { columns := fun specs _ => specs.map (fun spec => .ok ⟨0, spec, none⟩)
      columns_specs := by
        intro specs bytes
        rw [List.forall₂_map_right_iff, List.forall₂_same]
        rintro spec - _ ⟨⟩
        rfl }
  exact (result_described_by_own_columns nullCells ran
    (List.mem_cons_of_mem _ List.mem_cons_self)).1

end CppRsDriver.Result.MetadataCache
