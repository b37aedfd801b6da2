import Mathlib.Data.List.Nodup
import Mathlib.Data.List.Perm.Subperm

/-! Names that are given slots one after the other: the slot of a new name is the
number of names there are. -/
namespace CppRsDriver.Lib

variable {K : Type}

/-- The entries of a map, last one first, with distinct keys and slots 0, 1, 2 and so on. -/
def Dense (names : List (K × Nat)) : Prop :=
  (names.map Prod.fst).Nodup ∧ names.map Prod.snd = (List.range names.length).reverse

theorem dense_nil : Dense ([] : List (K × Nat)) := ⟨List.nodup_nil, rfl⟩

theorem Dense.length_le {names : List (K × Nat)} (dense : Dense names) {possible : List K}
    (inside : ∀ entry ∈ names, entry.1 ∈ possible) : names.length ≤ possible.length := by
  have keys : names.map Prod.fst ⊆ possible := by
    intro key member
    obtain ⟨entry, isEntry, rfl⟩ := List.mem_map.mp member
    exact inside entry isEntry
  have shorter := (dense.1.subperm keys).length_le
  rwa [List.length_map] at shorter

variable [DecidableEq K]

theorem mem_of_lookup {names : List (K × Nat)} {key : K} {slot : Nat}
    (found : names.lookup key = some slot) : (key, slot) ∈ names := by
  obtain ⟨before, after, rfl, -⟩ := List.lookup_eq_some_iff.mp found
  simp

theorem Dense.allocate {names : List (K × Nat)} (dense : Dense names) {key : K}
    (absent : names.lookup key = none) : Dense ((key, names.length) :: names) := by
  refine ⟨?_, ?_⟩
  · rw [List.map_cons, List.nodup_cons]
    refine ⟨fun member => ?_, dense.1⟩
    obtain ⟨entry, inside, same⟩ := List.mem_map.mp member
    have differs := List.lookup_eq_none_iff.mp absent entry inside
    simp [same] at differs
  · rw [List.map_cons, dense.2, List.length_cons, List.range_succ, List.reverse_append]
    rfl

theorem Dense.slot_lt {names : List (K × Nat)} (dense : Dense names) {key : K} {slot : Nat}
    (found : names.lookup key = some slot) : slot < names.length := by
  have member : slot ∈ names.map Prod.snd := List.mem_map_of_mem (mem_of_lookup found)
  rw [dense.2, List.mem_reverse] at member
  exact List.mem_range.mp member

theorem lookup_of_mem {names : List (K × Nat)} (distinct : (names.map Prod.fst).Nodup) {key : K}
    {slot : Nat} (member : (key, slot) ∈ names) : names.lookup key = some slot := by
  induction names with
  | nil => contradiction
  | cons entry names ih =>
    obtain ⟨first, firstSlot⟩ := entry
    rw [List.map_cons, List.nodup_cons] at distinct
    rcases List.mem_cons.mp member with same | later
    · cases same
      simp
    · have differs : (key == first) = false := by
        apply beq_eq_false_iff_ne.mpr
        rintro rfl
        exact distinct.1 (List.mem_map.mpr ⟨(key, slot), later, rfl⟩)
      rw [List.lookup_cons, differs]
      exact ih distinct.2 later

theorem Dense.slot_iff {names : List (K × Nat)} (dense : Dense names) (slot : Nat) :
    (∃ key, names.lookup key = some slot) ↔ slot < names.length := by
  constructor
  · rintro ⟨key, found⟩
    exact dense.slot_lt found
  · intro below
    have member : slot ∈ names.map Prod.snd := by
      rw [dense.2, List.mem_reverse]
      exact List.mem_range.mpr below
    obtain ⟨⟨key, _⟩, inside, rfl⟩ := List.mem_map.mp member
    exact ⟨key, lookup_of_mem dense.1 inside⟩

theorem Dense.injective {names : List (K × Nat)} (dense : Dense names) {key other : K} {slot : Nat}
    (left : names.lookup key = some slot) (right : names.lookup other = some slot) :
    key = other := by
  have distinct : (names.map Prod.snd).Nodup := by
    rw [dense.2]
    exact List.nodup_reverse.mpr List.nodup_range
  have same := List.inj_on_of_nodup_map distinct (mem_of_lookup left) (mem_of_lookup right) rfl
  exact congrArg Prod.fst same

end CppRsDriver.Lib
