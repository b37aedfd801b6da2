import Mathlib.Data.List.AList

/-! Maps filled by a loop over the entries of another map. -/
namespace CppRsDriver.Lib

variable {K V W : Type} [DecidableEq K]

theorem lookup_foldl_insert (f : (_ : K) × V → W) {entries : List ((_ : K) × V)}
    (distinct : entries.NodupKeys) (start : AList (fun _ : K => W)) (k : K) :
    (entries.foldl (fun map e => map.insert e.1 (f e)) start).lookup k =
      ((entries.dlookup k).map (fun v => f ⟨k, v⟩)).or (start.lookup k) := by
  induction entries generalizing start with
  | nil => rfl
  | cons e rest ih =>
    obtain ⟨new, distinct⟩ := List.nodupKeys_cons.mp distinct
    rw [List.foldl_cons, ih distinct]
    obtain ⟨key, v⟩ := e
    by_cases same : k = key
    · subst same
      rw [List.dlookup_eq_none.mpr new, List.dlookup_cons_eq, AList.lookup_insert]
      rfl
    · rw [AList.lookup_insert_ne same, List.dlookup_cons_ne _ _ same]

theorem lookup_eq_dlookup {map : AList (fun _ : K => V)} {k : K} :
    map.lookup k = map.entries.dlookup k := rfl

end CppRsDriver.Lib
