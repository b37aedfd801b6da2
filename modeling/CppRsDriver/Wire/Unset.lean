import CppRsDriver.Wire.Limits

/-! Which failure serialization reports. Within the size limits it fails only for a
vector slot that was never set, and reports the first one it comes to. -/
namespace CppRsDriver.Wire

open CppRsDriver.Lib CppRsDriver.Types

/-- The failure inside all the reports of where it happened. -/
def SerializationError.innermost : SerializationError → SerializationError
  | .tupleElement _ err | .listElement err | .mapKey err | .mapValue err | .vectorElement err
  | .udtField _ err => err.innermost
  | err => err

section First
variable {α β : Type}

/-- The first index found in a list whose items are numbered from `start` on. -/
def firstOf (find : Nat → α → Option Nat) : Nat → List α → Option Nat
  | _, [] => none
  | start, x :: xs => (find start x).or (firstOf find (start + 1) xs)

theorem firstOf_map (g : β → α) (find : Nat → α → Option Nat) (start : Nat) (xs : List β) :
    firstOf find start (xs.map g) = firstOf (fun i x => find i (g x)) start xs := by
  induction xs generalizing start with
  | nil => rfl
  | cons x xs ih => rw [List.map_cons, firstOf, firstOf, ih]

theorem firstOf_eq_none {find : Nat → α → Option Nat} {p : α → Bool} {xs : List α}
    (each : ∀ i, ∀ x ∈ xs, find i x = none ↔ p x = true) (start : Nat) :
    firstOf find start xs = none ↔ xs.all p = true := by
  induction xs generalizing start with
  | nil => simp [firstOf]
  | cons x xs ih =>
    have head := each start x List.mem_cons_self
    have tail := ih (fun i y member => each i y (List.mem_cons_of_mem x member)) (start + 1)
    rw [firstOf, Option.or_eq_none_iff, head, tail, List.all_cons, Bool.and_eq_true]

end First

section Unset
variable {D : Type}

/- A null field of a tuple or user type is written as such; only the slots of vectors
have to be set. -/
def firstUnsetWith : ValueLayer D (Option Nat) → Option Nat
  | .scalar _ => none
  | .tuple _ fields => firstOf (fun _ field => field.bind id) 0 fields
  | .list _ values | .set _ values => firstOf (fun _ value => value) 0 values
  | .map _ values => firstOf (fun _ pair => pair.1.or pair.2) 0 values
  | .vector _ _ values => firstOf (fun i element => element.elim (some i) id) 0 values
  | .userDefinedType _ fields => firstOf (fun _ field => field.2.bind id) 0 fields

/-- The index of the first unset slot of a vector, from left to right and into the parts
of a value before going on. -/
def firstUnset : CassCqlValue D → Option Nat := CassCqlValue.fold firstUnsetWith

/- The items whose number is written in front of them. -/
def itemCount : CassCqlValue D → Nat
  | .list _ values | .set _ values => values.length
  | .map _ values => values.length
  | _ => 0

/- The elements of a vector are no cells of their own. -/
def partWriter : CassCqlValue D → CellWriter
  | .vector _ _ _ => .withoutSize
  | _ => .sized

/-- Every cell and every number of items in the value fits in an `i32`. -/
inductive CellsFit (variableLength : D → Bool) : CellWriter → CassCqlValue D → Prop where
  | intro (writer v)
      (cell : writer = .sized → ∀ bytes, content variableLength v = .ok bytes → bytes.length < 2 ^ 31)
      (count : itemCount v < 2 ^ 31)
      (parts : ∀ w ∈ v.parts, CellsFit variableLength (partWriter v) w) :
      CellsFit variableLength writer v

/-- A value without an unset slot is written; with one, the failure names it. -/
inductive Reports : Option Nat → Except SerializationError (List UInt8) → Prop where
  | written (bytes) : Reports none (.ok bytes)
  | unset (i e) (is : SerializationError.innermost e = .vectorElementNotSet i) : Reports (some i) (.error e)

variable {first second : Option Nat} {result : Except SerializationError (List UInt8)}

theorem Reports.bind {next : List UInt8 → Except SerializationError (List UInt8)}
    (reports : Reports first result) (rest : ∀ bytes, result = .ok bytes → Reports second (next bytes)) :
    Reports (first.or second) (result.bind next) := by
  cases reports with
  | written bytes => exact rest bytes rfl
  | unset i e is => exact .unset i e is

theorem Reports.map (reports : Reports first result) (f : List UInt8 → List UInt8) :
    Reports first (result.map f) := by
  cases reports with
  | written bytes => exact .written (f bytes)
  | unset i e is => exact .unset i e is

theorem Reports.bind_ok (reports : Reports first result) (f : List UInt8 → List UInt8) :
    Reports first (result.bind (fun bytes => .ok (f bytes))) := by
  cases reports with
  | written bytes => exact .written (f bytes)
  | unset i e is => exact .unset i e is

theorem Reports.mapError {wrap : SerializationError → SerializationError}
    (reports : Reports first result) (wraps : ∀ e, (wrap e).innermost = e.innermost) :
    Reports first (result.mapError wrap) := by
  cases reports with
  | written bytes => exact .written bytes
  | unset i e is => exact .unset i (wrap e) ((wraps e).trans is)

theorem reports_writeEach {α : Type} {find : Nat → α → Option Nat}
    {write : Nat → α → Except SerializationError (List UInt8)} {xs : List α}
    (each : ∀ i, ∀ x ∈ xs, Reports (find i x) (write i x)) (start : Nat) :
    Reports (firstOf find start xs) (writeEach write start xs) := by
  induction xs generalizing start with
  | nil => exact .written []
  | cons x xs ih =>
    have tail := ih (fun i y member => each i y (List.mem_cons_of_mem x member)) (start + 1)
    exact (each start x List.mem_cons_self).bind (fun chunk _ => tail.map _)

theorem reports_counted {count : Nat} {tooMany : SerializationError} (fits : count < 2 ^ 31)
    (reports : Reports first result) : Reports first (counted count tooMany result) := by
  rw [counted, if_pos fits]
  exact reports.map _

theorem reports_mapCells {key value : Serializer} (keyReports : Reports first (key .sized))
    (valueReports : Reports second (value .sized)) (index : Nat) :
    Reports (first.or second) (mapCells index (key, value)) := by
  have keyCell : Reports first ((key .sized).mapError .mapKey) := keyReports.mapError (fun _ => rfl)
  have valueCell : Reports second ((value .sized).mapError .mapValue) :=
    valueReports.mapError (fun _ => rfl)
  exact keyCell.bind (fun bytes _ => valueCell.bind_ok (bytes ++ ·))

theorem reports_vectorElement {element : Serializer} (reports : Reports first (element .withoutSize))
    (prefixed : Bool) (index : Nat) : Reports first (vectorElement prefixed index (some element)) := by
  have written : Reports first ((element .withoutSize).mapError .vectorElement) :=
    reports.mapError (fun _ => rfl)
  exact written.bind_ok _

variable {variableLength : D → Bool}

theorem reports_content (v : CassCqlValue D) (count : itemCount v < 2 ^ 31)
    (parts : ∀ w ∈ v.parts, Reports (firstUnset w) (doSerialize variableLength w (partWriter v))) :
    Reports (firstUnset v) (content variableLength v) := by
  have layered : firstUnset v = firstUnsetWith (v.layer firstUnset) := CassCqlValue.fold_eq_layer _ v
  rw [layered]
  cases v with
  | scalar s => exact .written (scalarBytes s)
  | tuple dataType fields =>
    rw [content_tuple]
    simp only [CassCqlValue.layer, firstUnsetWith, firstOf_map]
    apply reports_writeEach
    intro i field member
    cases field with
    | none => exact .written nullCell
    | some w => exact (parts w (CassCqlValue.mem_parts_tuple member)).mapError (fun _ => rfl)
  | list dataType values =>
    rw [content_list]
    simp only [CassCqlValue.layer, firstUnsetWith, firstOf_map]
    apply reports_counted count
    apply reports_writeEach
    exact fun i w member => (parts w member).mapError (fun _ => rfl)
  | set dataType values =>
    rw [content_set, content_list]
    simp only [CassCqlValue.layer, firstUnsetWith, firstOf_map]
    apply reports_counted count
    apply reports_writeEach
    exact fun i w member => (parts w member).mapError (fun _ => rfl)
  | map dataType values =>
    rw [content_map]
    simp only [CassCqlValue.layer, firstUnsetWith, firstOf_map]
    apply reports_counted count
    apply reports_writeEach
    intro i pair member
    obtain ⟨key, value⟩ := CassCqlValue.mem_parts_map member
    exact reports_mapCells (parts _ key) (parts _ value) i
  | vector dataType elementType values =>
    rw [content_vector]
    simp only [CassCqlValue.layer, firstUnsetWith, firstOf_map]
    apply reports_writeEach
    intro i element member
    cases element with
    | none => exact .unset i _ rfl
    | some w => exact reports_vectorElement (parts w (CassCqlValue.mem_parts_vector member)) _ i
  | userDefinedType dataType fields =>
    rw [content_userDefinedType]
    simp only [CassCqlValue.layer, firstUnsetWith, firstOf_map]
    apply reports_writeEach
    intro i field member
    obtain ⟨name, slot⟩ := field
    cases slot with
    | none => exact .written nullCell
    | some w =>
      exact (parts w (CassCqlValue.mem_parts_userDefinedType member)).mapError (fun _ => rfl)

/-- Within the size limits the first unset slot decides. -/
theorem reports_doSerialize (v : CassCqlValue D) :
    ∀ writer, CellsFit variableLength writer v →
      Reports (firstUnset v) (doSerialize variableLength v writer) := by
  induction v using CassCqlValue.forall_parts with
  | step v ih =>
    intro writer fits
    obtain ⟨_, _, cell, count, parts⟩ := fits
    have inside := reports_content v count (fun w member => ih w member _ (parts w member))
    rw [doSerialize_eq, ← Option.or_none (o := firstUnset v)]
    apply inside.bind
    intro bytes written
    cases writer with
    | withoutSize => exact .written bytes
    | sized =>
      rw [finish, if_pos (cell rfl bytes written)]
      exact .written _

theorem firstUnset_eq_none (v : CassCqlValue D) : firstUnset v = none ↔ slotsSet v = true := by
  induction v using CassCqlValue.forall_parts with
  | step v ih =>
    have layered : firstUnset v = firstUnsetWith (v.layer firstUnset) := CassCqlValue.fold_eq_layer _ v
    have layered' : slotsSet v = slotsSetWith (v.layer slotsSet) := CassCqlValue.fold_eq_layer _ v
    rw [layered, layered']
    cases v with
    | scalar s => simp [CassCqlValue.layer, firstUnsetWith, slotsSetWith]
    | tuple dataType fields =>
      simp only [CassCqlValue.layer, firstUnsetWith, slotsSetWith, firstOf_map, List.all_map]
      apply firstOf_eq_none
      intro i field member
      cases field with
      | none => simp
      | some w => exact ih w (CassCqlValue.mem_parts_tuple member)
    | list dataType values | set dataType values =>
      simp only [CassCqlValue.layer, firstUnsetWith, slotsSetWith, firstOf_map, List.all_map]
      exact firstOf_eq_none (fun i w member => ih w member) 0
    | map dataType values =>
      simp only [CassCqlValue.layer, firstUnsetWith, slotsSetWith, firstOf_map, List.all_map]
      apply firstOf_eq_none
      intro i pair member
      obtain ⟨key, value⟩ := CassCqlValue.mem_parts_map member
      rw [Option.or_eq_none_iff, ih _ key, ih _ value]
      exact (Bool.and_eq_true _ _).to_iff.symm
    | vector dataType elementType values =>
      simp only [CassCqlValue.layer, firstUnsetWith, slotsSetWith, firstOf_map, List.all_map]
      apply firstOf_eq_none
      intro i element member
      cases element with
      | none => simp
      | some w => exact ih w (CassCqlValue.mem_parts_vector member)
    | userDefinedType dataType fields =>
      simp only [CassCqlValue.layer, firstUnsetWith, slotsSetWith, firstOf_map, List.all_map]
      apply firstOf_eq_none
      intro i field member
      obtain ⟨name, slot⟩ := field
      cases slot with
      | none => simp
      | some w => exact ih w (CassCqlValue.mem_parts_userDefinedType member)

end Unset

/-- A value whose cells and numbers of items fit in an `i32` fails to serialize exactly if
some vector in it has an unset slot, and then the innermost error names the first one. -/
theorem fails_exactly_on_unset {D : Type} (variableLength : D → Bool) (v : CassCqlValue D)
    (writer : CellWriter) (fits : CellsFit variableLength writer v) :
    ((∃ e, doSerialize variableLength v writer = .error e) ↔ slotsSet v = false) ∧
    ∀ e, doSerialize variableLength v writer = .error e →
      ∃ i, firstUnset v = some i ∧ e.innermost = .vectorElementNotSet i := by
  have reports := reports_doSerialize v writer fits
  have none_iff := firstUnset_eq_none v
  generalize doSerialize variableLength v writer = result at reports
  generalize firstUnset v = first at reports none_iff
  cases reports with
  | written bytes =>
    have set := none_iff.mp rfl
    simp [set]
  | unset i e is =>
    have unset : slotsSet v = false := by
      rw [← Bool.not_eq_true, ← none_iff]
      simp
    simp [unset, is]

/- A tuple of a null and a vector whose second slot is not set. -/
theorem fails_exactly_on_unset_tuple :
    ∃ e, doSerialize (fun _ : Unit => false)
        (.tuple none [none, some (.vector () () [some (.scalar (.int 1)), none])]) .sized = .error e ∧
      e.innermost = .vectorElementNotSet 1 := by
  have element : CellsFit (fun _ : Unit => false) .withoutSize (.scalar (.int 1)) :=
    .intro _ _ nofun (by decide) nofun
  have vector : CellsFit (fun _ : Unit => false) .sized
      (.vector () () [some (.scalar (.int 1)), none]) := by
    refine .intro _ _ (fun _ bytes written => ?_) (by decide) (List.forall_mem_singleton.mpr element)
    cases written
  have fits : CellsFit (fun _ : Unit => false) .sized
      (.tuple none [none, some (.vector () () [some (.scalar (.int 1)), none])]) := by
    refine .intro _ _ (fun _ bytes written => ?_) (by decide) (List.forall_mem_singleton.mpr vector)
    cases written
  obtain ⟨fails, reports⟩ := fails_exactly_on_unset _ _ .sized fits
  obtain ⟨e, failed⟩ := fails.mpr rfl
  obtain ⟨i, first, is⟩ := reports e failed
  cases Option.some.inj first
  exact ⟨e, failed, is⟩

end CppRsDriver.Wire
