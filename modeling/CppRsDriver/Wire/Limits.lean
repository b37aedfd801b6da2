import CppRsDriver.Wire.Serialize

/-! When serialization fails: a value whose vectors have every slot set can only be
too long, or have too many elements. -/
namespace CppRsDriver.Wire

open CppRsDriver.Lib CppRsDriver.Types

/-- The failure comes from a length or a count that is no `i32`. -/
def SerializationError.isSizeLimit : SerializationError → Bool
  | .sizeOverflow | .listTooManyElements | .mapTooManyElements => true
  | .tupleElement _ err | .listElement err | .mapKey err | .mapValue err | .vectorElement err
  | .udtField _ err => err.isSizeLimit
  | .vectorElementNotSet _ => false

def slotsSetWith {D : Type} : ValueLayer D Bool → Bool
  | .scalar _ => true
  | .tuple _ fields => fields.all (fun field => field.all id)
  | .list _ values | .set _ values => values.all id
  | .map _ values => values.all (fun pair => pair.1 && pair.2)
  | .vector _ _ values => values.all (fun element => element.any id)
  | .userDefinedType _ fields => fields.all (fun field => field.2.all id)

/-- Every slot of every vector in the value is set. -/
def slotsSet {D : Type} : CassCqlValue D → Bool := CassCqlValue.fold slotsSetWith

theorem counted_eq_error {count : Nat} {tooMany e : SerializationError}
    {elements : Except SerializationError (List UInt8)}
    (failed : counted count tooMany elements = .error e) : e = tooMany ∨ elements = .error e := by
  unfold counted at failed
  split at failed
  · cases elements with
    | error inner => exact .inr failed
    | ok bytes => contradiction
  · exact .inl (Except.error.inj failed).symm

section Limits
variable {D : Type} {variableLength : D → Bool}

/-- Every failure to write the value is one of the size limits. -/
def OnlyLimits (variableLength : D → Bool) (v : CassCqlValue D) : Prop :=
  ∀ writer e, doSerialize variableLength v writer = .error e → e.isSizeLimit = true

theorem onlyLimits_of_content {v : CassCqlValue D}
    (limits : ∀ e, content variableLength v = .error e → e.isSizeLimit = true) :
    OnlyLimits variableLength v := by
  intro writer e failed
  rw [doSerialize_eq] at failed
  rcases bind_eq_error.mp failed with inner | ⟨bytes, inner, unfinished⟩
  · exact limits e inner
  · cases writer with
    | withoutSize => contradiction
    | sized =>
      simp only [finish] at unfinished
      split at unfinished
      · contradiction
      · cases Except.error.inj unfinished
        rfl

theorem limits_mapError {v : CassCqlValue D} {writer : CellWriter}
    {wrap : SerializationError → SerializationError} {e : SerializationError}
    (only : OnlyLimits variableLength v)
    (failed : (doSerialize variableLength v writer).mapError wrap = .error e)
    (wraps : ∀ err, (wrap err).isSizeLimit = err.isSizeLimit) :
    e.isSizeLimit = true := by
  obtain ⟨inner, fails, rfl⟩ := mapError_eq_error.mp failed
  rw [wraps]
  exact only writer inner fails

theorem limits_mapCells {pair : CassCqlValue D × CassCqlValue D} {index : Nat}
    {e : SerializationError} (key : OnlyLimits variableLength pair.1)
    (value : OnlyLimits variableLength pair.2)
    (failed : mapCells index
      (doSerialize variableLength pair.1, doSerialize variableLength pair.2) = .error e) :
    e.isSizeLimit = true := by
  rcases bind_eq_error.mp failed with first | ⟨keyCell, -, failed⟩
  · exact limits_mapError key first (fun _ => rfl)
  · rcases bind_eq_error.mp failed with second | ⟨valueCell, -, failed⟩
    · exact limits_mapError value second (fun _ => rfl)
    · contradiction

theorem limits_vectorElement {v : CassCqlValue D} {prefixed : Bool} {index : Nat}
    {e : SerializationError} (only : OnlyLimits variableLength v)
    (failed : vectorElement prefixed index (some (doSerialize variableLength v)) = .error e) :
    e.isSizeLimit = true := by
  rcases bind_eq_error.mp failed with inner | ⟨bytes, -, failed⟩
  · exact limits_mapError only inner (fun _ => rfl)
  · contradiction

theorem limits_elements {dataType : Option D} {values : List (CassCqlValue D)}
    {e : SerializationError} (only : ∀ v ∈ values, OnlyLimits variableLength v)
    (failed : content variableLength (.list dataType values) = .error e) :
    e.isSizeLimit = true := by
  rw [content_list] at failed
  rcases counted_eq_error failed with rfl | failed
  · rfl
  · obtain ⟨i, v, member, fails⟩ := writeEach_error failed
    exact limits_mapError (only v member) fails (fun _ => rfl)

/-- A value with every vector slot set fails to serialize only at the size limits. -/
theorem only_limits (v : CassCqlValue D) : slotsSet v = true → OnlyLimits variableLength v := by
  refine CassCqlValue.forall_values (motive := fun v => slotsSet v = true → OnlyLimits variableLength v)
    ⟨?scalar, ?tuple, ?list, ?map, ?set, ?vector, ?userDefinedType⟩ v
  case scalar =>
    intro s set
    exact onlyLimits_of_content (fun e failed => by contradiction)
  case tuple =>
    intro dataType fields ih set
    simp only [slotsSet, CassCqlValue.fold, CassCqlValue.foldOptions_eq, slotsSetWith, List.all_map,
      List.all_eq_true] at set
    refine onlyLimits_of_content (fun e failed => ?_)
    rw [content_tuple] at failed
    obtain ⟨i, field, member, fails⟩ := writeEach_error failed
    cases field with
    | none => contradiction
    | some v => exact limits_mapError (ih v member (set _ member)) fails (fun _ => rfl)
  case list =>
    intro dataType values ih set
    simp only [slotsSet, CassCqlValue.fold, CassCqlValue.foldList_eq, slotsSetWith, List.all_map,
      List.all_eq_true] at set
    exact onlyLimits_of_content (fun e =>
      limits_elements (fun v member => ih v member (set v member)))
  case set =>
    intro dataType values ih set
    simp only [slotsSet, CassCqlValue.fold, CassCqlValue.foldList_eq, slotsSetWith, List.all_map,
      List.all_eq_true] at set
    refine onlyLimits_of_content (fun e failed => ?_)
    rw [content_set] at failed
    exact limits_elements (fun v member => ih v member (set v member)) failed
  case map =>
    intro dataType values ih set
    simp only [slotsSet, CassCqlValue.fold, CassCqlValue.foldPairs_eq, slotsSetWith, List.all_map,
      List.all_eq_true, Function.comp_apply, Bool.and_eq_true] at set
    refine onlyLimits_of_content (fun e failed => ?_)
    rw [content_map] at failed
    rcases counted_eq_error failed with rfl | failed
    · rfl
    · obtain ⟨i, pair, member, fails⟩ := writeEach_error failed
      obtain ⟨key, value⟩ := ih pair member
      exact limits_mapCells (key (set pair member).1) (value (set pair member).2) fails
  case vector =>
    intro dataType elementType values ih set
    simp only [slotsSet, CassCqlValue.fold, CassCqlValue.foldOptions_eq, slotsSetWith, List.all_map,
      List.all_eq_true] at set
    refine onlyLimits_of_content (fun e failed => ?_)
    rw [content_vector] at failed
    obtain ⟨i, element, member, fails⟩ := writeEach_error failed
    cases element with
    | none => exact absurd (set _ member) (by simp)
    | some v => exact limits_vectorElement (ih v member (set _ member)) fails
  case userDefinedType =>
    intro dataType fields ih set
    simp only [slotsSet, CassCqlValue.fold, CassCqlValue.foldNamed_eq, slotsSetWith, List.all_map,
      List.all_eq_true] at set
    refine onlyLimits_of_content (fun e failed => ?_)
    rw [content_userDefinedType] at failed
    obtain ⟨i, ⟨name, field⟩, member, fails⟩ := writeEach_error failed
    cases field with
    | none => contradiction
    | some v => exact limits_mapError (ih name v member (set _ member)) fails (fun _ => rfl)

end Limits

end CppRsDriver.Wire
