import CppRsDriver.Types.Objects
import CppRsDriver.Types.Termination
import CppRsDriver.Wire.Serialize

/-! A value already built is written the same whatever is done to data types later. Its
serialization reads one fact of them: whether the elements of a vector carry their
length. No modification changes that. -/
namespace CppRsDriver.Wire

open CppRsDriver.Lib CppRsDriver.Types

section Checks
variable {h h' : Heap} {sizes : NativeType → Option Nat}

theorem usesVariableLengthWith_grows {D : Type} {inner after : CassDataTypeInner D} {sub : Option D}
    (grows : inner.Grows after sub) (f : D → Bool) :
    after.usesVariableLengthWith sizes f = inner.usesVariableLengthWith sizes f := by
  cases grows <;> rfl

theorem usesVariableLengthWith_evolves {inner after : CassDataTypeInner Nat}
    (evolves : Heap.Evolves inner after) (f : Nat → Bool) :
    after.usesVariableLengthWith sizes f = inner.usesVariableLengthWith sizes f := by
  induction evolves with
  | refl => rfl
  | tail _ change ih =>
    obtain ⟨_, grows⟩ := change
    exact (usesVariableLengthWith_grows grows f).trans ih

theorem usesVariableLengthWith_congr {D : Type} {inner : CassDataTypeInner D} {f g : D → Bool}
    (same : ∀ typ dimensions, inner = .vector typ dimensions → f typ = g typ) :
    inner.usesVariableLengthWith sizes f = inner.usesVariableLengthWith sizes g := by
  cases inner with
  | vector typ dimensions => exact same typ dimensions rfl
  | _ => rfl

/-- What the check of an element type returns. A vector is younger than its element
type, so this depth is enough. -/
def variableLength (sizes : NativeType → Option Nat) (h : Heap) (d : Nat) : Bool :=
  (h.usesVariableLengthEncodingInVector sizes (d + 1) d).getD true

theorem variableLength_returns (backward : h.VectorsBackward) (d depth : Nat) (deeper : d < depth) :
    h.usesVariableLengthEncodingInVector sizes depth d = some (variableLength sizes h d) := by
  obtain ⟨result, returns⟩ := Heap.usesVariableLength_returns sizes backward d
  rw [returns depth deeper, variableLength, returns (d + 1) (Nat.lt_succ_self d), Option.getD_some]

theorem variableLength_eq (backward : h.VectorsBackward) (d : Nat) :
    variableLength sizes h d = (h.inner d).usesVariableLengthWith sizes (variableLength sizes h) := by
  apply Option.some.inj
  rw [← variableLength_returns backward d (d + 1) (Nat.lt_succ_self d)]
  apply CassDataTypeInner.usesVariableLengthM_eq
  intro typ dimensions is
  exact variableLength_returns backward typ d (backward d typ dimensions is)

theorem variableLength_changes (changes : Heap.Changes h h') (closed : h.Closed h.valid)
    (backward : h.VectorsBackward) (d : Nat) (valid : h.valid d) :
    variableLength sizes h' d = variableLength sizes h d := by
  have backward' := changes.vectorsBackward backward
  induction d using Nat.strong_induction_on with
  | h d ih =>
    have evolves := (changes.evolves valid).2
    rw [variableLength_eq backward, variableLength_eq backward', usesVariableLengthWith_evolves evolves]
    apply usesVariableLengthWith_congr
    intro typ dimensions is
    have child : h.valid typ := by
      apply closed d valid
      rw [is]
      exact List.mem_singleton_self typ
    exact ih typ (backward d typ dimensions is) child

end Checks

theorem doSerialize_congr {D : Type} {f g : D → Bool} (v : CassCqlValue D)
    (same : ∀ d, v.RefersTo d → f d = g d) : doSerialize f v = doSerialize g v := by
  revert same
  induction v using CassCqlValue.forall_parts with
  | step v ih =>
    intro same
    have parts : v.layer (doSerialize f) = v.layer (doSerialize g) := by
      apply CassCqlValue.layer_congr
      intro w member
      exact ih w member (fun d refers => same d (.part v w d member refers))
    calc doSerialize f v
      _ = serializeWith f (v.layer (doSerialize f)) := CassCqlValue.fold_eq_layer _ v
      _ = serializeWith f (v.layer (doSerialize g)) := by rw [parts]
      _ = serializeWith g (v.layer (doSerialize g)) := by
        cases v with
        | vector dataType elementType values =>
          have element := same elementType (.elementType _ _ rfl)
          funext writer
          simp only [CassCqlValue.layer, serializeWith, contentWith, element]
        | _ => rfl
      _ = doSerialize g v := (CassCqlValue.fold_eq_layer _ v).symm

/-- A value that a client has built is written the same, or fails the same, after any
later calls: in both states the check of its element types returns, and with that the
value gives the same bytes. -/
theorem later_calls_keep_bytes (sizes : NativeType → Option Nat) (fuel laterFuel : Nat)
    (calls later : List Call) (s t : State) (ran : run (step fuel) {} calls = some s)
    (ranLater : run (step laterFuel) s later = some t) (argument : Argument) (v : CassCqlValue Nat)
    (built : argumentOf (s.heap.ops fuel) s.objects argument = some (.ok (some v))) :
    (∀ d, v.RefersTo d →
      Returns (fun depth => s.heap.usesVariableLengthEncodingInVector sizes depth d)
        (variableLength sizes s.heap d) ∧
      Returns (fun depth => t.heap.usesVariableLengthEncodingInVector sizes depth d)
        (variableLength sizes t.heap d)) ∧
    ∀ writer, doSerialize (variableLength sizes t.heap) v writer =
      doSerialize (variableLength sizes s.heap) v writer := by
  have sound := run_sound ran
  have changes := run_changes sound.closed ranLater
  have backward := (run_changes Heap.empty_closed ran).vectorsBackward Heap.empty_vectorsBackward
  have backward' := changes.vectorsBackward backward
  have valid := sound.argument (argumentOf_converts built)
  constructor
  · intro d _
    exact ⟨⟨d + 1, variableLength_returns backward d⟩, ⟨d + 1, variableLength_returns backward' d⟩⟩
  · have same : doSerialize (variableLength sizes t.heap) v =
        doSerialize (variableLength sizes s.heap) v := by
      apply doSerialize_congr
      intro d refers
      exact variableLength_changes changes sound.closed backward d (valid d refers)
    exact fun writer => congrFun same writer

/- A vector of one tuple; later the element type gets a second subtype. -/
theorem later_calls_keep_bytes_vector :
    ∃ s t v, run (step 3) {} [.dataTypeNewTuple, .addSubValueType 0 .int, .dataTypeNewVector 0 1,
        .tupleNewFromDataType 0, .vectorNewFromDataType 2, .set 1 (.vectorSet 0) (.object 0)] = some s ∧
      run (step 3) s [.addSubValueType 0 .text] = some t ∧
      argumentOf (s.heap.ops 3) s.objects (.object 1) = some (.ok (some v)) ∧
      ∀ writer, doSerialize (variableLength (fun _ => none) t.heap) v writer =
        doSerialize (variableLength (fun _ => none) s.heap) v writer := by
  refine ⟨_, _, _, rfl, rfl, rfl, ?_⟩
  have kept := later_calls_keep_bytes (fun _ => none) 3 3 [.dataTypeNewTuple, .addSubValueType 0 .int,
    .dataTypeNewVector 0 1, .tupleNewFromDataType 0, .vectorNewFromDataType 2,
    .set 1 (.vectorSet 0) (.object 0)] [.addSubValueType 0 .text] _ _ rfl rfl (.object 1) _ rfl
  exact kept.2

end CppRsDriver.Wire
