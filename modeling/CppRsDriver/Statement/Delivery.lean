import CppRsDriver.Statement.Checked
import CppRsDriver.Types.Contents
import CppRsDriver.Wire.Soundness

/-! From the calls that build a container to the cell the server reads: what was put
into the container is what the cell of a prepared statement is decoded to. -/
namespace CppRsDriver.Statement

open CppRsDriver.Lib CppRsDriver.Types CppRsDriver.Wire

section Containers
variable {fuel : Nat} {calls : List Types.Call} {state : Types.State} {tree : Nat → CassDataType}

theorem container_value_wellTyped (careful : Guarded (Careful fuel) (Types.step fuel) {} calls)
    (ran : run (Types.step fuel) {} calls = some state)
    (unfolds : state.heap.Unfolds state.inUse tree)
    (usable : ∀ object ∈ state.objects, usableType (object.dataType.map tree))
    {argument : Argument} {v : CassCqlValue Nat}
    (value : argumentOf (state.heap.ops fuel) state.objects argument = some (.ok (some v))) :
    WellTyped CassDataType.ops usableType (v.mapTypes tree) := by
  have inv := careful_run_invariant careful ran
  have typed := argumentOf_wellTyped inv.objects value
  have moved := typed.hom (unfolds.hom state.inUse_closed fuel) (fun _ root => State.root_inUse root)
  refine moved.mono ?_
  rintro _ ⟨dataType, ⟨-, object, member, rfl⟩, rfl⟩
  exact usable object member

end Containers

section Rows
variable {sizes : NativeType → Option Nat}
  {vec : List ColumnSpec → List Slot → Except SerializationError (List SentCell)}

theorem prepared_cell_decodes (standard : ∀ t k, sizes t = some k → standardSize t = some k)
    (positional : Positional (sendCell sizes) vec) {colSpecs : List ColumnSpec} {calls : List Call}
    {s : BoundStatement}
    (ran : run step (.newPrepared (.newFromPreparedStatement colSpecs)) calls = some s)
    {describe : String → List ColumnSpec} {cells : List SentCell}
    (sent : s.execute (sendCell sizes) vec describe = .ok cells) {c : SentCell} (member : c ∈ cells)
    {v : Value} (slot : c.slot = .set (some v)) (typed : WellTyped CassDataType.ops usableType v)
    (nonempty : c.typ.nonemptyTuples = true) (fields : sameFields v c.typ = true) :
    decodeCell sizes c.typ c.bytes = some (some (cqlValue v)) := by
  have run := (Fresh.prepared colSpecs).typed_of_run (fitsWhenBound_prepared describe _ calls) ran
  obtain ⟨col, ⟨typ, written⟩, fits⟩ := run.sent_fits positional sent c member
  rw [slot] at written
  have accepted := fits v slot
  rw [← typ] at accepted
  exact wellTyped_value_decodes sizes standard typed nonempty fields accepted written

/-- A container built by a run of calls that modifies no data type in use, bound to a
prepared statement by any run of binds and resets, arrives as it is. -/
theorem container_delivered (standard : ∀ t k, sizes t = some k → standardSize t = some k)
    (positional : Positional (sendCell sizes) vec) {fuel : Nat} {building : List Types.Call}
    {state : Types.State} (careful : Guarded (Careful fuel) (Types.step fuel) {} building)
    (built : run (Types.step fuel) {} building = some state) {tree : Nat → CassDataType}
    (unfolds : state.heap.Unfolds state.inUse tree)
    (usable : ∀ object ∈ state.objects, usableType (object.dataType.map tree))
    {argument : Argument} {v : CassCqlValue Nat}
    (value : argumentOf (state.heap.ops fuel) state.objects argument = some (.ok (some v)))
    {colSpecs : List ColumnSpec} {binding : List Call} {s : BoundStatement}
    (bound : run step (.newPrepared (.newFromPreparedStatement colSpecs)) binding = some s)
    {describe : String → List ColumnSpec} {cells : List SentCell}
    (sent : s.execute (sendCell sizes) vec describe = .ok cells) {c : SentCell} (member : c ∈ cells)
    (slot : c.slot = .set (some (v.mapTypes tree))) (nonempty : c.typ.nonemptyTuples = true)
    (fields : sameFields (v.mapTypes tree) c.typ = true) :
    decodeCell sizes c.typ c.bytes = some (some (cqlValue (v.mapTypes tree))) :=
  prepared_cell_decodes standard positional bound sent member slot
    (container_value_wellTyped careful built unfolds usable value) nonempty fields

end Rows

end CppRsDriver.Statement
