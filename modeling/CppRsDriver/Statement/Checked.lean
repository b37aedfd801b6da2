import CppRsDriver.Statement.Binding
import CppRsDriver.Statement.Row

/-! Which values reach which columns, and that those of a prepared statement were
checked against them when they were bound. -/
namespace CppRsDriver.Statement

open CppRsDriver.Lib CppRsDriver.Types CppRsDriver.Wire

/-- A value in the slot, null apart, is compatible with the type of the column. -/
def Fits (slot : Slot) (col : ColumnSpec) : Prop :=
  ∀ v, slot = .set (some v) →
    v.isTypeCompatible CassDataType.ops (getColumnType col.typ) = some true

theorem fits_unset (col : ColumnSpec) : Fits .unset col := nofun

theorem fits_null (col : ColumnSpec) : Fits (.set none) col := nofun

theorem fits_of_compatible {value : Option Value} {col : ColumnSpec}
    (compatible : isTypeCompatible CassDataType.ops value (getColumnType col.typ) = some true) :
    Fits (.set value) col := by
  rintro v is
  cases is
  exact compatible

/-- Every slot fits the columns it is written for. -/
def Routed (writtenFor : Nat → ColumnSpec → Prop) (values : List Slot) : Prop :=
  ∀ i slot col, writtenFor i col → values[i]? = some slot → Fits slot col

theorem routed_unset (writtenFor : Nat → ColumnSpec → Prop) (count : Nat) :
    Routed writtenFor (List.replicate count .unset) := by
  intro i slot col _ is
  rw [List.eq_of_mem_replicate (List.mem_of_getElem? is)]
  exact fits_unset col

/- The columns may be assigned to slots anew, if only the slot written to is affected. -/
theorem Routed.set {writtenFor writtenFor' : Nat → ColumnSpec → Prop} {values : List Slot}
    (routed : Routed writtenFor values) {i : Nat} {slot : Slot}
    (others : ∀ j col, j ≠ i → writtenFor' j col → writtenFor j col)
    (fits : ∀ col, writtenFor' i col → Fits slot col) : Routed writtenFor' (values.set i slot) := by
  intro j slot' col target is
  by_cases same : j = i
  · subst same
    rw [List.getElem?_set_self'] at is
    obtain ⟨old, -, rfl⟩ := Option.map_eq_some_iff.mp is
    exact fits col target
  · rw [List.getElem?_set_ne (Ne.symm same)] at is
    exact routed j slot' col (others j col same target) is

/-- The column a slot is written for: the one at its position, or those with a name
that has the slot once there are names. -/
def WrittenFor (names : List (String × Nat)) (columns : List ColumnSpec) (i : Nat)
    (col : ColumnSpec) : Prop :=
  if names = [] then columns[i]? = some col
  else col ∈ columns ∧ names.lookup col.name = some i

theorem WrittenFor.position {names : List (String × Nat)} {columns : List ColumnSpec} {i : Nat}
    {col : ColumnSpec} (unnamed : names = []) (target : columns[i]? = some col) :
    WrittenFor names columns i col := by
  rwa [WrittenFor, if_pos unnamed]

theorem WrittenFor.named {names : List (String × Nat)} {columns : List ColumnSpec} {i : Nat}
    {col : ColumnSpec} (member : col ∈ columns) (slot : names.lookup col.name = some i) :
    WrittenFor names columns i col := by
  rw [WrittenFor, if_neg]
  · exact ⟨member, slot⟩
  · rintro rfl
    contradiction

theorem WrittenFor.lookup {names : List (String × Nat)} {columns : List ColumnSpec} {i : Nat}
    {col : ColumnSpec} (target : WrittenFor names columns i col) (bound : names ≠ []) :
    col ∈ columns ∧ names.lookup col.name = some i := by
  rwa [WrittenFor, if_neg bound] at target

section Runs
variable (describe : String → List ColumnSpec)

/-- The value of a bind to a simple statement fits the columns it is bound for. -/
def FitsWhenBound : BoundStatement → Call → Prop
  | .prepared _, _ => True
  | .simple q, .bind i value =>
    ∀ col, WrittenFor q.nameToBoundIndex (describe q.query) i col → Fits (.set value) col
  | .simple q, .bindByName name value =>
    ∀ col ∈ describe q.query, col.name = (unquote name).1 → Fits (.set value) col
  | .simple _, .resetParameters _ => True

theorem fitsWhenBound_prepared (p : BoundPreparedStatement) (calls : List Call) :
    Guarded (FitsWhenBound describe) step (.prepared p) calls := by
  have keeps : ∀ s c t, (∃ p, s = BoundStatement.prepared p) → step s c = some t →
      ∃ p, t = .prepared p := by
    rintro _ c t ⟨p, rfl⟩ stepped
    cases step_transition stepped with
    | rejected => exact ⟨p, rfl⟩
    | reset => exact ⟨_, rfl⟩
    | prepared _ p' _ _ _ => exact ⟨p', rfl⟩
  refine guarded_of_invariant keeps ?_ ⟨p, rfl⟩ calls
  rintro _ c ⟨p, rfl⟩
  trivial

/-- The slots fit the columns they are going to be written for. -/
def Typed : BoundStatement → Prop
  | .simple q => q.NamesInside ∧
    Routed (WrittenFor q.nameToBoundIndex (describe q.query)) q.boundValues
  | .prepared p => p.statement = .newFromPreparedStatement p.statement.variableColSpecs ∧
    Routed (fun i col => p.statement.variableColSpecs[i]? = some col) p.boundValues

theorem CheckedWrites.typed {value : Option Value} {p p' : BoundPreparedStatement}
    (writes : CheckedWrites value p p') (typed : Typed describe (.prepared p)) :
    Typed describe (.prepared p') := by
  induction writes with
  | done => exact typed
  | write p p' i dt at' compatible rest ih =>
    apply ih
    refine ⟨typed.1, typed.2.set (fun _ _ _ target => target) (fun col target => ?_)⟩
    -- the data type at the position is the one made from the column
    rw [typed.1] at at'
    simp only [CassPrepared.newFromPreparedStatement, List.getElem?_map, target, Option.map_some]
      at at'
    cases Option.some.inj at'
    exact fits_of_compatible compatible

theorem Transition.typed {s t : BoundStatement} {c : Call} (transition : Transition s c t)
    (typed : Typed describe s) (fits : FitsWhenBound describe s c) : Typed describe t := by
  cases transition with
  | rejected => exact typed
  | prepared p p' _ value writes => exact writes.typed describe typed
  | reset s count =>
    cases s with
    | simple q => exact ⟨⟨dense_nil, Nat.zero_le _⟩, routed_unset _ count⟩
    | prepared p => exact ⟨typed.1, routed_unset _ count⟩
  | bind q i value inside =>
    exact ⟨(Transition.bind q i value inside).namesInside typed.1,
      typed.2.set (fun _ _ _ target => target) fits⟩
  | bindKnown q name value i known =>
    refine ⟨(Transition.bindKnown q name value i known).namesInside typed.1,
      typed.2.set (fun _ _ _ target => target) (fun col target => ?_)⟩
    obtain ⟨member, same⟩ := target.lookup (by rintro is; rw [is] at known; contradiction)
    exact fits col member (typed.1.1.injective same known)
  | bindNew q name value absent room =>
    refine ⟨(Transition.bindNew q name value absent room).namesInside typed.1,
      typed.2.set ?_ (fun col target => ?_)⟩
    · -- a slot other than the new one keeps its name
      intro j col other target
      obtain ⟨member, found⟩ := target.lookup (List.cons_ne_nil _ _)
      rw [List.lookup_cons] at found
      split at found
      · exact absurd (Option.some.inj found).symm other
      · exact .named member found
    · -- and no earlier name has the new slot
      obtain ⟨member, found⟩ := target.lookup (List.cons_ne_nil _ _)
      rw [List.lookup_cons] at found
      split at found
      · rename_i same
        exact fits col member (beq_iff_eq.mp same)
      · exact absurd (typed.1.1.slot_lt found) (Nat.lt_irrefl _)

end Runs

theorem Fresh.typed (describe : String → List ColumnSpec) {s : BoundStatement} (fresh : Fresh s) :
    Typed describe s := by
  cases fresh with
  | simple query parameterCount =>
    exact ⟨⟨dense_nil, Nat.zero_le _⟩, routed_unset _ parameterCount⟩
  | prepared colSpecs => exact ⟨rfl, routed_unset _ _⟩

/-- A cell together with the column type and the slot it was written from. -/
structure SentCell where
  typ : ColumnType
  slot : Slot
  bytes : List UInt8

section Sent
variable (sizes : NativeType → Option Nat)

def sendCell (typ : ColumnType) (slot : Slot) : Except SerializationError SentCell :=
  (serializeSlot sizes typ slot).map (fun bytes => ⟨typ, slot, bytes⟩)

/-- The cell was written for the column, from the slot it names. -/
def SentCell.WrittenAs (c : SentCell) (col : ColumnSpec) : Prop :=
  c.typ = col.typ ∧ serializeSlot sizes c.typ c.slot = .ok c.bytes

variable {sizes}

theorem sendCell_from {col : ColumnSpec} {slot : Slot} {c : SentCell}
    (sent : sendCell sizes col.typ slot = .ok c) : c.slot = slot ∧ c.WrittenAs sizes col := by
  rw [sendCell] at sent
  cases written : serializeSlot sizes col.typ slot with
  | error e => simp [written, Except.map] at sent
  | ok bytes =>
    simp only [written, Except.map, Except.ok.injEq] at sent
    cases sent
    exact ⟨rfl, rfl, written⟩

variable {vec : List ColumnSpec → List Slot → Except SerializationError (List SentCell)}

theorem Positional.fits (positional : Positional (sendCell sizes) vec) {columns : List ColumnSpec}
    {values : List Slot} (routed : Routed (fun i col => columns[i]? = some col) values)
    {cells : List SentCell} (sent : vec columns values = .ok cells) :
    ∀ c ∈ cells, ∃ col, c.WrittenAs sizes col ∧ Fits c.slot col := by
  intro c member
  obtain ⟨⟨col, slot⟩, entry, from'⟩ :=
    forall₂_mem_right ((positional columns values cells).mp sent).2 member
  obtain ⟨i, at'⟩ := List.mem_iff_getElem?.mp entry
  obtain ⟨left, right⟩ := List.getElem?_zip_eq_some.mp at'
  obtain ⟨rfl, written⟩ := sendCell_from from'
  exact ⟨col, written, routed i c.slot col left right⟩

theorem serializeColumn_from {self : SimpleQueryRowSerializer} {col : ColumnSpec} {c : SentCell}
    (sent : self.serializeColumn (sendCell sizes) col = .ok c) :
    c.WrittenAs sizes col ∧
      ∃ i, self.nameToBoundIndex.lookup col.name = some i ∧ self.boundValues[i]? = some c.slot := by
  simp only [SimpleQueryRowSerializer.serializeColumn] at sent
  split at sent
  · contradiction
  · rename_i i found
    split at sent
    · contradiction
    · rename_i slot at'
      obtain ⟨rfl, written⟩ := sendCell_from (mapError_eq_ok.mp sent)
      exact ⟨written, i, found, at'⟩

theorem Typed.sent_fits (positional : Positional (sendCell sizes) vec)
    {describe : String → List ColumnSpec} {s : BoundStatement} (typed : Typed describe s)
    {cells : List SentCell} (sent : s.execute (sendCell sizes) vec describe = .ok cells) :
    ∀ c ∈ cells, ∃ col, c.WrittenAs sizes col ∧ Fits c.slot col := by
  cases s with
  | prepared p => exact positional.fits typed.2 (mapError_eq_ok.mp sent)
  | simple q =>
    simp only [BoundStatement.execute, SimpleQueryRowSerializer.serialize] at sent
    split at sent
    · cases Except.ok.inj sent
      simp
    · split at sent
      · rename_i unnamed
        refine positional.fits (fun i slot col target => ?_) (mapError_eq_ok.mp sent)
        exact typed.2 i slot col (.position (List.isEmpty_iff.mp unnamed) target)
      · intro c member
        obtain ⟨col, inside, from'⟩ := forall₂_mem_right (mapM_eq_ok.mp sent) member
        obtain ⟨written, i, found, at'⟩ := serializeColumn_from from'
        exact ⟨col, written, typed.2 i c.slot col (.named inside found) at'⟩

theorem Fresh.typed_of_run {describe : String → List ColumnSpec} {start s : BoundStatement}
    (fresh : Fresh start) {calls : List Call}
    (fits : Guarded (FitsWhenBound describe) step start calls)
    (ran : run step start calls = some s) : Typed describe s :=
  run_invariant_guarded (fun _ _ _ typed fits stepped =>
    (step_transition stepped).typed describe typed fits) (fresh.typed describe) fits ran

/-- No cell of a prepared statement is sent for a column its value is not compatible
with, and none of a simple statement whose values fit when they are bound. -/
theorem no_ill_typed_cell_sent (positional : Positional (sendCell sizes) vec)
    (describe : String → List ColumnSpec) (start s : BoundStatement) (fresh : Fresh start)
    (calls : List Call) (fits : Guarded (FitsWhenBound describe) step start calls)
    (ran : run step start calls = some s) (cells : List SentCell)
    (sent : s.execute (sendCell sizes) vec describe = .ok cells) :
    ∀ c ∈ cells, ∀ v, c.slot = .set (some v) →
      v.isTypeCompatible CassDataType.ops (getColumnType c.typ) = some true := by
  intro c member v is
  obtain ⟨col, ⟨typ, -⟩, fit⟩ := (fresh.typed_of_run fits ran).sent_fits positional sent c member
  rw [typ]
  exact fit v is

end Sent

/- A prepared statement after a bind by name, and a simple one whose two values fit. -/
theorem no_ill_typed_cell_sent_both :
    let columns : List ColumnSpec := [⟨"a", .native .int⟩, ⟨"b", .native .text⟩]
    let seven : Value := .scalar (.int 7)
    let calls : List Call := [.bindByName "a" (some seven), .bind 1 (some (.scalar (.text "b")))]
    let vec := vecSerialize (sendCell standardSize) .sizeOverflow
    (∃ s cells, run step (.newPrepared (.newFromPreparedStatement columns)) calls = some s ∧
        s.execute (sendCell standardSize) vec (fun _ => columns) = .ok cells ∧
        cells.length = 2 ∧ ∀ c ∈ cells, ∀ v, c.slot = .set (some v) →
          v.isTypeCompatible CassDataType.ops (getColumnType c.typ) = some true) ∧
      (∃ s cells, run step (.newUnprepared "q" 2) [.bind 0 (some seven), .bind 1 none] = some s ∧
        s.execute (sendCell standardSize) vec (fun _ => columns) = .ok cells ∧
        cells.length = 2 ∧ ∀ c ∈ cells, ∀ v, c.slot = .set (some v) →
          v.isTypeCompatible CassDataType.ops (getColumnType c.typ) = some true) := by
  intro columns seven calls vec
  have positional := vecSerialize_positional (sendCell standardSize) .sizeOverflow
  refine ⟨⟨_, _, rfl, rfl, rfl, ?_⟩, ⟨_, _, rfl, rfl, rfl, ?_⟩⟩
  · exact no_ill_typed_cell_sent positional (fun _ => columns) _ _ (.prepared columns) calls
      (fitsWhenBound_prepared _ _ calls) rfl _ rfl
  · have fits : Guarded (FitsWhenBound (fun _ => columns)) step (.newUnprepared "q" 2)
        [.bind 0 (some seven), .bind 1 none] := by
      refine ⟨fun col target => ?_, fun next _ => ⟨?_, fun _ _ => trivial⟩⟩
      · have is : columns[0]? = some col := target
        cases is
        exact fits_of_compatible rfl
      · cases next with
        | simple q => exact fun col _ => fits_null col
        | prepared p => trivial
    exact no_ill_typed_cell_sent positional (fun _ => columns) _ _ (.simple "q" 2) _ fits rfl _ rfl

/-- An integer bound to a simple statement is sent for a text column. -/
theorem simple_statement_not_checked :
    let columns : List ColumnSpec := [⟨"a", .native .text⟩]
    let seven : Value := .scalar (.int 7)
    ∃ s c, call (.newUnprepared "q" 1) (.bind 0 (some seven)) = some (.ok, s) ∧
      s.execute (sendCell standardSize) (vecSerialize (sendCell standardSize) .sizeOverflow)
        (fun _ => columns) = .ok [c] ∧
      c.slot = .set (some seven) ∧ c.bytes = [0, 0, 0, 4, 0, 0, 0, 7] ∧
      seven.isTypeCompatible CassDataType.ops (getColumnType c.typ) = some false := by
  intro columns seven
  exact ⟨_, _, rfl, rfl, rfl, rfl, rfl⟩

end CppRsDriver.Statement
