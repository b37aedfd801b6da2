import CppRsDriver.Result.Getters
import CppRsDriver.Result.ItemCount

/-! What a column holds on the wire, and what of it a client can see. -/
namespace CppRsDriver.Result.Iteration

open CppRsDriver.Lib CppRsDriver.Types CppRsDriver.Wire

def frames (cells : List (Option (List UInt8))) : List UInt8 := (cells.map frameCell).flatten

/-- What a client sees of a value that it reads with the getters and iterators for its type. -/
inductive Seen where
  | null
  | scalar (output : Output)
  | sequence (items : List Seen)
  | entries (items : List (Seen × Seen))
  | fields (items : List (String × Seen))

/-- A cell and what is in it. -/
abbrev Sent := Option (List UInt8) × Seen

/-- What a cell of a column carries, as a server may write it. A cell without bytes is not a null,
but a client cannot tell it from one, except where it is a string, a blob or a user-defined type.
Items, keys, values and fields may be null or empty; the last fields of a tuple or a user-defined
type may be left out, and those of a user-defined type are nulls then. -/
inductive Carries (sizes : NativeType → Option Nat) :
    ColumnType → Option (List UInt8) → Seen → Prop where
  | null (c) : Carries sizes c none .null
  | empty (c) (emptiable : keepsEmpty c = false) : Carries sizes c (some []) .null
  | native (t x) (stored : Stored t x) (full : isHollow t x = false) :
      Carries sizes (.native t) (some (scalarBytes x)) (.scalar (outputOf t x))
  | list (c frozen) (items : List Sent) (few : items.length < 2 ^ 31)
      (small : ∀ item ∈ items, Framable item.1) (sub : ∀ item ∈ items, Carries sizes c item.1 item.2) :
      Carries sizes (.list c frozen)
        (some (beBytes 4 items.length ++ frames (items.map Prod.fst))) (.sequence (items.map Prod.snd))
  | set (c frozen) (items : List Sent) (few : items.length < 2 ^ 31)
      (small : ∀ item ∈ items, Framable item.1) (sub : ∀ item ∈ items, Carries sizes c item.1 item.2) :
      Carries sizes (.set c frozen)
        (some (beBytes 4 items.length ++ frames (items.map Prod.fst))) (.sequence (items.map Prod.snd))
  | map (key value frozen) (entries : List (Sent × Sent)) (few : entries.length < 2 ^ 31)
      (small : ∀ entry ∈ entries, Framable entry.1.1 ∧ Framable entry.2.1)
      (keys : ∀ entry ∈ entries, Carries sizes key entry.1.1 entry.1.2)
      (values : ∀ entry ∈ entries, Carries sizes value entry.2.1 entry.2.2) :
      Carries sizes (.map key value frozen)
        (some (beBytes 4 entries.length ++
          (entries.map (fun entry => frameEntry (entry.1.1, entry.2.1))).flatten))
        (.entries (entries.map (fun entry => (entry.1.2, entry.2.2))))
  | tuple (fields : List (ColumnType × Sent)) (others : List ColumnType) (nonempty : fields ≠ [])
      (small : ∀ field ∈ fields, Framable field.2.1)
      (sub : ∀ field ∈ fields, Carries sizes field.1 field.2.1 field.2.2) :
      Carries sizes (.tuple (fields.map Prod.fst ++ others))
        (some (frames (fields.map (fun field => field.2.1))))
        (.sequence (fields.map (fun field => field.2.2)))
  | vector (c dimensions) (items : List (List UInt8 × Seen)) (length : items.length = dimensions.toNat)
      (small : ∀ item ∈ items, item.1.length < 2 ^ 31)
      (fixed : ∀ item ∈ items, ∀ k, fixedSize sizes c = some k → item.1.length = k)
      (nonempty : (items.map (fun item => vectorChunk (fixedSize sizes c) item.1)).flatten ≠ [])
      (sub : ∀ item ∈ items, Carries sizes c (some item.1) item.2) :
      Carries sizes (.vector c dimensions)
        (some (items.map (fun item => vectorChunk (fixedSize sizes c) item.1)).flatten)
        (.sequence (items.map Prod.snd))
  | userDefinedType (fields : List ((String × ColumnType) × Sent)) (keyspace name frozen)
      (written : Nat) (rest : ∀ field ∈ fields.drop written, field.2.1 = none)
      (small : ∀ field ∈ fields, Framable field.2.1)
      (sub : ∀ field ∈ fields, Carries sizes field.1.2 field.2.1 field.2.2) :
      Carries sizes (.userDefinedType (fields.map Prod.fst) keyspace name frozen)
        (some (frames ((fields.take written).map (fun field => field.2.1))))
        (.fields (fields.map (fun field => (field.1.1, field.2.2))))

section Seen
variable (sizes : NativeType → Option Nat)

mutual
/- Of a value of the driver; varints, tuples and vectors without bytes are nulls. -/
def seen : ColumnType → CqlValue → Seen
  | .native t, .scalar x => if isHollow t x then .null else .scalar (outputOf t x)
  | .list c _, .list values => .sequence (values.map (seen c))
  | .set c _, .set values => .sequence (values.map (seen c))
  | .map key value _, .map pairs =>
    .entries (pairs.map (fun pair => (seen key pair.1, seen value pair.2)))
  | .tuple types, .tuple fields =>
    if types.isEmpty then .null else .sequence (seenFields types fields)
  | .vector c dimensions, .vector values =>
    if dimensions = 0 ∨ fixedSize sizes c = some 0 then .null
    else .sequence (values.map (fun value => value.elim .null (seen c)))
  | .userDefinedType fieldTypes _ _ _, .userDefinedType fields => .fields (seenNamed fieldTypes fields)
  | _, _ => .null
termination_by structural c => c

def seenFields : List ColumnType → List (Option CqlValue) → List Seen
  | c :: types, field :: fields => field.elim .null (seen c) :: seenFields types fields
  | _, _ => []
termination_by structural types => types

def seenNamed : List (String × ColumnType) → List (String × Option CqlValue) → List (String × Seen)
  | (name, c) :: types, field :: fields => (name, field.2.elim .null (seen c)) :: seenNamed types fields
  | _, _ => []
termination_by structural types => types
end

theorem seenFields_eq {α : Type} (typ : α → ColumnType) (field : α → Option CqlValue) (xs : List α) :
    seenFields sizes (xs.map typ) (xs.map field) =
      xs.map (fun x => (field x).elim .null (seen sizes (typ x))) := by
  induction xs with
  | nil => rfl
  | cons x xs ih => rw [List.map_cons, List.map_cons, seenFields, ih, List.map_cons]

theorem seenNamed_eq {α : Type} (typ : α → String × ColumnType) (field : α → String × Option CqlValue)
    (xs : List α) : seenNamed sizes (xs.map typ) (xs.map field) =
      xs.map (fun x => ((typ x).1, (field x).2.elim .null (seen sizes (typ x).2))) := by
  induction xs with
  | nil => rfl
  | cons x xs ih => rw [List.map_cons, List.map_cons, seenNamed, ih, List.map_cons]

end Seen

end CppRsDriver.Result.Iteration
