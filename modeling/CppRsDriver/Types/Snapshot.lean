import CppRsDriver.Types.DataType

/-! A data type that is not modified any more, unfolded into a tree. The recursive
checks of a data type are folds of their one-layer bodies over the tree. -/
namespace CppRsDriver.Types

inductive CassDataType where
  | mk (inner : CassDataTypeInner CassDataType)

namespace CassDataType

def inner : CassDataType → CassDataTypeInner CassDataType
  | .mk inner => inner

section Fold
variable {α : Type} (f : CassDataTypeInner α → α)

mutual
def fold : CassDataType → α
  | .mk inner => f (foldInner inner)
termination_by structural d => d

def foldInner : CassDataTypeInner CassDataType → CassDataTypeInner α
  | .value t => .value t
  | .udt u => .udt
    { fieldTypes := foldFields u.fieldTypes, keyspace := u.keyspace, name := u.name,
      frozen := u.frozen }
  | .list typ frozen => .list (foldOption typ) frozen
  | .set typ frozen => .set (foldOption typ) frozen
  | .map typ frozen => .map (foldMap typ) frozen
  | .tuple types => .tuple (foldList types)
  | .vector typ dimensions => .vector (fold typ) dimensions
  | .custom className => .custom className
termination_by structural d => d

def foldOption : Option CassDataType → Option α
  | none => none
  | some typ => some (fold typ)
termination_by structural d => d

def foldMap : MapDataType CassDataType → MapDataType α
  | .untyped => .untyped
  | .key k => .key (fold k)
  | .keyAndValue k v => .keyAndValue (fold k) (fold v)
termination_by structural d => d

def foldList : List CassDataType → List α
  | [] => []
  | typ :: types => fold typ :: foldList types
termination_by structural d => d

def foldFields : List (String × CassDataType) → List (String × α)
  | [] => []
  | (name, typ) :: fields => (name, fold typ) :: foldFields fields
termination_by structural d => d
end

theorem foldList_eq (types : List CassDataType) : foldList f types = types.map (fold f) := by
  induction types with
  | nil => rw [foldList, List.map_nil]
  | cons typ types ih => rw [foldList, ih, List.map_cons]

theorem foldFields_eq (fields : List (String × CassDataType)) :
    foldFields f fields = fields.map (fun field => (field.1, fold f field.2)) := by
  induction fields with
  | nil => rw [foldFields, List.map_nil]
  | cons field fields ih => rw [foldFields, ih, List.map_cons]

theorem fold_mk (inner : CassDataTypeInner CassDataType) :
    fold f (.mk inner) = f (inner.mapSubtypes (fold f)) := by
  rw [fold]
  congr 1
  cases inner with
  | udt u => simp only [foldInner, foldFields_eq]; rfl
  | list typ frozen => cases typ <;> simp only [foldInner, foldOption] <;> rfl
  | set typ frozen => cases typ <;> simp only [foldInner, foldOption] <;> rfl
  | map typ frozen => cases typ <;> simp only [foldInner, foldMap] <;> rfl
  | tuple types => simp only [foldInner, foldList_eq]; rfl
  | _ => rw [foldInner]; rfl

end Fold

section Induction
variable {P : CassDataType → Prop}

mutual
/-- Induction over the tree: a type has the property if all its subtypes do. -/
theorem forall_types (step : ∀ inner : CassDataTypeInner CassDataType,
    (∀ d ∈ inner.children, P d) → P (.mk inner)) : ∀ d, P d
  | .mk (.value t) => step _ (by simp [CassDataTypeInner.children])
  | .mk (.custom c) => step _ (by simp [CassDataTypeInner.children])
  | .mk (.udt u) => step _ (forall_fields step u.fieldTypes)
  | .mk (.list typ frozen) => step _ (forall_option step typ)
  | .mk (.set typ frozen) => step _ (forall_option step typ)
  | .mk (.map .untyped frozen) => step _ (by simp [CassDataTypeInner.children])
  | .mk (.map (.key k) frozen) => step _ (by
      have hk := forall_types step k
      simpa [CassDataTypeInner.children] using hk)
  | .mk (.map (.keyAndValue k v) frozen) => step _ (by
      have hk := forall_types step k
      have hv := forall_types step v
      simpa [CassDataTypeInner.children] using ⟨hk, hv⟩)
  | .mk (.tuple types) => step _ (forall_list step types)
  | .mk (.vector typ dimensions) => step _ (by
      have ht := forall_types step typ
      simpa [CassDataTypeInner.children] using ht)
termination_by structural d => d

theorem forall_option (step : ∀ inner : CassDataTypeInner CassDataType,
    (∀ d ∈ inner.children, P d) → P (.mk inner)) :
    ∀ typ : Option CassDataType, ∀ d ∈ typ.toList, P d
  | none => by simp
  | some t => by
    have ht := forall_types step t
    simpa using ht
termination_by structural typ => typ

theorem forall_list (step : ∀ inner : CassDataTypeInner CassDataType,
    (∀ d ∈ inner.children, P d) → P (.mk inner)) :
    ∀ types : List CassDataType, ∀ d ∈ types, P d
  | [] => by simp
  | t :: types => by
    have ht := forall_types step t
    have hs := forall_list step types
    simpa using ⟨ht, hs⟩
termination_by structural types => types

theorem forall_fields (step : ∀ inner : CassDataTypeInner CassDataType,
    (∀ d ∈ inner.children, P d) → P (.mk inner)) :
    ∀ fields : List (String × CassDataType), ∀ d ∈ fields.map Prod.snd, P d
  | [] => by simp
  | (name, t) :: fields => by
    have ht := forall_types step t
    have hs := forall_fields step fields
    rw [List.map_cons, List.forall_mem_cons]
    exact ⟨ht, hs⟩
termination_by structural fields => fields
end

end Induction

end CassDataType

end CppRsDriver.Types
