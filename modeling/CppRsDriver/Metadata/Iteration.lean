import CppRsDriver.Lib.Walk
import CppRsDriver.Metadata.Columns
import CppRsDriver.Metadata.Views

/-! Iterators over schema metadata. Each one counts the entries of a map when it is made and
then steps through positions; a getter looks its position up in the map again. -/
namespace CppRsDriver.Metadata

open CppRsDriver.Lib CppRsDriver.Types

section Iterators

/-- The iterators over a keyspace's, a table's and other metadata are all alike. -/
structure MetaIterator (M : Type) where
  value : M
  count : Nat
  position : Option Nat

def MetaIterator.next {M : Type} (it : MetaIterator M) : Bool × MetaIterator M :=
  let newPos := it.position.elim 0 (fun prevPos => prevPos + 1)
  (decide (newPos < it.count), { it with position := some newPos })

/-- What the map has at the position, if `next` was called at all. -/
def MetaIterator.nth {M V : Type} (it : MetaIterator M) (map : M → HashMap V) : Option V :=
  it.position.bind (fun pos => (map it.value).entries[pos]?.map Sigma.snd)

abbrev CassSchemaMetaIterator := MetaIterator CassSchemaMeta
abbrev CassKeyspaceMetaIterator := MetaIterator CassKeyspaceMeta
abbrev CassTableMetaIterator := MetaIterator TableMeta
abbrev CassViewMetaIterator := MetaIterator CassMaterializedViewMeta

inductive CassColumnsMetaIterator where
  | fromTable (it : CassTableMetaIterator)
  | fromView (it : CassViewMetaIterator)

inductive CassMaterializedViewsMetaIterator where
  | fromKeyspace (it : CassKeyspaceMetaIterator)
  | fromTable (it : CassTableMetaIterator)

/-- The iterators derived from schema metadata. -/
inductive CassIterator where
  | keyspacesMeta (it : CassSchemaMetaIterator)
  | tablesMeta (it : CassKeyspaceMetaIterator)
  | userTypes (it : CassKeyspaceMetaIterator)
  | materializedViewsMeta (it : CassMaterializedViewsMetaIterator)
  | columnsMeta (it : CassColumnsMetaIterator)

namespace CassIterator

def next : CassIterator → Bool × CassIterator
  | .keyspacesMeta it => (it.next.1, .keyspacesMeta it.next.2)
  | .tablesMeta it => (it.next.1, .tablesMeta it.next.2)
  | .userTypes it => (it.next.1, .userTypes it.next.2)
  | .materializedViewsMeta (.fromKeyspace it) =>
    (it.next.1, .materializedViewsMeta (.fromKeyspace it.next.2))
  | .materializedViewsMeta (.fromTable it) =>
    (it.next.1, .materializedViewsMeta (.fromTable it.next.2))
  | .columnsMeta (.fromTable it) => (it.next.1, .columnsMeta (.fromTable it.next.2))
  | .columnsMeta (.fromView it) => (it.next.1, .columnsMeta (.fromView it.next.2))

/- A getter that does not belong to the iterator returns a null pointer. -/

end CassIterator

def MetaIterator.new {M V : Type} (map : M → HashMap V) (value : M) : MetaIterator M :=
  ⟨value, (map value).entries.length, none⟩

end Iterators

section Accessors

end Accessors

section Walking
variable {M V : Type}

/-- The loop of a client: `cass_iterator_next` until it returns false, and a getter after
each of the other calls. -/
def listed (get : CassIterator → Option V) (n : Nat) (it : CassIterator) : Option (List V) :=
  collect (fun it => some it.next) get n it

/-- An iterator stands before the entries of its map that are left. -/
def Ahead (map : M → HashMap V) (wrap : MetaIterator M → CassIterator) (it : CassIterator)
    (slots : List (Option V)) : Prop :=
  ∃ inner, it = wrap inner ∧ inner.count = (map inner.value).entries.length ∧
    slots = ((map inner.value).entries.drop (inner.position.elim 0 (fun pos => pos + 1))).map
      (fun entry => some entry.2)

def Shows (map : M → HashMap V) (wrap : MetaIterator M → CassIterator) (it : CassIterator) (v : V) :
    Prop :=
  ∃ inner, it = wrap inner ∧ inner.nth map = some v

theorem iterators_walk (map : M → HashMap V) (wrap : MetaIterator M → CassIterator)
    (steps : ∀ inner, (wrap inner).next = (inner.next.1, wrap inner.next.2)) :
    Walks (fun it : CassIterator => some it.next) (Ahead map wrap) (Shows map wrap) where
  pass := by
    rintro _ slot rest ⟨inner, rfl, counted, ahead⟩
    obtain ⟨value, count, position⟩ := inner
    dsimp only at counted ahead
    subst counted
    let at' := position.elim 0 (fun pos => pos + 1)
    have inside : at' < (map value).entries.length := by
      by_contra outside
      rw [List.drop_eq_nil_of_le (Nat.not_lt.mp outside)] at ahead
      cases ahead
    rw [List.drop_eq_getElem_cons inside, List.map_cons] at ahead
    obtain ⟨rfl, rfl⟩ := List.cons.inj ahead
    refine ⟨wrap ⟨value, (map value).entries.length, some at'⟩, ?_, ⟨_, rfl, rfl, rfl⟩, ?_⟩
    · rw [steps]
      exact congrArg some (Prod.ext (decide_eq_true inside) rfl)
    · rintro _ ⟨⟩
      refine ⟨_, rfl, ?_⟩
      simp only [MetaIterator.nth, Option.bind_some, List.getElem?_eq_getElem inside, Option.map_some]
  finish := by
    rintro _ ⟨inner, rfl, counted, ahead⟩
    obtain ⟨value, count, position⟩ := inner
    dsimp only at counted ahead
    subst counted
    let at' := position.elim 0 (fun pos => pos + 1)
    have outside : (map value).entries.length ≤ at' := by
      have nothing := List.map_eq_nil_iff.mp ahead.symm
      exact List.drop_eq_nil_iff.mp nothing
    refine ⟨wrap ⟨value, (map value).entries.length, some at'⟩, ?_, _, rfl, rfl, ?_⟩
    · rw [steps]
      exact congrArg some (Prod.ext (decide_eq_false (Nat.not_lt.mpr outside)) rfl)
    · have past : (map value).entries.drop (at' + 1) = [] :=
        List.drop_eq_nil_of_le (Nat.le_succ_of_le outside)
      exact (congrArg (List.map _) past).symm

end Walking

section Contents
variable {name : String} {keyspace : Keyspace}

def userType (udt : (_ : String) × UserDefinedType) : CassDataType :=
  getColumnType (.userDefinedType udt.2.fieldTypes udt.2.keyspace udt.2.name false)

end Contents

section Shown

section Keyspaces
variable {name : String} {keyspace : Keyspace}

end Keyspaces

end Shown

end CppRsDriver.Metadata
