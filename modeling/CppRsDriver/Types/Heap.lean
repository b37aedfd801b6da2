import CppRsDriver.Types.Morphism
import Mathlib.Logic.Relation

/-! Data types as the API hands them out: shared objects, referred to by containers,
values and other data types, that may be modified at any time. A check follows the
references; `fuel` bounds how deep, so a check of a cyclic type may not return. -/
namespace CppRsDriver.Types

/-- The data types created so far; a reference is a position. -/
structure Heap where
  cells : List (CassDataTypeInner Nat) := []

namespace Heap

def inner (h : Heap) (d : Nat) : CassDataTypeInner Nat := h.cells.getD d (.custom "")

def valid (h : Heap) (d : Nat) : Prop := d < h.cells.length

def alloc (h : Heap) (inner : CassDataTypeInner Nat) : Heap := ⟨h.cells ++ [inner]⟩

def update (h : Heap) (d : Nat) (inner : CassDataTypeInner Nat) : Heap := ⟨h.cells.set d inner⟩

def typecheckEquals (h : Heap) : Nat → Nat → Nat → Option Bool
  | 0, _, _ => none
  | fuel + 1, a, b => (h.inner a).typecheckWith (typecheckEquals h fuel) (h.inner b)

def isFullyTyped (h : Heap) : Nat → Nat → Option Bool
  | 0, _ => none
  | fuel + 1, d => (h.inner d).isFullyTypedM (isFullyTyped h fuel)

def ops (h : Heap) (fuel : Nat) : TypeOps Nat where
  getUnchecked := h.inner
  typecheckEquals := h.typecheckEquals fuel

theorem inner_alloc {h : Heap} {inner : CassDataTypeInner Nat} {d : Nat} (valid : h.valid d) :
    (h.alloc inner).inner d = h.inner d := by
  simp only [Heap.inner, alloc, List.getD_eq_getElem?_getD, List.getElem?_append_left valid]

theorem inner_alloc_self (h : Heap) (inner : CassDataTypeInner Nat) :
    (h.alloc inner).inner h.cells.length = inner := by
  simp [Heap.inner, alloc]

theorem inner_update_ne {h : Heap} {inner : CassDataTypeInner Nat} {d e : Nat} (other : e ≠ d) :
    (h.update d inner).inner e = h.inner e := by
  simp only [Heap.inner, update, List.getD_eq_getElem?_getD, List.getElem?_set_ne other.symm]

theorem inner_update_self {h : Heap} {inner : CassDataTypeInner Nat} {d : Nat} (valid : h.valid d) :
    (h.update d inner).inner d = inner := by
  simp only [Heap.inner, update, List.getD_eq_getElem?_getD, List.getElem?_set_self valid,
    Option.getD_some]

/-- A part of the heap that refers to nothing outside it. -/
def Closed (h : Heap) (part : Nat → Prop) : Prop :=
  ∀ d, part d → ∀ e ∈ (h.inner d).children, part e

/-- Two heaps with the same data types in a closed part. -/
structure Agree (h h' : Heap) (part : Nat → Prop) : Prop where
  closed : h.Closed part
  same : ∀ d, part d → h'.inner d = h.inner d

variable {h h' : Heap} {part : Nat → Prop}

/-- A check sees no more of the heap than what its two types reach. -/
theorem Agree.typecheckEquals_eq (agree : Agree h h' part) (fuel : Nat) :
    ∀ a b, part a → part b → h'.typecheckEquals fuel a b = h.typecheckEquals fuel a b := by
  induction fuel with
  | zero => exact fun _ _ _ _ => rfl
  | succ fuel ih =>
    intro a b inA inB
    simp only [typecheckEquals, agree.same a inA, agree.same b inB]
    exact CassDataTypeInner.typecheckWith_congr (fun d memberA e memberB =>
      ih d e (agree.closed a inA d memberA) (agree.closed b inB e memberB))

/-- The data types reached from `d`. -/
def Reach (h : Heap) : Nat → Nat → Prop :=
  Relation.ReflTransGen (fun d e => e ∈ (h.inner d).children)

theorem Closed.reach (closed : h.Closed part) {d e : Nat} (start : part d) (reach : h.Reach d e) :
    part e := by
  induction reach with
  | refl => exact start
  | tail _ child ih => exact closed _ ih _ child

theorem Agree.hom (agree : Agree h h' part) (fuel : Nat) :
    (h.ops fuel).Hom (h'.ops fuel) part id where
  closed := agree.closed
  inner d inPart := (agree.same d inPart).trans (CassDataTypeInner.mapSubtypes_id _).symm
  accepts a b inA inB accepted := (agree.typecheckEquals_eq fuel a b inA inB).trans accepted

/-- The data types of a part are the unfoldings of trees. -/
def Unfolds (h : Heap) (part : Nat → Prop) (tree : Nat → CassDataType) : Prop :=
  ∀ d, part d → tree d = .mk ((h.inner d).mapSubtypes tree)

variable {tree : Nat → CassDataType}

theorem Unfolds.typecheckEquals_mk (unfolds : h.Unfolds part tree) {a b : Nat} (inA : part a)
    (inB : part b) : (tree a).typecheckEquals (tree b) =
      (h.inner a).typecheckWith (fun d e => (tree d).typecheckEquals (tree e)) (h.inner b) := by
  rw [unfolds a inA, unfolds b inB, CassDataType.typecheckEquals_mk,
    CassDataTypeInner.typecheckWith_mapSubtypes, CassDataTypeInner.typecheckWith_mapSubtypes_right]

theorem Unfolds.height_lt (unfolds : h.Unfolds part tree) {d e : Nat} (inPart : part d)
    (member : e ∈ (h.inner d).children) : (tree e).height < (tree d).height := by
  rw [unfolds d inPart]
  apply CassDataType.height_lt
  rw [CassDataTypeInner.children_mapSubtypes]
  exact List.mem_map_of_mem member

/-- Where the data types are trees, a check that follows the references comes to the
same as the check of the trees once it may go as deep as the first of them. -/
theorem Unfolds.typecheckEquals_eq (unfolds : h.Unfolds part tree) (closed : h.Closed part)
    (fuel : Nat) : ∀ a b, part a → part b → (tree a).height ≤ fuel →
      h.typecheckEquals fuel a b = (tree a).typecheckEquals (tree b) := by
  induction fuel with
  | zero =>
    intro a b inA inB enough
    have positive := (tree a).height_pos
    omega
  | succ fuel ih =>
    intro a b inA inB enough
    rw [unfolds.typecheckEquals_mk inA inB, typecheckEquals]
    refine CassDataTypeInner.typecheckWith_congr (fun d memberA e memberB => ?_)
    have lower := unfolds.height_lt inA memberA
    exact ih d e (closed a inA d memberA) (closed b inB e memberB) (by omega)

theorem Unfolds.isFullyTyped_eq (unfolds : h.Unfolds part tree) (closed : h.Closed part)
    (fuel : Nat) : ∀ d, part d → (tree d).height ≤ fuel →
      h.isFullyTyped fuel d = some (tree d).isFullyTyped := by
  induction fuel with
  | zero =>
    intro d inPart enough
    have positive := (tree d).height_pos
    omega
  | succ fuel ih =>
    intro d inPart enough
    rw [isFullyTyped, unfolds d inPart, CassDataType.isFullyTyped_mk,
      CassDataTypeInner.isFullyTypedWith_mapSubtypes]
    refine CassDataTypeInner.isFullyTypedM_eq _ _ _ (fun e member => ?_)
    have lower := unfolds.height_lt inPart member
    exact ih e (closed d inPart e member) (by omega)

/-- With less fuel a check may not return, but what it accepts the trees accept. -/
theorem Unfolds.typecheckEquals_accepts (unfolds : h.Unfolds part tree) (closed : h.Closed part)
    (fuel : Nat) : ∀ a b, part a → part b → h.typecheckEquals fuel a b = some true →
      (tree a).typecheckEquals (tree b) = some true := by
  induction fuel with
  | zero =>
    intro a b inA inB accepted
    contradiction
  | succ fuel ih =>
    intro a b inA inB accepted
    rw [unfolds.typecheckEquals_mk inA inB, CassDataTypeInner.typecheckWith_iff]
    rw [typecheckEquals, CassDataTypeInner.typecheckWith_iff] at accepted
    exact accepted.mono (fun d memberA e memberB =>
      ih d e (closed a inA d memberA) (closed b inB e memberB))

theorem Unfolds.hom (unfolds : h.Unfolds part tree) (closed : h.Closed part) (fuel : Nat) :
    (h.ops fuel).Hom CassDataType.ops part tree where
  closed := closed
  inner d inPart := congrArg CassDataType.inner (unfolds d inPart)
  accepts := unfolds.typecheckEquals_accepts closed fuel

end Heap

end CppRsDriver.Types
