import Mathlib.Data.List.Basic
import Mathlib.Data.List.Count
import CppRsDriver.Lib.Checks

/-! Reference counted cells with copy on write. A holder has at most one reference; the
list of what the holders hold says what the strong counts must be. -/
namespace CppRsDriver.Lib

structure ArcCell (α : Type) where
  strong : Nat
  content : α

/-- The cells by their address. An address is not used twice. -/
structure ArcHeap (α : Type) where
  cells : List (ArcCell α)

namespace ArcHeap

variable {α : Type}

def empty : ArcHeap α := ⟨[]⟩

def get? (h : ArcHeap α) (r : Nat) : Option α := h.cells[r]?.map ArcCell.content

/-- `Arc::new`. -/
def new (h : ArcHeap α) (x : α) : ArcHeap α × Nat := (⟨h.cells ++ [⟨1, x⟩]⟩, h.cells.length)

/-- `Arc::clone` of what a holder holds. -/
def clone (h : ArcHeap α) : Option Nat → ArcHeap α
  | none => h
  | some r => ⟨h.cells.modify r (fun cell => { cell with strong := cell.strong + 1 })⟩

/-- A holder goes away. -/
def drop (h : ArcHeap α) : Option Nat → ArcHeap α
  | none => h
  | some r => ⟨h.cells.modify r (fun cell => { cell with strong := cell.strong - 1 })⟩

/-- `Arc::make_mut`, and the change made through it: in place when the reference is the
only one, otherwise on a copy. -/
def makeMut (h : ArcHeap α) (r : Nat) (change : α → α) : ArcHeap α × Nat :=
  match h.cells[r]? with
  | none => (h, r)
  | some cell =>
    if cell.strong = 1 then (⟨h.cells.set r { cell with content := change cell.content }⟩, r)
    else (h.drop (some r)).new (change cell.content)

/-- Every count is the number of holders, and no reference dangles. -/
structure Counted (h : ArcHeap α) (refs : List (Option Nat)) : Prop where
  strong : ∀ r cell, h.cells[r]? = some cell → cell.strong = refs.count (some r)
  valid : ∀ r, some r ∈ refs → r < h.cells.length

/-- What changes at one holder is seen by no other holder. -/
structure Replaces (h : ArcHeap α) (refs : List (Option Nat)) (i : Nat) (h' : ArcHeap α)
    (ref : Option Nat) : Prop where
  counted : h'.Counted (refs.set i ref)
  others : ∀ j r, j ≠ i → refs[j]? = some (some r) → h'.get? r = h.get? r

/-- A new holder, which no other holder sees. -/
structure Extends (h : ArcHeap α) (refs : List (Option Nat)) (h' : ArcHeap α) (ref : Option Nat) :
    Prop where
  counted : h'.Counted (refs ++ [ref])
  others : ∀ r, some r ∈ refs → h'.get? r = h.get? r

variable {h : ArcHeap α} {refs : List (Option Nat)}

theorem counted_empty : (empty : ArcHeap α).Counted [] := ⟨nofun, nofun⟩

theorem get?_modify_strong (h : ArcHeap α) (q r : Nat) (count : Nat → Nat) :
    get? ⟨h.cells.modify q (fun cell => { cell with strong := count cell.strong })⟩ r = h.get? r := by
  simp only [get?, List.getElem?_modify]
  cases h.cells[r]? with
  | none => rfl
  | some cell => by_cases same : q = r <;> simp [same]

@[simp] theorem get?_clone (h : ArcHeap α) (ref : Option Nat) (r : Nat) :
    (h.clone ref).get? r = h.get? r := by
  cases ref with
  | none => rfl
  | some q => exact get?_modify_strong h q r (· + 1)

@[simp] theorem get?_drop (h : ArcHeap α) (ref : Option Nat) (r : Nat) :
    (h.drop ref).get? r = h.get? r := by
  cases ref with
  | none => rfl
  | some q => exact get?_modify_strong h q r (· - 1)

theorem get?_new (h : ArcHeap α) (x : α) : (h.new x).1.get? (h.new x).2 = some x := by
  simp [new, get?]

theorem get?_new_eq (h : ArcHeap α) (x : α) (r : Nat) :
    (h.new x).1.get? r = if r = h.cells.length then some x else h.get? r := by
  rcases Nat.lt_trichotomy r h.cells.length with less | rfl | more
  · simp [new, get?, List.getElem?_append_left less, Nat.ne_of_lt less]
  · simp [new, get?]
  · simp [new, get?, List.getElem?_append_right (Nat.le_of_lt more), Nat.ne_of_gt more,
      List.getElem?_eq_none (Nat.le_of_lt more), Nat.sub_ne_zero_of_lt more]

theorem get?_makeMut (h : ArcHeap α) (r : Nat) (change : α → α) :
    (h.makeMut r change).1.get? (h.makeMut r change).2 = (h.get? r).map change := by
  unfold makeMut
  split
  · rename_i absent
    simp [get?, absent]
  · rename_i cell found
    obtain ⟨inside, same⟩ := List.getElem?_eq_some_iff.mp found
    split
    · simp [get?, inside, same]
    · rw [get?_new, get?, found]
      rfl

theorem count_set_ref {i : Nat} {old : Option Nat} (held : refs[i]? = some old) (ref : Option Nat)
    (r : Nat) : (refs.set i ref).count (some r) + (if old = some r then 1 else 0) =
      refs.count (some r) + (if ref = some r then 1 else 0) := by
  obtain ⟨inside, same⟩ := List.getElem?_eq_some_iff.mp held
  have positive : old = some r → 0 < refs.count (some r) := by
    rintro rfl
    exact List.count_pos_iff.mpr (List.mem_of_getElem? held)
  rw [List.count_set inside, same]
  simp only [beq_iff_eq]
  split
  · have := positive ‹_›
    omega
  · omega

theorem Counted.keep (counted : h.Counted refs) {i : Nat} {ref : Option Nat}
    (held : refs[i]? = some ref) : h.Replaces refs i h ref := by
  obtain ⟨inside, rfl⟩ := List.getElem?_eq_some_iff.mp held
  refine ⟨?_, fun _ _ _ _ => rfl⟩
  rwa [List.set_getElem_self]

theorem Counted.fill (counted : h.Counted refs) {i : Nat} (held : refs[i]? = some none) (x : α) :
    h.Replaces refs i (h.new x).1 (some (h.new x).2) := by
  have unheld : some h.cells.length ∉ refs := fun member =>
    absurd (counted.valid _ member) (Nat.lt_irrefl _)
  refine ⟨⟨fun r cell found => ?_, fun r member => ?_⟩, fun j r _ other => ?_⟩
  · have counts := count_set_ref held (some h.cells.length) r
    rcases getElem?_snoc found with old | ⟨rfl, rfl⟩
    · have before := counted.strong r cell old
      have away : h.cells.length ≠ r := by
        have := (List.getElem?_eq_some_iff.mp old).1
        omega
      simp only [reduceCtorEq, if_false, Option.some.injEq, away] at counts
      exact before.trans counts.symm
    · have zero := List.count_eq_zero.mpr unheld
      simp only [reduceCtorEq, if_false, if_true, zero] at counts
      exact counts.symm
  · simp only [new, List.length_append, List.length_singleton]
    rcases List.mem_or_eq_of_mem_set member with old | fresh
    · have := counted.valid r old
      omega
    · cases fresh
      exact Nat.lt_succ_self _
  · have old := counted.valid r (List.mem_of_getElem? other)
    simp only [get?, new, List.getElem?_append_left old]

theorem Counted.skip (counted : h.Counted refs) : h.Extends refs h none := by
  refine ⟨⟨fun r cell found => ?_, fun r held => ?_⟩, fun _ _ => rfl⟩
  · simp [counted.strong r cell found]
  · exact counted.valid r (by simpa using held)

theorem Counted.create (counted : h.Counted refs) (x : α) :
    h.Extends refs (h.new x).1 (some (h.new x).2) := by
  have filled := counted.skip.counted.fill (List.getElem?_concat_length) x
  refine ⟨by simpa using filled.counted, fun r held => ?_⟩
  obtain ⟨j, there⟩ := List.getElem?_of_mem held
  have inside := (List.getElem?_eq_some_iff.mp there).1
  apply filled.others j r (Nat.ne_of_lt inside)
  rwa [List.getElem?_append_left inside]

theorem Counted.share (counted : h.Counted refs) {ref : Option Nat} (held : ref ∈ refs) :
    h.Extends refs (h.clone ref) ref := by
  cases ref with
  | none => exact counted.skip
  | some q =>
    refine ⟨⟨fun r cell found => ?_, fun r member => ?_⟩, fun r _ => get?_clone h (some q) r⟩
    · simp only [clone, List.getElem?_modify, Option.map_eq_map, Option.map_eq_some_iff] at found
      obtain ⟨old, was, rfl⟩ := found
      rw [List.count_append, List.count_singleton]
      by_cases same : q = r
      · simp [same, counted.strong r old was]
      · simp [same, counted.strong r old was]
    · simp only [clone, List.length_modify]
      apply counted.valid
      rcases List.mem_append.mp member with member | member
      · exact member
      · exact List.mem_singleton.mp member ▸ held

theorem Counted.release (counted : h.Counted refs) {i : Nat} {ref : Option Nat}
    (held : refs[i]? = some ref) : h.Replaces refs i (h.drop ref) none := by
  cases ref with
  | none => exact counted.keep held
  | some q =>
    refine ⟨⟨fun r cell found => ?_, fun r member => ?_⟩, fun _ r _ _ => get?_drop h (some q) r⟩
    · simp only [drop, List.getElem?_modify, Option.map_eq_map, Option.map_eq_some_iff] at found
      obtain ⟨old, was, rfl⟩ := found
      have counts := count_set_ref held none r
      have before := counted.strong r old was
      by_cases same : q = r
      · simp only [same, if_true, reduceCtorEq, if_false] at counts ⊢
        omega
      · simp only [same, if_false, reduceCtorEq, Option.some.injEq] at counts ⊢
        omega
    · simp only [drop, List.length_modify]
      apply counted.valid
      rcases List.mem_or_eq_of_mem_set member with member | member
      · exact member
      · cases member

theorem Counted.unique (counted : h.Counted refs) {i j q r : Nat} {cell : ArcCell α}
    (held : refs[i]? = some (some q)) (found : h.cells[q]? = some cell) (one : cell.strong = 1)
    (other : refs[j]? = some (some r)) (differs : j ≠ i) : q ≠ r := by
  rintro rfl
  have counts := count_set_ref held none q
  have before := counted.strong q cell found
  have kept : (refs.set i none)[j]? = some (some q) := by
    rwa [List.getElem?_set_ne (Ne.symm differs)]
  have positive : 0 < (refs.set i none).count (some q) :=
    List.count_pos_iff.mpr (List.mem_of_getElem? kept)
  simp only [if_true, reduceCtorEq, if_false] at counts
  omega

theorem Counted.inPlace (counted : h.Counted refs) {i q : Nat} {cell : ArcCell α}
    (held : refs[i]? = some (some q)) (found : h.cells[q]? = some cell) (one : cell.strong = 1)
    (x : α) : h.Replaces refs i ⟨h.cells.set q { cell with content := x }⟩ (some q) := by
  have same : refs.set i (some q) = refs := by
    obtain ⟨inside, is⟩ := List.getElem?_eq_some_iff.mp held
    rw [← is, List.set_getElem_self]
  refine ⟨⟨fun r new there => ?_, fun r member => ?_⟩, fun j r differs other => ?_⟩
  · rw [same]
    simp only [List.getElem?_set] at there
    split at there
    · rename_i here
      cases here
      have inside := (List.getElem?_eq_some_iff.mp found).1
      rw [if_pos inside] at there
      cases there
      exact counted.strong q cell found
    · exact counted.strong r new there
  · rw [List.length_set]
    exact counted.valid r (same ▸ member)
  · have away := counted.unique held found one other differs
    simp only [get?, List.getElem?_set_ne away]

theorem Counted.mutate (counted : h.Counted refs) {i q : Nat} (held : refs[i]? = some (some q))
    (change : α → α) :
    h.Replaces refs i (h.makeMut q change).1 (some (h.makeMut q change).2) := by
  unfold makeMut
  split
  · exact counted.keep held
  · rename_i cell found
    split
    · rename_i one
      exact counted.inPlace held found one (change cell.content)
    · -- a copy: the old cell loses this holder, then a new cell is its own
      have released := counted.release held
      have inside := (List.getElem?_eq_some_iff.mp held).1
      have filled := released.counted.fill (List.getElem?_set_self inside) (change cell.content)
      refine ⟨by simpa using filled.counted, fun j r differs other => ?_⟩
      have kept : (refs.set i none)[j]? = some (some r) := by
        rwa [List.getElem?_set_ne (Ne.symm differs)]
      rw [filled.others j r differs kept]
      exact released.others j r differs other

/-! Weak references, and holders that are only counted. -/

/-- A cell was made at the address. -/
def Made (h : ArcHeap α) (r : Nat) : Prop := (h.get? r).isSome = true

instance (h : ArcHeap α) (r : Nat) : Decidable (h.Made r) := inferInstanceAs (Decidable (_ = true))

/-- The cell has not been dropped. -/
def Live (h : ArcHeap α) (r : Nat) : Prop := ∃ cell, h.cells[r]? = some cell ∧ 0 < cell.strong

instance (h : ArcHeap α) (r : Nat) : Decidable (h.Live r) :=
  decidable_of_iff (h.cells[r]?.any (fun cell => 0 < cell.strong) = true) (by
    simp [Live, Option.any_eq_true])

theorem Live.made {h : ArcHeap α} {r : Nat} (live : h.Live r) : h.Made r := by
  obtain ⟨cell, found, -⟩ := live
  simp [Made, get?, found]

/-- `Weak::upgrade`; the reference of `Weak::new` is none. -/
def upgrade (h : ArcHeap α) : Option Nat → Option (ArcHeap α × Nat)
  | none => none
  | some r =>
    match h.cells[r]? with
    | none => none
    | some cell => if cell.strong = 0 then none else some (h.clone (some r), r)

def dropAll (h : ArcHeap α) (refs : List (Option Nat)) : ArcHeap α := refs.foldl drop h

/-- The counts are what is held. -/
structure Tracks (h : ArcHeap α) (held : Nat → Nat) : Prop where
  strong : ∀ r cell, h.cells[r]? = some cell → cell.strong = held r
  valid : ∀ r, 0 < held r → r < h.cells.length

def heldBy (ref : Option Nat) (r : Nat) : Nat := if ref = some r then 1 else 0

@[simp] theorem heldBy_none (r : Nat) : heldBy none r = 0 := rfl

@[simp] theorem heldBy_self (r : Nat) : heldBy (some r) r = 1 := if_pos rfl

variable {held held' : Nat → Nat}

theorem Tracks.live_iff (tracks : h.Tracks held) {r : Nat} : h.Live r ↔ 0 < held r := by
  constructor
  · rintro ⟨cell, found, alive⟩
    rwa [← tracks.strong r cell found]
  · intro some
    have inside := tracks.valid r some
    refine ⟨h.cells[r], List.getElem?_eq_getElem inside, ?_⟩
    rwa [tracks.strong r _ (List.getElem?_eq_getElem inside)]

theorem upgrade_eq_some {weak : Option Nat} {h' : ArcHeap α} {r : Nat}
    (upgraded : h.upgrade weak = some (h', r)) : weak = some r ∧ h.Live r ∧ h' = h.clone (some r) := by
  cases weak with
  | none => cases upgraded
  | some q =>
    simp only [upgrade] at upgraded
    split at upgraded
    · cases upgraded
    · rename_i cell found
      split at upgraded
      · cases upgraded
      · rename_i alive
        cases Option.some.inj upgraded
        exact ⟨rfl, ⟨cell, found, Nat.pos_of_ne_zero alive⟩, rfl⟩

theorem upgrade_eq_none {r : Nat} (failed : h.upgrade (some r) = none) : ¬ h.Live r := by
  rintro ⟨cell, found, alive⟩
  simp only [upgrade, found, if_neg (Nat.ne_of_gt alive)] at failed
  cases failed

theorem Tracks.new (tracks : h.Tracks held) (x : α)
    (more : ∀ q, held' q = held q + heldBy (some h.cells.length) q) : (h.new x).1.Tracks held' := by
  have fresh : held h.cells.length = 0 := by
    by_contra some
    exact Nat.lt_irrefl _ (tracks.valid _ (Nat.pos_of_ne_zero some))
  refine ⟨fun r cell found => ?_, fun r positive => ?_⟩
  · rw [more]
    rcases getElem?_snoc found with old | ⟨rfl, rfl⟩
    · have inside := (List.getElem?_eq_some_iff.mp old).1
      simp [heldBy, tracks.strong r cell old, Nat.ne_of_gt inside]
    · simp [fresh]
  · rw [ArcHeap.new, List.length_append, List.length_singleton]
    by_cases here : h.cells.length = r
    · omega
    · have old := tracks.valid r (by simpa [more, heldBy, here] using positive)
      omega

theorem Tracks.clone (tracks : h.Tracks held) {ref : Option Nat}
    (valid : ∀ r, ref = some r → h.Live r) (more : ∀ q, held' q = held q + heldBy ref q) :
    (h.clone ref).Tracks held' := by
  cases ref with
  | none =>
    have same : held' = held := funext more
    rwa [same]
  | some r =>
    refine ⟨fun q cell found => ?_, fun q positive => ?_⟩
    · simp only [ArcHeap.clone, List.getElem?_modify, Option.map_eq_map, Option.map_eq_some_iff] at found
      obtain ⟨old, was, rfl⟩ := found
      have before := tracks.strong q old was
      by_cases here : r = q <;> simp [more, heldBy, here, before]
    · rw [ArcHeap.clone, List.length_modify]
      by_cases here : r = q
      · subst here
        obtain ⟨cell, found, -⟩ := valid r rfl
        exact (List.getElem?_eq_some_iff.mp found).1
      · exact tracks.valid q (by simpa [more, heldBy, here] using positive)

theorem Tracks.drop (tracks : h.Tracks held) {ref : Option Nat}
    (less : ∀ q, held' q + heldBy ref q = held q) : (h.drop ref).Tracks held' := by
  cases ref with
  | none =>
    have same : held' = held := funext less
    rwa [same]
  | some r =>
    refine ⟨fun q cell found => ?_, fun q positive => ?_⟩
    · simp only [ArcHeap.drop, List.getElem?_modify, Option.map_eq_map, Option.map_eq_some_iff] at found
      obtain ⟨old, was, rfl⟩ := found
      have before := tracks.strong q old was
      have after := less q
      by_cases here : r = q
      · simp only [heldBy, here, if_true] at after ⊢
        omega
      · simp only [heldBy, Option.some.injEq, here, if_false] at after ⊢
        omega
    · rw [ArcHeap.drop, List.length_modify]
      exact tracks.valid q (by have := less q; omega)

theorem Tracks.dropAll (tracks : h.Tracks held) (refs : List (Option Nat))
    (less : ∀ q, held' q + refs.count (some q) = held q) : (h.dropAll refs).Tracks held' := by
  induction refs generalizing h held with
  | nil =>
    have same : held' = held := funext less
    rwa [same]
  | cons ref refs ih =>
    have first : (h.drop ref).Tracks (fun q => held' q + refs.count (some q)) := by
      refine tracks.drop (fun q => ?_)
      rw [← less q, List.count_cons]
      by_cases here : ref = some q
      · simp [heldBy, here]
        omega
      · simp [heldBy, here]
    exact ih first (fun _ => rfl)

@[simp] theorem get?_dropAll (h : ArcHeap α) (refs : List (Option Nat)) (r : Nat) :
    (h.dropAll refs).get? r = h.get? r := by
  induction refs generalizing h with
  | nil => rfl
  | cons ref refs ih =>
    rw [dropAll, List.foldl_cons]
    exact (ih (h.drop ref)).trans (get?_drop h ref r)

end ArcHeap

end CppRsDriver.Lib
