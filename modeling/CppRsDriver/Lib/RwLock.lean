import Mathlib.Data.List.Basic

/-! A fair lock with many readers or one writer. Writers wait in a queue; a reader that
does not wait is turned away while a writer holds the lock or waits for it. -/
namespace CppRsDriver.Lib

structure RwLock (A : Type) where
  readers : List A := []
  writer : Option A := none
  waiting : List A := []

namespace RwLock
variable {A : Type}

def tryRead (lock : RwLock A) (a : A) : Option (RwLock A) :=
  if lock.writer = none ∧ lock.waiting = [] then some { lock with readers := a :: lock.readers }
  else none

def enqueue (lock : RwLock A) (a : A) : RwLock A := { lock with waiting := lock.waiting ++ [a] }

/-- The lock goes to the first writer in the queue once nobody holds it. -/
def grant (lock : RwLock A) : Option (A × RwLock A) :=
  match lock.writer, lock.readers, lock.waiting with
  | none, [], a :: rest => some (a, { lock with writer := some a, waiting := rest })
  | _, _, _ => none

def releaseRead [DecidableEq A] (lock : RwLock A) (a : A) : RwLock A :=
  { lock with readers := lock.readers.filter (fun b => b ≠ a) }

def releaseWrite (lock : RwLock A) : RwLock A := { lock with writer := none }

/-- A read that waits, where any order of the waiting is possible. -/
def read (lock : RwLock A) (a : A) : Option (RwLock A) :=
  if lock.writer.isNone then some { lock with readers := a :: lock.readers } else none

/-- A write that waits, where any order of the waiting is possible. -/
def write (lock : RwLock A) (a : A) : Option (RwLock A) :=
  if lock.writer.isNone ∧ lock.readers = [] then some { lock with writer := some a } else none

/-- One of the guards of a reader goes. -/
def unread [DecidableEq A] (lock : RwLock A) (a : A) : RwLock A :=
  { lock with readers := lock.readers.erase a }

/-- No writer beside a reader. -/
def Exclusive (lock : RwLock A) : Prop := ∀ a ∈ lock.readers, lock.writer = none

variable {lock lock' : RwLock A} {a b : A}

theorem tryRead_inv (read : lock.tryRead a = some lock') :
    lock.writer = none ∧ lock' = { lock with readers := a :: lock.readers } := by
  unfold tryRead at read
  split at read
  · rename_i free
    exact ⟨free.1, (Option.some.inj read).symm⟩
  · cases read

theorem grant_inv (granted : lock.grant = some (a, lock')) :
    lock.writer = none ∧ lock.readers = [] ∧ lock'.readers = [] ∧ lock'.writer = some a := by
  unfold grant at granted
  split at granted
  · rename_i free alone first
    cases granted
    exact ⟨free, alone, alone, rfl⟩
  · cases granted

theorem grant_waiting (granted : lock.grant = some (a, lock')) :
    lock.waiting = a :: lock'.waiting := by
  unfold grant at granted
  split at granted
  · rename_i first
    cases granted
    exact first
  · cases granted

theorem grant_isSome (free : lock.writer = none) (alone : lock.readers = [])
    (first : a ∈ lock.waiting) : ∃ b lock', lock.grant = some (b, lock') := by
  cases queue : lock.waiting with
  | nil =>
    rw [queue] at first
    exact absurd first List.not_mem_nil
  | cons b rest =>
    refine ⟨b, { lock with writer := some b, waiting := rest }, ?_⟩
    simp only [grant, free, alone, queue]

@[simp] theorem unread_readers [DecidableEq A] : (lock.unread a).readers = lock.readers.erase a := rfl
@[simp] theorem unread_writer [DecidableEq A] : (lock.unread a).writer = lock.writer := rfl
@[simp] theorem releaseWrite_readers : lock.releaseWrite.readers = lock.readers := rfl
@[simp] theorem releaseWrite_writer : lock.releaseWrite.writer = none := rfl

theorem read_inv (read : lock.read a = some lock') :
    lock.writer = none ∧ lock' = { lock with readers := a :: lock.readers } := by
  unfold RwLock.read at read
  split at read
  · rename_i free
    exact ⟨Option.isNone_iff_eq_none.mp free, (Option.some.inj read).symm⟩
  · contradiction

theorem write_inv (write : lock.write a = some lock') :
    lock.writer = none ∧ lock.readers = [] ∧ lock' = { lock with writer := some a } := by
  unfold RwLock.write at write
  split at write
  · rename_i free
    exact ⟨Option.isNone_iff_eq_none.mp free.1, free.2, (Option.some.inj write).symm⟩
  · contradiction

theorem mem_releaseRead [DecidableEq A] : b ∈ (lock.releaseRead a).readers ↔ b ∈ lock.readers ∧ b ≠ a := by
  rw [releaseRead, List.mem_filter, decide_eq_true_iff]

theorem Exclusive.tryRead (read : lock.tryRead a = some lock') : lock'.Exclusive := by
  obtain ⟨free, rfl⟩ := tryRead_inv read
  exact fun _ _ => free

theorem Exclusive.grant (granted : lock.grant = some (a, lock')) : lock'.Exclusive := by
  obtain ⟨-, -, alone, -⟩ := grant_inv granted
  intro b member
  rw [alone] at member
  exact absurd member List.not_mem_nil

theorem Exclusive.read (read : lock.read a = some lock') : lock'.Exclusive := by
  obtain ⟨free, rfl⟩ := read_inv read
  exact fun _ _ => free

theorem Exclusive.write (write : lock.write a = some lock') : lock'.Exclusive := by
  obtain ⟨-, alone, rfl⟩ := write_inv write
  intro b member
  simp [alone] at member

theorem Exclusive.unread [DecidableEq A] (exclusive : lock.Exclusive) (a : A) :
    (lock.unread a).Exclusive :=
  fun b member => exclusive b (List.mem_of_mem_erase member)

theorem Exclusive.releaseRead [DecidableEq A] (exclusive : lock.Exclusive) (a : A) :
    (lock.releaseRead a).Exclusive :=
  fun b member => exclusive b (mem_releaseRead.mp member).1

theorem Exclusive.releaseWrite (lock : RwLock A) : lock.releaseWrite.Exclusive := fun _ _ => rfl

theorem Exclusive.enqueue (exclusive : lock.Exclusive) (a : A) : (lock.enqueue a).Exclusive :=
  exclusive

theorem Exclusive.not_reading (exclusive : lock.Exclusive) (writes : lock.writer = some a) :
    b ∉ lock.readers := by
  intro member
  rw [exclusive b member] at writes
  cases writes

end RwLock

end CppRsDriver.Lib
