import Mathlib.Data.List.Basic

/-! Memory as cells at addresses, and slices of it. What nobody holds a slice of may
be written over, so an address alone does not say what is stored there. -/
namespace CppRsDriver.Lib

/-- An address and a number of cells, as a fat pointer has them. -/
structure Slice where
  addr : Nat
  len : Nat
  deriving DecidableEq, Repr

/-- No cell in common. An empty slice has no cells, wherever it points. -/
def Slice.Disjoint (s t : Slice) : Prop :=
  s.len = 0 ∨ t.len = 0 ∨ s.addr + s.len ≤ t.addr ∨ t.addr + t.len ≤ s.addr

instance (s t : Slice) : Decidable (s.Disjoint t) := inferInstanceAs (Decidable (_ ∨ _))

def Memory (α : Type) : Type := Nat → α

namespace Memory
variable {α : Type}

def read (memory : Memory α) (s : Slice) : List α :=
  (List.range s.len).map (fun i => memory (s.addr + i))

def write (memory : Memory α) (addr : Nat) (cells : List α) : Memory α := fun a =>
  if addr ≤ a then cells[a - addr]?.getD (memory a) else memory a

theorem write_outside {memory : Memory α} {addr a : Nat} {cells : List α}
    (outside : a < addr ∨ addr + cells.length ≤ a) : memory.write addr cells a = memory a := by
  unfold write
  split
  · have absent : cells[a - addr]? = none := List.getElem?_eq_none (by omega)
    rw [absent, Option.getD_none]
  · rfl

theorem read_write_disjoint {memory : Memory α} {addr : Nat} {cells : List α} {s : Slice}
    (disjoint : s.Disjoint ⟨addr, cells.length⟩) :
    (memory.write addr cells).read s = memory.read s := by
  apply List.map_congr_left
  intro i hi
  have inside : i < s.len := List.mem_range.mp hi
  apply write_outside
  simp only [Slice.Disjoint] at disjoint
  omega

end Memory

end CppRsDriver.Lib
