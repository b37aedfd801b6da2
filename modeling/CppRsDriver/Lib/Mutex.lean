import Mathlib.Logic.Basic

/-! Mutual exclusion: the agents inside the critical section are the owner of the lock. -/
namespace CppRsDriver.Lib

variable {A : Type}

def Exclusive (owner : Option A) (inside : A → Bool) : Prop :=
  ∀ a, inside a = true ↔ owner = some a

theorem Exclusive.free {inside : A → Bool} (outside : ∀ a, inside a = false) :
    Exclusive none inside := by
  intro a
  rw [outside a]
  exact ⟨fun eq => by contradiction, fun eq => by contradiction⟩

/-- One agent's move as the lock sees it: no change, an acquisition of the free
lock, or a release by an agent inside. -/
inductive LockMove (owner owner' : Option A) (inside inside' : A → Bool) : Prop where
  | keep (owned : owner' = owner) (sections : ∀ b, inside' b = inside b)
  | acquire (a : A) (free : owner = none) (owned : owner' = some a) (entered : inside' a = true)
      (others : ∀ b, b ≠ a → inside' b = inside b)
  | release (a : A) (held : inside a = true) (owned : owner' = none) (left : inside' a = false)
      (others : ∀ b, b ≠ a → inside' b = inside b)

theorem LockMove.exclusive {owner owner' : Option A} {inside inside' : A → Bool}
    (move : LockMove owner owner' inside inside') (exclusive : Exclusive owner inside) :
    Exclusive owner' inside' := by
  intro b
  cases move with
  | keep owned sections => rw [owned, sections b]; exact exclusive b
  | acquire a free owned entered others =>
    rw [owned]
    constructor
    · intro inb
      by_cases eq : b = a
      · rw [eq]
      · have holds := (exclusive b).mp (others b eq ▸ inb)
        rw [free] at holds
        contradiction
    · intro eq
      exact Option.some.inj eq ▸ entered
  | release a held owned left others =>
    rw [owned]
    refine ⟨?_, fun eq => by contradiction⟩
    intro inb
    by_cases eq : b = a
    · rw [eq, left] at inb; contradiction
    · have one := (exclusive b).mp (others b eq ▸ inb)
      have two := (exclusive a).mp held
      exact absurd (Option.some.inj (one.symm.trans two)) eq

theorem Exclusive.unique {owner : Option A} {inside : A → Bool} (exclusive : Exclusive owner inside)
    {a b : A} (ina : inside a = true) (inb : inside b = true) : a = b := by
  have one := (exclusive a).mp ina
  have two := (exclusive b).mp inb
  exact Option.some.inj (one.symm.trans two)

end CppRsDriver.Lib
