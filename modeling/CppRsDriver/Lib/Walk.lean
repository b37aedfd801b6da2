import Mathlib.Data.List.Basic

/-! Cursors. A call of `next` moves a cursor and tells whether it is at an item; no result
is a panic. A cursor is described by the slots ahead of it, one for each call to come: an
item, or nothing where the call returns false and the cursor goes on. -/
namespace CppRsDriver.Lib

variable {S V : Type}

/-- What some calls returned, and the cursor after them. -/
def calls (next : S → Option (Bool × S)) : Nat → S → Option (List Bool × S)
  | 0, s => some ([], s)
  | n + 1, s => (next s).bind (fun (more, t) =>
      (calls next n t).map (fun (later, last) => (more :: later, last)))

/-- The results of `n` calls on a cursor with these slots ahead; behind them all are false. -/
def outcomes (slots : List (Option V)) : Nat → List Bool
  | 0 => []
  | n + 1 => (slots.head?.join).isSome :: outcomes slots.tail n

section Calls
variable {next : S → Option (Bool × S)}

theorem calls_succ {n : Nat} {s t last : S} {more : Bool} {later : List Bool}
    (first : next s = some (more, t)) (rest : calls next n t = some (later, last)) :
    calls next (n + 1) s = some (more :: later, last) := by
  simp only [calls, first, Option.bind_some, rest, Option.map_some]

theorem calls_succ_inv {n : Nat} {s last : S} {results : List Bool}
    (called : calls next (n + 1) s = some (results, last)) :
    ∃ more t later, next s = some (more, t) ∧ calls next n t = some (later, last) ∧
      results = more :: later := by
  obtain ⟨⟨more, t⟩, first, rest⟩ := Option.bind_eq_some_iff.mp called
  obtain ⟨⟨later, end'⟩, after, is⟩ := Option.map_eq_some_iff.mp rest
  cases is
  exact ⟨more, t, later, first, after, rfl⟩

theorem calls_last {n : Nat} {s t : S} {results : List Bool}
    (called : calls next n s = some (results, t)) :
    (results = [] ∧ t = s) ∨ ∃ u more, next u = some (more, t) ∧ results.getLast? = some more := by
  induction n generalizing s results with
  | zero =>
    cases called
    exact .inl ⟨rfl, rfl⟩
  | succ n ih =>
    obtain ⟨more, u, later, first, rest, rfl⟩ := calls_succ_inv called
    rcases ih rest with ⟨rfl, rfl⟩ | ⟨v, last, moved, is⟩
    · exact .inr ⟨s, more, first, rfl⟩
    · refine .inr ⟨v, last, moved, ?_⟩
      rw [List.getLast?_cons, is]
      rfl

theorem calls_invariant {inv : S → Prop}
    (keeps : ∀ s more t, inv s → next s = some (more, t) → inv t) {n : Nat} {s t : S}
    {results : List Bool} (start : inv s) (called : calls next n s = some (results, t)) : inv t := by
  induction n generalizing s results with
  | zero =>
    cases called
    exact start
  | succ n ih =>
    obtain ⟨more, u, later, first, rest, -⟩ := calls_succ_inv called
    exact ih (keeps s more u start first) rest

end Calls

section Outcomes
variable {slots : List (Option V)}

theorem outcomes_getElem? (slots : List (Option V)) {i n : Nat} (inside : i < n) :
    (outcomes slots n)[i]? = some (slots[i]?.join).isSome := by
  induction n generalizing i slots with
  | zero => omega
  | succ n ih =>
    cases i with
    | zero => cases slots <;> rfl
    | succ i =>
      rw [outcomes, List.getElem?_cons_succ, ih _ (by omega), List.getElem?_tail]

theorem length_outcomes (slots : List (Option V)) (n : Nat) : (outcomes slots n).length = n := by
  induction n generalizing slots with
  | zero => rfl
  | succ n ih => rw [outcomes, List.length_cons, ih]

theorem outcomes_getLast? (slots : List (Option V)) (n : Nat) :
    (outcomes slots (n + 1)).getLast? = some (slots[n]?.join).isSome := by
  rw [List.getLast?_eq_getElem?, length_outcomes]
  exact outcomes_getElem? slots (Nat.lt_succ_self n)

theorem outcomes_items (items : List V) (n : Nat) :
    outcomes (items.map some) n = (List.range n).map (fun i => decide (i < items.length)) := by
  apply List.ext_getElem?
  intro i
  by_cases inside : i < n
  · rw [outcomes_getElem? _ inside, List.getElem?_map, List.getElem?_map,
      List.getElem?_range inside]
    by_cases before : i < items.length <;> simp [before]
  · have behind := Nat.not_lt.mp inside
    rw [List.getElem?_eq_none (by rw [length_outcomes]; exact behind),
      List.getElem?_eq_none (by rw [List.length_map, List.length_range]; exact behind)]

theorem count_outcomes {n : Nat} (enough : slots.length ≤ n) :
    (outcomes slots n).count true = slots.countP Option.isSome := by
  induction n generalizing slots with
  | zero =>
    cases List.eq_nil_of_length_eq_zero (Nat.le_zero.mp enough)
    rfl
  | succ n ih =>
    cases slots with
    | nil =>
      have later : (outcomes ([] : List (Option V)) n).count true = 0 := ih (Nat.zero_le n)
      rw [outcomes, List.count_cons, List.tail_nil, later]
      rfl
    | cons slot slots =>
      have later : (outcomes slots n).count true = slots.countP Option.isSome :=
        ih (Nat.le_of_succ_le_succ enough)
      rw [outcomes, List.count_cons, List.tail_cons, later, List.countP_cons]
      cases slot <;> rfl

end Outcomes

/-- `next` walks along the slots ahead of a cursor and stays behind the last one. -/
structure Walks (next : S → Option (Bool × S)) (Ahead : S → List (Option V) → Prop)
    (Shows : S → V → Prop) : Prop where
  pass : ∀ s slot rest, Ahead s (slot :: rest) →
    ∃ t, next s = some (slot.isSome, t) ∧ Ahead t rest ∧ ∀ v, slot = some v → Shows t v
  finish : ∀ s, Ahead s [] → ∃ t, next s = some (false, t) ∧ Ahead t []

section Walks
variable {next : S → Option (Bool × S)} {Ahead : S → List (Option V) → Prop}
  {Shows : S → V → Prop} {slots : List (Option V)} {s : S}

theorem Walks.one (walks : Walks next Ahead Shows) (ahead : Ahead s slots) :
    ∃ t, next s = some ((slots.head?.join).isSome, t) ∧ Ahead t slots.tail ∧
      ∀ v, slots.head? = some (some v) → Shows t v := by
  cases slots with
  | nil =>
    obtain ⟨t, moved, kept⟩ := walks.finish s ahead
    exact ⟨t, moved, kept, fun v is => by cases is⟩
  | cons slot rest =>
    obtain ⟨t, moved, kept, shows⟩ := walks.pass s slot rest ahead
    exact ⟨t, moved, kept, fun v is => shows v (Option.some.inj is)⟩

/-- Any number of calls: none of them panics, each returns whether its slot is an item,
and the cursor is at the item of the last one. -/
theorem Walks.many (walks : Walks next Ahead Shows) (ahead : Ahead s slots) (n : Nat) :
    ∃ t, calls next n s = some (outcomes slots n, t) ∧ Ahead t (slots.drop n) ∧
      ∀ i v, n = i + 1 → slots[i]? = some (some v) → Shows t v := by
  induction n generalizing s slots with
  | zero => exact ⟨s, rfl, ahead, fun i v is => by omega⟩
  | succ n ih =>
    obtain ⟨t, moved, kept, shows⟩ := walks.one ahead
    obtain ⟨last, called, final, showsLast⟩ := ih kept
    refine ⟨last, calls_succ moved called, ?_, ?_⟩
    · rw [← List.drop_one, List.drop_drop, Nat.add_comm] at final
      exact final
    · intro i v is at'
      cases Nat.succ.inj is
      cases n with
      | zero =>
        cases called
        exact shows v (List.head?_eq_getElem? ▸ at')
      | succ m => exact showsLast m v rfl (List.getElem?_tail ▸ at')

/-- A loop that runs until a call returns false and looks at the cursor after each of the
others. -/
def collect {W : Type} (next : S → Option (Bool × S)) (view : S → Option W) :
    Nat → S → Option (List W)
  | 0, _ => none
  | n + 1, s => (next s).bind (fun (more, t) =>
      if more then (view t).bind (fun w => (collect next view n t).map (w :: ·)) else some [])

/-- A loop collects what is seen of the items up to the first slot that is none. -/
theorem Walks.collect {I W : Type} (walks : Walks next Ahead Shows) {view : S → Option W}
    {items : List I} {slot : I → Option V} {seen : I → W} {rest : List (Option V)}
    (ahead : Ahead s (items.map slot ++ rest)) (stops : rest.head?.join = none)
    (each : ∀ i ∈ items, ∃ v, slot i = some v ∧ ∀ t, Shows t v → view t = some (seen i)) {n : Nat}
    (enough : items.length < n) : Lib.collect next view n s = some (items.map seen) := by
  induction items generalizing s n with
  | nil =>
    obtain ⟨t, moved, -⟩ := walks.one (List.nil_append rest ▸ ahead)
    obtain ⟨m, rfl⟩ := Nat.exists_eq_succ_of_ne_zero (Nat.ne_of_gt enough)
    simp only [Lib.collect, moved, stops, Option.bind_some, List.map_nil]
    rfl
  | cons i items ih =>
    obtain ⟨⟨v, is, looks⟩, others⟩ := List.forall_mem_cons.mp each
    obtain ⟨t, moved, kept, shows⟩ := walks.pass s _ _ ahead
    obtain ⟨m, rfl⟩ := Nat.exists_eq_succ_of_ne_zero (Nat.ne_of_gt (Nat.zero_lt_of_lt enough))
    have later := ih kept others (Nat.lt_of_succ_lt_succ enough)
    have item : (slot i).isSome = true := by rw [is]; rfl
    simp only [Lib.collect, moved, item, Option.bind_some, looks t (shows v is), later, if_true,
      Option.map_some, List.map_cons]

end Walks

end CppRsDriver.Lib
