import Mathlib.Data.List.Forall2

/-! Checks that stop at the first failure and may themselves fail to return, lists
checked pairwise, and steps that report an error. -/
namespace CppRsDriver.Lib

variable {α β γ : Type}

theorem allM_eq_some_true {p : α → Option Bool} {xs : List α} :
    xs.allM p = some true ↔ ∀ x ∈ xs, p x = some true := by
  induction xs with
  | nil => simp [List.allM]
  | cons x xs ih =>
    rw [List.forall_mem_cons, ← ih, List.allM]
    cases px : p x with
    | none => simp
    | some b => cases b <;> simp

theorem bind_check_eq_some_true {check : Option Bool} {next : Option Bool} :
    (check.bind fun b => if b then next else some false) = some true ↔
      check = some true ∧ next = some true := by
  cases check with
  | none => simp
  | some b => cases b <;> simp

theorem allM_map {p : β → Option Bool} {f : α → β} {xs : List α} :
    (xs.map f).allM p = xs.allM (fun x => p (f x)) := by
  induction xs with
  | nil => rfl
  | cons x xs ih => simp only [List.map_cons, List.allM, ih]

theorem allM_congr {p q : α → Option Bool} {xs : List α} (same : ∀ x ∈ xs, p x = q x) :
    xs.allM p = xs.allM q := by
  induction xs with
  | nil => rfl
  | cons x xs ih =>
    rw [List.forall_mem_cons] at same
    simp only [List.allM, same.1, ih same.2]

theorem allM_some {p : α → Bool} {xs : List α} :
    xs.allM (fun x => some (p x)) = some (xs.all p) := by
  induction xs with
  | nil => rfl
  | cons x xs ih =>
    rw [List.allM, List.all_cons, ih]
    cases p x <;> rfl

theorem allM_returns {p : α → Option Bool} {xs : List α} (each : ∀ x ∈ xs, ∃ b, p x = some b) :
    ∃ b, xs.allM p = some b := by
  induction xs with
  | nil => exact ⟨true, rfl⟩
  | cons x xs ih =>
    rw [List.forall_mem_cons] at each
    obtain ⟨b, is⟩ := each.1
    rw [List.allM, is]
    cases b with
    | false => exact ⟨false, rfl⟩
    | true => exact ih each.2

theorem mem_zip_through {as : List α} {bs : List β} {cs : List γ} (enough : cs.length ≤ bs.length)
    {a : α} {c : γ} (member : (a, c) ∈ as.zip cs) :
    ∃ b, (a, b) ∈ as.zip bs ∧ (b, c) ∈ bs.zip cs := by
  induction as generalizing bs cs with
  | nil => simp at member
  | cons x as ih =>
    cases cs with
    | nil => simp at member
    | cons z cs =>
      cases bs with
      | nil => simp at enough
      | cons y bs =>
        rw [List.zip_cons_cons, List.mem_cons] at member
        rcases member with head | tail
        · cases head
          exact ⟨y, List.mem_cons_self, List.mem_cons_self⟩
        · have shorter : cs.length ≤ bs.length := by simpa using enough
          obtain ⟨b, left, right⟩ := ih shorter tail
          exact ⟨b, List.mem_cons_of_mem _ left, List.mem_cons_of_mem _ right⟩

theorem forall₂_mem_right {r : α → β → Prop} {xs : List α} {ys : List β}
    (related : List.Forall₂ r xs ys) {y : β} (member : y ∈ ys) : ∃ x ∈ xs, r x y := by
  induction related with
  | nil => contradiction
  | @cons x z xs ys head tail ih =>
    rcases List.mem_cons.mp member with rfl | inside
    · exact ⟨x, List.mem_cons_self, head⟩
    · obtain ⟨x', member', is⟩ := ih inside
      exact ⟨x', List.mem_cons_of_mem _ member', is⟩

theorem forall₂_mem_left {r : α → β → Prop} {xs : List α} {ys : List β}
    (related : List.Forall₂ r xs ys) {x : α} (member : x ∈ xs) : ∃ y ∈ ys, r x y :=
  forall₂_mem_right related.flip member

theorem forall₂_all_iff {r : α → β → Prop} {p : α → Prop} {q : β → Prop} {xs : List α} {ys : List β}
    (related : List.Forall₂ r xs ys) (same : ∀ x y, r x y → (p x ↔ q y)) :
    (∀ x ∈ xs, p x) ↔ ∀ y ∈ ys, q y := by
  constructor
  · intro all y member
    obtain ⟨x, inside, is⟩ := forall₂_mem_right related member
    exact (same x y is).mp (all x inside)
  · intro all x member
    obtain ⟨y, inside, is⟩ := forall₂_mem_left related member
    exact (same x y is).mpr (all y inside)

theorem forall₂_iff_zip {r : α → β → Prop} {p : α → γ → Prop} {q : α × β → γ → Prop}
    (agree : ∀ a b, r a b → ∀ c, p a c ↔ q (a, b) c) {as : List α} {bs : List β}
    (related : List.Forall₂ r as bs) (cs : List γ) :
    List.Forall₂ p as cs ↔ List.Forall₂ q (as.zip bs) cs := by
  induction related generalizing cs with
  | nil => simp
  | @cons a b as bs head tail ih =>
    simp only [List.zip_cons_cons, List.forall₂_cons_left_iff, agree a b head, ih]

theorem forall₂_of_zip {r : α → β → Prop} {p : α → γ → Prop} {q : α × β → γ → Prop}
    (combine : ∀ a b c, p a c → q (a, b) c → r a b) {as : List α} {bs : List β} {cs : List γ}
    (length : as.length = bs.length) (left : List.Forall₂ p as cs)
    (right : List.Forall₂ q (as.zip bs) cs) : List.Forall₂ r as bs := by
  induction left generalizing bs with
  | nil => rw [List.eq_nil_of_length_eq_zero length.symm]; exact .nil
  | @cons a c as cs head tail ih =>
    cases bs with
    | nil => contradiction
    | cons b bs =>
      rw [List.zip_cons_cons, List.forall₂_cons] at right
      exact .cons (combine a b c head right.1) (ih (Nat.succ.inj length) right.2)

theorem exists_list_of_forall₂ {δ ζ : Type} {r : α → β → Prop} (f : ζ → δ) (g : ζ → β) (q : ζ → Prop)
    (h : α → δ) {as : List α} {bs : List β} (related : List.Forall₂ r as bs)
    (each : ∀ a ∈ as, ∀ b, r a b → ∃ z, f z = h a ∧ g z = b ∧ q z) :
    ∃ zs : List ζ, zs.map f = as.map h ∧ zs.map g = bs ∧ ∀ z ∈ zs, q z := by
  induction related with
  | nil => exact ⟨[], rfl, rfl, List.forall_mem_nil _⟩
  | @cons a b as bs head tail ih =>
    obtain ⟨here, later⟩ := List.forall_mem_cons.mp each
    obtain ⟨z, left, right, is⟩ := here b head
    obtain ⟨zs, lefts, rights, all⟩ := ih later
    refine ⟨z :: zs, ?_, ?_, List.forall_mem_cons.mpr ⟨is, all⟩⟩
    · rw [List.map_cons, left, lefts, List.map_cons]
    · rw [List.map_cons, right, rights]

section Except
variable {ε ε' : Type}

theorem bind_eq_ok {step : Except ε α} {next : α → Except ε β} {y : β} :
    step.bind next = .ok y ↔ ∃ x, step = .ok x ∧ next x = .ok y := by
  cases step <;> simp [Except.bind]

theorem bind_eq_error {step : Except ε α} {next : α → Except ε β} {e : ε} :
    step.bind next = .error e ↔ step = .error e ∨ ∃ x, step = .ok x ∧ next x = .error e := by
  cases step <;> simp [Except.bind]

theorem map_eq_ok {f : α → β} {step : Except ε α} {y : β} :
    step.map f = .ok y ↔ ∃ x, step = .ok x ∧ f x = y := by
  cases step <;> simp [Except.map]

theorem map_map {f : α → β} {g : β → γ} {step : Except ε α} :
    (step.map f).map g = step.map (fun x => g (f x)) := by
  cases step <;> rfl

theorem toOption_eq_some {step : Except ε α} {x : α} : step.toOption = some x ↔ step = .ok x := by
  cases step <;> simp [Except.toOption]

theorem mapError_eq_ok {f : ε → ε'} {step : Except ε α} {x : α} :
    step.mapError f = .ok x ↔ step = .ok x := by
  cases step <;> simp [Except.mapError]

theorem mapError_eq_error {f : ε → ε'} {step : Except ε α} {e : ε'} :
    step.mapError f = .error e ↔ ∃ inner, step = .error inner ∧ f inner = e := by
  cases step <;> simp [Except.mapError]

theorem mapM_eq_ok {f : α → Except ε β} {xs : List α} {ys : List β} :
    xs.mapM f = .ok ys ↔ List.Forall₂ (fun x y => f x = .ok y) xs ys := by
  induction xs generalizing ys with
  | nil => cases ys <;> simp [pure, Except.pure]
  | cons x xs ih =>
    rw [List.mapM_cons, List.forall₂_cons_left_iff]
    refine bind_eq_ok.trans ⟨?_, ?_⟩
    · rintro ⟨y, first, rest⟩
      obtain ⟨tail, others, done⟩ := bind_eq_ok.mp rest
      exact ⟨y, tail, first, ih.mp others, (Except.ok.inj done).symm⟩
    · rintro ⟨y, tail, first, others, rfl⟩
      exact ⟨y, first, bind_eq_ok.mpr ⟨tail, ih.mpr others, rfl⟩⟩

theorem mapM_eq_error {f : α → Except ε β} {xs : List α} {e : ε} (failed : xs.mapM f = .error e) :
    ∃ x ∈ xs, f x = .error e := by
  induction xs with
  | nil => contradiction
  | cons x xs ih =>
    rw [List.mapM_cons] at failed
    rcases bind_eq_error.mp failed with first | ⟨y, first, rest⟩
    · exact ⟨x, List.mem_cons_self, first⟩
    · rcases bind_eq_error.mp rest with others | ⟨tail, others, done⟩
      · obtain ⟨z, member, is⟩ := ih others
        exact ⟨z, List.mem_cons_of_mem _ member, is⟩
      · contradiction

end Except

theorem getElem?_snoc {α : Type} {xs : List α} {x y : α} {i : Nat}
    (found : (xs ++ [x])[i]? = some y) : xs[i]? = some y ∨ i = xs.length ∧ y = x := by
  rcases Nat.lt_or_ge i xs.length with inside | outside
  · rw [List.getElem?_append_left inside] at found
    exact .inl found
  · rw [List.getElem?_append_right outside, List.getElem?_singleton] at found
    split at found
    · exact .inr ⟨by omega, (Option.some.inj found).symm⟩
    · contradiction

theorem getLastD_filterMap_cons {f : α → Option β} {a : α} {as : List α} {x : β} :
    ((a :: as).filterMap f).getLastD x = (as.filterMap f).getLastD ((f a).getD x) := by
  cases is : f a with
  | none => rw [List.filterMap_cons_none is, Option.getD_none]
  | some b => rw [List.filterMap_cons_some is, List.getLastD_cons, Option.getD_some]

theorem append_filterMap_cons {f : α → Option β} {a : α} {as : List α} {xs : List β} :
    xs ++ (a :: as).filterMap f = xs ++ (f a).toList ++ as.filterMap f := by
  cases is : f a with
  | none => rw [List.filterMap_cons_none is, Option.toList_none, List.append_nil]
  | some b => rw [List.filterMap_cons_some is, Option.toList_some, List.append_assoc, List.singleton_append]

theorem getElem?_flatMap_pair (f g : α → β) (xs : List α) (i : Nat) :
    (xs.flatMap (fun x => [f x, g x]))[2 * i]? = xs[i]?.map f ∧
      (xs.flatMap (fun x => [f x, g x]))[2 * i + 1]? = xs[i]?.map g := by
  induction xs generalizing i with
  | nil => exact ⟨rfl, rfl⟩
  | cons x xs ih =>
    cases i with
    | zero => exact ⟨rfl, rfl⟩
    | succ i =>
      rw [List.flatMap_cons, Nat.mul_succ]
      exact ih i

theorem set_of_getElem? {α : Type} {xs : List α} {x : α} {i : Nat} (found : xs[i]? = some x) :
    xs.set i x = xs := by
  obtain ⟨bound, is⟩ := List.getElem?_eq_some_iff.mp found
  rw [← is, List.set_getElem_self]

theorem mem_before {before after : List Nat} {index j : Nat}
    (sorted : (before ++ index :: after).Pairwise (· < ·)) :
    j ∈ before ↔ j < index ∧ j ∈ before ++ index :: after := by
  obtain ⟨-, tail, across⟩ := List.pairwise_append.mp sorted
  constructor
  · intro member
    exact ⟨across j member index List.mem_cons_self, List.mem_append_left _ member⟩
  · rintro ⟨less, member⟩
    rcases List.mem_append.mp member with earlier | later
    · exact earlier
    · rcases List.mem_cons.mp later with rfl | beyond
      · omega
      · have greater := (List.pairwise_cons.mp tail).1 j beyond
        omega

theorem length_foldl_set {α : Type} (x : α) (indices : List Nat) (values : List α) :
    (indices.foldl (fun values i => values.set i x) values).length = values.length := by
  induction indices generalizing values with
  | nil => rfl
  | cons i indices ih => rw [List.foldl_cons, ih, List.length_set]

theorem mem_foldl_set {α : Type} {x y : α} (indices : List Nat) (values : List α)
    (member : y ∈ indices.foldl (fun values i => values.set i x) values) : y ∈ values ∨ y = x := by
  induction indices generalizing values with
  | nil => exact .inl member
  | cons i indices ih =>
    rcases ih (values.set i x) member with old | new
    · exact List.mem_or_eq_of_mem_set old
    · exact .inr new

theorem mem_filter_zipIdx {α : Type} {p : α → Bool} {xs : List α} {i : Nat} :
    i ∈ (xs.zipIdx.filter (fun (x, _) => p x)).map Prod.snd ↔ ∃ x, xs[i]? = some x ∧ p x = true := by
  simp only [List.mem_map, List.mem_filter, Prod.exists, List.mk_mem_zipIdx_iff_getElem?]
  constructor
  · rintro ⟨x, j, ⟨found, is⟩, rfl⟩
    exact ⟨x, found, is⟩
  · rintro ⟨x, found, is⟩
    exact ⟨x, i, ⟨found, is⟩, rfl⟩

theorem getElem?_foldl_set {α : Type} (x : α) (indices : List Nat) (values : List α) (j : Nat) :
    (indices.foldl (fun values i => values.set i x) values)[j]? =
      if j ∈ indices ∧ j < values.length then some x else values[j]? := by
  induction indices generalizing values with
  | nil => simp
  | cons i indices ih =>
    rw [List.foldl_cons, ih, List.length_set, List.getElem?_set]
    by_cases later : j ∈ indices
    · by_cases inside : j < values.length
      · simp [later, inside]
      · simp [later, inside]
        omega
    · by_cases here : i = j
      · subst here
        by_cases inside : i < values.length
        · simp [later, inside]
        · simp [later, inside]
      · simp [later, here, Ne.symm here]

theorem findIdx?_eq_iff {α : Type} {p q : α → Bool} {xs : List α} :
    xs.findIdx? p = xs.findIdx? q ↔
      ∀ x, xs.find? (fun x => p x || q x) = some x → p x = true ∧ q x = true := by
  induction xs with
  | nil => simp
  | cons x xs ih =>
    rw [List.findIdx?_cons, List.findIdx?_cons, List.find?_cons]
    cases left : p x with
    | true =>
      cases right : q x with
      | true => simp [left, right]
      | false => cases xs.findIdx? q <;> simp [right]
    | false =>
      cases right : q x with
      | true => cases xs.findIdx? p <;> simp [left]
      | false =>
        rw [Bool.or_self, ← ih]
        constructor
        · intro same
          exact Option.map_injective (fun _ _ => Nat.succ.inj) (by simpa using same)
        · intro same
          simp [same]

end CppRsDriver.Lib
