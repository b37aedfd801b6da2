import CppRsDriver.Future.Lock
import CppRsDriver.Lib.OneShot
import CppRsDriver.Lib.Runs

/-! The callback slot of a future is a one-shot cell: registrants are the calls of
`cass_future_set_callback`, the resolver is the spawned task. -/
namespace CppRsDriver.Future

open CppRsDriver.Lib

variable {T R : Type}

/- Storing the callback and reading the result happen under one lock, so a call
that has stored its callback already stands where its reading will put it. -/
def CallPc.standing (result : Option R) : CallPc R → Standing
  | .cbRejecting | .cbReturned .libCallbackAlreadySet => .rejected
  | .cbStored => if result.isSome then .obliged else .settled
  | .cbLeaving shouldInvokeCallback => if shouldInvokeCallback then .obliged else .settled
  | .cbInvoking => .obliged
  | .cbReturned .ok => .settled
  | _ => .outside

def State.duty (s : State T R) : Option T :=
  match s.resolver with
  | .resultSet => s.callback
  | .leaving callback => callback
  | .invoking callback => some callback
  | _ => none

def State.slot (s : State T R) : OneShot T where
  order := s.order
  invoked := s.invoked
  resolved := s.result.isSome
  duty := s.duty
  standing := fun t => (s.pc t).standing s.result

/-- Which future a registering call can meet, and which code which call can return. -/
def CallPc.Fits (futureKind : FutureKind R) (kind : CallKind) : CallPc R → Prop
  | .cbSwapping => ∃ res, futureKind = .immediate res
  | .cbLocking | .cbChecking => futureKind = .resolvable
  | .cbReturned code => code = .ok ∨ code = .libCallbackAlreadySet ∨ kind = .setCallback true
  | _ => True

/-- The stored callback, or the flag of an immediate future, tells whether a
registration has been made. -/
structure Registered (futureKind : FutureKind R) (kind : T → CallKind) (s : State T R) : Prop where
  stored : futureKind = .resolvable → s.callback = s.order.head?
  flagged : ∀ res, futureKind = .immediate res →
    (s.callbackSet = true ↔ s.order ≠ []) ∧ s.result.isSome = true
  fits : ∀ t, (s.pc t).Fits futureKind (kind t)

theorem Registered.swapping {futureKind : FutureKind R} {kind : T → CallKind} {s : State T R}
    (registered : Registered futureKind kind s) {t : T} (was : s.pc t = .cbSwapping) :
    ∃ res, futureKind = .immediate res := by
  have fits := registered.fits t
  rwa [was] at fits

theorem Registered.checking {futureKind : FutureKind R} {kind : T → CallKind} {s : State T R}
    (registered : Registered futureKind kind s) {t : T} (was : s.pc t = .cbChecking) :
    futureKind = .resolvable := by
  have fits := registered.fits t
  rwa [was] at fits

theorem QuietMove.fits {futureKind : FutureKind R} {kind : CallKind} {s : State T R}
    {pc pc' : CallPc R} (move : QuietMove futureKind kind s pc pc') : pc'.Fits futureKind kind := by
  cases move with
  | nullCallback published null => exact .inr (.inr null)
  | startCallback published given resolvable => exact resolvable
  | startSwap published given res immediate => exact ⟨res, immediate⟩
  | _ => trivial

theorem Enter.fits {pc pc' : CallPc R} (enter : Enter pc pc') {futureKind : FutureKind R}
    {kind : CallKind} (fits : pc.Fits futureKind kind) : pc'.Fits futureKind kind := by
  cases enter with
  | check => exact fits
  | _ => trivial

theorem Leave.fits {s : State T R} {pc pc' : CallPc R} (leave : Leave s pc pc')
    (futureKind : FutureKind R) (kind : CallKind) : pc'.Fits futureKind kind := by
  cases leave with
  | reject => exact .inr (.inl rfl)
  | store => exact .inl rfl
  | _ => trivial

theorem wake_fits {pc : CallPc R} {futureKind : FutureKind R} {kind : CallKind}
    (fits : pc.Fits futureKind kind) : pc.wake.Fits futureKind kind := by
  cases pc <;> exact fits

theorem wake_standing (result : Option R) (pc : CallPc R) :
    pc.wake.standing result = pc.standing result := by
  cases pc <;> rfl

theorem standing_of_not_stored {pc : CallPc R} (elsewhere : pc ≠ .cbStored)
    (result result' : Option R) : pc.standing result' = pc.standing result := by
  cases pc with
  | cbStored => contradiction
  | cbReturned code => cases code <;> rfl
  | _ => rfl

theorem QuietMove.standing_eq {futureKind : FutureKind R} {kind : CallKind} {s : State T R}
    {pc pc' : CallPc R} (move : QuietMove futureKind kind s pc pc') :
    pc'.standing s.result = pc.standing s.result := by
  cases move <;> rfl

theorem Enter.standing_eq {pc pc' : CallPc R} (enter : Enter pc pc') (result : Option R) :
    pc'.standing result = pc.standing result := by
  cases enter <;> rfl

theorem Leave.standing_eq {s : State T R} {pc pc' : CallPc R} (leave : Leave s pc pc') :
    pc'.standing s.result = pc.standing s.result := by
  cases leave <;> rfl

theorem duty_of_callback {s : State T R} (elsewhere : s.resolver ≠ .resultSet) (order : List T)
    (callback : Option T) : { s with order := order, callback := callback }.duty = s.duty := by
  unfold State.duty
  cases position : s.resolver with
  | resultSet => contradiction
  | _ => rfl

theorem Sound.resolver_outside {s : State T R} (sound : Sound s) {t : T}
    (inside : (s.pc t).holdsLock = true) : s.resolver.holdsLock = false := by
  by_contra held
  have both := sound.alone (a := .call t) (b := .resolver) inside (eq_true_of_ne_false held)
  contradiction

theorem initial_registered (futureKind : FutureKind R) (kind : T → CallKind) :
    Registered futureKind kind (initial futureKind) := by
  cases futureKind with
  | resolvable => exact ⟨fun _ => rfl, fun res eq => by contradiction, fun _ => trivial⟩
  | immediate res =>
    exact ⟨fun eq => by contradiction, fun _ _ => ⟨by simp [initial, newReady], rfl⟩,
      fun _ => trivial⟩

theorem initial_slot_valid (futureKind : FutureKind R) :
    (initial futureKind : State T R).slot.Valid := by
  have outside : ∀ t, (initial futureKind : State T R).slot.standing t = .outside := by
    intro t; cases futureKind <;> rfl
  have empty : (initial futureKind : State T R).order = [] := by cases futureKind <;> rfl
  refine ⟨fun _ => by cases futureKind <;> exact ⟨rfl, rfl⟩, ?_, ?_, ?_⟩
  · intro t head
    rw [State.slot, empty] at head
    contradiction
  · intro t accepted
    rw [outside t] at accepted
    rcases accepted with eq | eq <;> contradiction
  · intro t rejected
    rw [outside t] at rejected
    contradiction

variable [DecidableEq T]

theorem slot_goto (s : State T R) (t : T) (pc : CallPc R) :
    (s.goto t pc).slot =
      { s.slot with standing := Function.update s.slot.standing t (pc.standing s.result) } := by
  simp only [State.slot, State.goto, State.duty, OneShot.mk.injEq, true_and]
  funext u
  by_cases eq : u = t
  · subst eq; simp
  · simp [eq]

theorem slot_goto_same {s : State T R} {t : T} {pc : CallPc R}
    (same : pc.standing s.result = (s.pc t).standing s.result) : (s.goto t pc).slot = s.slot := by
  have unchanged : Function.update s.slot.standing t (pc.standing s.result) = s.slot.standing := by
    rw [same]
    exact Function.update_eq_self t s.slot.standing
  rw [slot_goto, unchanged]

section Runs
variable {futureKind : FutureKind R} {kind : T → CallKind} {s s' : State T R}

/- Setting the result makes the stored callback the resolver's duty. -/
theorem slot_next_setResult (sound : Sound s) (registered : Registered futureKind kind s) {r : R}
    (was : s.resolver = .locked r) (unset : s.result = none) :
    s.slot.Next { s with result := some r, resolver := .resultSet }.slot := by
  -- nobody is between storing a callback and reading the result
  have apart : ∀ t, s.pc t ≠ .cbStored := by
    intro t stored
    have outside := sound.resolver_outside (t := t) (by rw [stored]; rfl)
    rw [was] at outside
    contradiction
  have head : s.callback = s.order.head? := by
    cases futureKind with
    | resolvable => exact registered.stored rfl
    | immediate res => simpa [unset] using (registered.flagged res rfl).2
  have standing : (fun t => (s.pc t).standing (some r)) = s.slot.standing :=
    funext (fun t => standing_of_not_stored (apart t) _ _)
  have eq : State.slot { s with result := some r, resolver := .resultSet } =
      { s.slot with resolved := true, duty := s.slot.order.head? } := by
    simp only [State.slot, State.duty, OneShot.mk.injEq, Option.isSome_some, true_and]
    exact ⟨head, standing⟩
  exact eq ▸ OneShot.Next.resolve s.slot (by simp [State.slot, unset])

/- The first caller on a ready future has to invoke its callback itself. -/
theorem slot_next_swapFirst (registered : Registered futureKind kind s) {t : T}
    (was : s.pc t = .cbSwapping) (free : s.callbackSet = false) :
    s.slot.Next
      ({ s with callbackSet := true, order := s.order ++ [t] }.goto t .cbInvoking).slot := by
  obtain ⟨res, immediate⟩ := registered.swapping was
  obtain ⟨flag, set⟩ := registered.flagged res immediate
  have empty : s.slot.order = [] := by
    by_contra taken
    rw [free] at flag
    exact absurd (flag.mpr taken) (by decide)
  have next := OneShot.Next.accept s.slot t (by simp only [State.slot, was]; rfl) empty
  rw [if_pos (show s.slot.resolved = true from set)] at next
  rw [slot_goto]
  exact next

theorem slot_next_store (sound : Sound s) (registered : Registered futureKind kind s) {t : T}
    (was : s.pc t = .cbChecking) (free : s.callback = none) :
    s.slot.Next
      ({ s with order := s.order ++ [t], callback := some t }.goto t .cbStored).slot := by
  have stored := registered.stored (registered.checking was)
  have empty : s.slot.order = [] := List.head?_eq_none_iff.mp (stored.symm.trans free)
  have outside := sound.resolver_outside (t := t) (by rw [was]; rfl)
  have elsewhere : s.resolver ≠ .resultSet := by
    intro eq
    rw [eq] at outside
    contradiction
  have eq : State.slot { s with order := s.order ++ [t], callback := some t } =
      { s.slot with order := s.order ++ [t] } := by
    simp only [State.slot, duty_of_callback elsewhere]
  rw [slot_goto, eq]
  exact OneShot.Next.accept s.slot t (by simp only [State.slot, was]; rfl) empty

/-- Every step of the future is a step of the one-shot cell or leaves it alone. -/
theorem Transition.slot_next (transition : Transition futureKind kind s s') (sound : Sound s)
    (registered : Registered futureKind kind s) : s.slot.Next s'.slot := by
  have stutter : ∀ {c : OneShot T}, c = s.slot → s.slot.Next c := fun eq => eq ▸ .stutter _
  cases transition with
  | futureReady r was => exact stutter (by simp [State.slot, State.duty, was])
  | creatorLock was free => exact .stutter _
  | creatorStore was => exact .stutter _
  | creatorUnlock was => exact .stutter _
  | resolverLock r was free => exact stutter (by simp [State.slot, State.duty, was])
  | setResult r was unset => exact slot_next_setResult sound registered was unset
  | setTwice r was set => exact stutter (by simp [State.slot, State.duty, was])
  | readCallback was => exact stutter (by simp [State.slot, State.duty, was])
  | resolverUnlock callback was =>
    exact stutter (by cases callback <;> simp [State.slot, State.duty, was])
  | resolverInvoke callback was =>
    have due : s.slot.duty = some callback := by simp only [State.slot, State.duty, was]
    exact OneShot.Next.discharge s.slot callback due
  | notifyAll was => exact stutter (by simp [State.slot, State.duty, was, wake_standing])
  | quiet t pc move => exact stutter (slot_goto_same move.standing_eq)
  | callLock t pc free enter => exact stutter (slot_goto_same (enter.standing_eq _))
  | callUnlock t pc leave => exact stutter (slot_goto_same leave.standing_eq)
  | swapFirst t was free => exact slot_next_swapFirst registered was free
  | swapLater t was taken =>
    obtain ⟨res, immediate⟩ := registered.swapping was
    have nonempty : s.slot.order ≠ [] := (registered.flagged res immediate).1.mp taken
    rw [slot_goto]
    exact OneShot.Next.reject s.slot t (by simp only [State.slot, was]; rfl) nonempty
  | store t was free => exact slot_next_store sound registered was free
  | reject t was taken =>
    have stored := registered.stored (registered.checking was)
    have nonempty : s.slot.order ≠ [] := by
      intro empty
      rw [stored, show s.order = [] from empty] at taken
      contradiction
    rw [slot_goto]
    exact OneShot.Next.reject s.slot t (by simp only [State.slot, was]; rfl) nonempty
  | callInvoke t was =>
    have obliged : s.slot.standing t = .obliged := by simp only [State.slot, was]; rfl
    rw [slot_goto]
    exact OneShot.Next.fulfil s.slot t obliged
  | take t was present => exact stutter (slot_goto_same (by rw [was]; rfl))
  | putBack t was alone => exact stutter (slot_goto_same (by rw [was]; rfl))
  | putBackNotify t u was sleeper =>
    have ne : t ≠ u := by
      rintro rfl
      rw [was] at sleeper
      contradiction
    refine stutter ?_
    rw [slot_goto_same (by simp only [goto_pc, if_neg ne, was]; rfl),
      slot_goto_same (by rw [sleeper]; rfl)]
    rfl

theorem Transition.fits (transition : Transition futureKind kind s s')
    (fits : ∀ u, (s.pc u).Fits futureKind (kind u)) (u : T) :
    (s'.pc u).Fits futureKind (kind u) := by
  have goto (s : State T R) (t : T) (pc : CallPc R) (fits : ∀ u, (s.pc u).Fits futureKind (kind u))
      (moved : pc.Fits futureKind (kind t)) : ∀ u, ((s.goto t pc).pc u).Fits futureKind (kind u) :=
    goto_all s t pc fits moved
  cases transition with
  | notifyAll was => exact wake_fits (fits u)
  | quiet t pc move => exact goto s t pc fits move.fits u
  | callLock t pc free enter => exact goto _ t pc fits (enter.fits (fits t)) u
  | callUnlock t pc leave => exact goto _ t pc fits (leave.fits futureKind (kind t)) u
  | swapFirst t was free => exact goto _ t .cbInvoking fits trivial u
  | swapLater t was taken =>
    exact goto _ t (.cbReturned .libCallbackAlreadySet) fits (.inr (.inl rfl)) u
  | store t was free => exact goto _ t .cbStored fits trivial u
  | reject t was taken => exact goto _ t .cbRejecting fits trivial u
  | callInvoke t was => exact goto _ t (.cbReturned .ok) fits (.inl rfl) u
  | take t was present => exact goto _ t .dropping fits trivial u
  | putBack t was alone => exact goto _ t (.exiting .timeoutError) fits trivial u
  | putBackNotify t v was sleeper =>
    have woken := goto { s with joinHandle := true } v .waking fits trivial
    exact goto _ t (.exiting .timeoutError) woken trivial u
  | _ => exact fits u

theorem Transition.registered (transition : Transition futureKind kind s s')
    (registered : Registered futureKind kind s) : Registered futureKind kind s' := by
  refine ⟨?_, ?_, transition.fits registered.fits⟩
  · intro resolvable
    have stored := registered.stored resolvable
    cases transition with
    | store t was free =>
      have empty := List.head?_eq_none_iff.mp (stored.symm.trans free)
      simp [State.goto, empty]
    | reject t was taken =>
      rw [stored] at taken
      simp only [State.goto, List.head?_append, Option.or_of_isSome taken]
      exact stored
    | swapFirst t was | swapLater t was =>
      obtain ⟨res, immediate⟩ := registered.swapping was
      rw [resolvable] at immediate
      contradiction
    | _ => exact stored
  · intro res immediate
    obtain ⟨flag, set⟩ := registered.flagged res immediate
    cases transition with
    | swapFirst t was | swapLater t was => exact ⟨by simp [State.goto], set⟩
    | store t was | reject t was =>
      have resolvable := registered.checking was
      rw [immediate] at resolvable
      contradiction
    | setResult r was unset => exact ⟨flag, rfl⟩
    | _ => exact ⟨flag, set⟩

theorem Transition.invokes_resolved (transition : Transition futureKind kind s s')
    (sound : Sound s) (valid : s.slot.Valid) (invokes : s'.invoked ≠ s.invoked) :
    s.result.isSome = true := by
  cases transition with
  | resolverInvoke callback was =>
    rw [sound.result, was]
    rfl
  | callInvoke t was =>
    have obliged : s.slot.standing t = .obliged := by simp only [State.slot, was]; rfl
    cases valid.first t (valid.accepted t (.inl obliged)) with
    | later _ _ _ standing => rw [obliged] at standing; contradiction
    | byResolver resolved _ _ _ => exact resolved
    | byRegistrant resolved _ _ _ => exact resolved
    | done resolved _ _ _ => exact resolved
  | _ => contradiction

theorem Registered.code_by_order (registered : Registered futureKind kind s)
    (valid : s.slot.Valid) {t : T} {code : CassError} (given : kind t = .setCallback false)
    (returned : s.pc t = .cbReturned code) :
    t ∈ s.order ∧ code = if s.order.head? = some t then .ok else .libCallbackAlreadySet := by
  have fits := registered.fits t
  rw [returned] at fits
  rcases fits with rfl | rfl | null
  · have settled : s.slot.standing t = .settled := by simp only [State.slot, returned]; rfl
    have head : s.order.head? = some t := valid.accepted t (.inr settled)
    exact ⟨List.mem_of_mem_head? head, by rw [if_pos head]⟩
  · have rejected : s.slot.standing t = .rejected := by simp only [State.slot, returned]; rfl
    have later : s.order.head? ≠ some t := valid.rejected_not_first rejected
    exact ⟨valid.rejected t rejected, by rw [if_neg later]⟩
  · rw [given] at null
    contradiction

variable [Fintype T]

theorem run_slot_valid {events : List (Event T R)}
    (ran : run (step futureKind kind) (initial futureKind) events = some s) :
    (Sound s ∧ Registered futureKind kind s) ∧ s.slot.Valid := by
  have keeps : ∀ (s : State T R) event s', Sound s ∧ Registered futureKind kind s →
      step futureKind kind s event = some s' → Sound s' ∧ Registered futureKind kind s' :=
    fun s event s' inv stepped =>
      ⟨(step_transition stepped).sound inv.1, (step_transition stepped).registered inv.2⟩
  have matched : ∀ (s : State T R) event s', Sound s ∧ Registered futureKind kind s →
      step futureKind kind s event = some s' → s.slot.Next s'.slot :=
    fun s event s' inv stepped => (step_transition stepped).slot_next inv.1 inv.2
  exact run_refines keeps matched (fun _ _ valid next => next.valid valid)
    ⟨initial_sound futureKind, initial_registered futureKind kind⟩ (initial_slot_valid futureKind)
    ran

/-- Callbacks of a future fire exactly once, for any interleaving: the first call
to take effect is accepted and the others turned away, nothing but the accepted
callback is run and only after the result is set, and once the task and the
accepting call are done it has been run once. -/
theorem callback_fires_once (futureKind : FutureKind R) (kind : T → CallKind)
    (events : List (Event T R)) (s : State T R)
    (ran : run (step futureKind kind) (initial futureKind) events = some s) :
    (∀ t code, kind t = .setCallback false → s.pc t = .cbReturned code →
      t ∈ s.order ∧ code = if s.order.head? = some t then .ok else .libCallbackAlreadySet) ∧
    (∀ t, s.pc t = .cbReturned .libCallbackAlreadySet → t ∉ s.invoked) ∧
    (∀ t ∈ s.invoked, s.order.head? = some t ∧ s.result.isSome = true) ∧
    (∀ event s', step futureKind kind s event = some s' → s'.invoked ≠ s.invoked →
      s.result.isSome = true) ∧
    (∀ t, s.resolver = .finished → s.pc t = .cbReturned .ok → s.invoked = [t]) := by
  obtain ⟨⟨sound, registered⟩, valid⟩ := run_slot_valid ran
  refine ⟨?_, ?_, ?_, ?_, ?_⟩
  · exact fun t code given returned => registered.code_by_order valid given returned
  · intro t returned invoked
    have rejected : s.slot.standing t = .rejected := by simp only [State.slot, returned]; rfl
    exact valid.rejected_not_first rejected (valid.of_invoked invoked).1
  · exact fun t invoked => valid.of_invoked invoked
  · exact fun event s' stepped invokes =>
      (step_transition stepped).invokes_resolved sound valid invokes
  · intro t finished returned
    have settled : s.slot.standing t = .settled := by simp only [State.slot, returned]; rfl
    have set : s.slot.resolved = true := by rw [State.slot, sound.result, finished]; rfl
    have idle : s.slot.duty = none := by simp only [State.slot, State.duty, finished]
    cases valid.first t (valid.accepted t (.inr settled)) with
    | later unresolved _ _ _ => rw [set] at unresolved; contradiction
    | byResolver _ duty _ _ => rw [idle] at duty; contradiction
    | byRegistrant _ _ _ standing => rw [settled] at standing; contradiction
    | done _ _ invoked _ => exact invoked

end Runs

/- The first call stores its callback while the task waits for the lock, the second
comes between the reading of the callback and its invocation. -/
def raceRun : List (Event (Fin 2) Nat) :=
  [.creator, .creator, .creator, .call 0, .call 1, .call 0, .call 0, .futureReady 7, .call 0,
   .call 0, .resolver, .resolver, .resolver, .resolver, .call 1, .call 1, .call 1, .resolver,
   .resolver]

theorem callback_fires_once_race :
    ∃ s, run (step .resolvable (fun _ => .setCallback false)) (initial .resolvable) raceRun =
        some s ∧ s.pc 1 = .cbReturned .libCallbackAlreadySet ∧ s.invoked = [0] :=
  ⟨_, rfl, rfl, (callback_fires_once .resolvable (fun _ => .setCallback false) raceRun _
    rfl).2.2.2.2 0 rfl rfl⟩

end CppRsDriver.Future
