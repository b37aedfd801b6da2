import CppRsDriver.Basic
import CppRsDriver.Lib.Checks
import CppRsDriver.Lib.Runs

/-! The execution profile of a statement or batch. The object keeps a name, shared with
the requests made from it; the first request that finds a profile of that name replaces
the name by the handle. -/
namespace CppRsDriver.Session

open CppRsDriver.Lib

structure ExecProfileName where
  name : String
  nonempty : name ≠ ""
  deriving DecidableEq

def ExecProfileName.tryFrom (name : String) : Option ExecProfileName :=
  if nonempty : name ≠ "" then some ⟨name, nonempty⟩ else none

abbrev ProfileError := CassError × String

section Profiles
variable {H : Type}

/-- A connected session, as far as profiles go; `H` are the handles. -/
structure CassConnectedSession (H : Type) where
  execProfileMap : ExecProfileName → Option H

def CassConnectedSession.resolveExecProfile (session : CassConnectedSession H)
    (name : ExecProfileName) : Except ProfileError H :=
  match session.execProfileMap name with
  | some handle => .ok handle
  | none => .error (.libExecutionProfileInvalid, name.name ++ " does not exist")

inductive PerStatementExecProfileInner (H : Type) where
  | unresolved (name : ExecProfileName)
  | resolved (handle : H)

namespace PerStatementExecProfileInner

/-- What `get_or_resolve_profile_handle` sees under the read lock. -/
def alreadyResolved : PerStatementExecProfileInner H → Option H
  | .unresolved _ => none
  | .resolved handle => some handle

/-- What it does under the write lock. -/
def resolve (session : CassConnectedSession H) :
    PerStatementExecProfileInner H → Except ProfileError H × PerStatementExecProfileInner H
  | .unresolved name =>
    match session.resolveExecProfile name with
    | .ok handle => (.ok handle, .resolved handle)
    | .error e => (.error e, .unresolved name)
  | .resolved handle => (.ok handle, .resolved handle)

end PerStatementExecProfileInner

/-- The shared cell made by one call of `set_execution_profile`, with the name it was given. -/
structure PerStatementExecProfile (H : Type) where
  name : ExecProfileName
  inner : PerStatementExecProfileInner H

def PerStatementExecProfile.newUnresolved (name : ExecProfileName) : PerStatementExecProfile H :=
  ⟨name, .unresolved name⟩

inductive RequestPc where
  | started
  /-- The read lock is released; the name was not resolved. -/
  | unresolved
  | finished
  deriving DecidableEq

/-- A request in flight: it keeps its session connected and shares the cell. The name is
the one that was set when it was made. -/
structure Request (H : Type) where
  session : CassConnectedSession H
  name : Option ExecProfileName
  execProfile : Option Nat
  pc : RequestPc

/-- A request that has its handle, or failed to get one. -/
structure Outcome (H : Type) where
  session : CassConnectedSession H
  name : Option ExecProfileName
  execProfile : Option Nat
  result : Except ProfileError (Option H)

/-- One statement or batch, the sessions and the requests. -/
structure State (S H : Type) where
  sessions : S → Option (CassConnectedSession H)
  cells : List (PerStatementExecProfile H)
  /-- The name that is set, whether or not it is resolved. -/
  name : Option ExecProfileName
  execProfile : Option Nat
  requests : List (Request H)
  /-- The outcomes, in the order in which the locks were taken. -/
  outcomes : List (Outcome H)

def initial {S : Type} : State S H := ⟨fun _ => none, [], none, none, [], []⟩

inductive Action (S H : Type) where
  | setExecutionProfile (name : CassStr)
  | connect (s : S) (session : CassConnectedSession H)
  | close (s : S)
  | execute (s : S)
  /-- The next step of a request. -/
  | proceed (i : Nat)

section Steps
variable {S : Type} [DecidableEq S]

def State.setExecutionProfile (s : State S H) (name : CassStr) : CassError × State S H :=
  let set (name : Option ExecProfileName) : State S H :=
    match name with
    | none => { s with name := none, execProfile := none }
    | some name =>
      { s with
        cells := s.cells ++ [.newUnresolved name]
        name := some name
        execProfile := some s.cells.length }
  match name with
  | .ok name => (.ok, set (ExecProfileName.tryFrom name))
  | .error .nullPointer => (.ok, set none)
  | .error .invalidUtf8 => (.libBadParams, s)

def State.finish (s : State S H) (i : Nat) (request : Request H)
    (result : Except ProfileError (Option H)) : State S H :=
  { s with
    requests := s.requests.set i { request with pc := .finished }
    outcomes := s.outcomes ++ [⟨request.session, request.name, request.execProfile, result⟩] }

def State.proceed (s : State S H) (i : Nat) (request : Request H) : Option (State S H) :=
  match request.pc, request.execProfile with
  | .finished, _ => none
  | _, none => some (s.finish i request (.ok none))
  | .started, some c => do
    let cell ← s.cells[c]?
    match cell.inner.alreadyResolved with
    | some handle => some (s.finish i request (.ok (some handle)))
    | none => some { s with requests := s.requests.set i { request with pc := .unresolved } }
  | .unresolved, some c => do
    let cell ← s.cells[c]?
    let (result, inner) := cell.inner.resolve request.session
    some ({ s with cells := s.cells.set c { cell with inner := inner } }.finish i request
      (result.map some))

/- A session that is not connected turns the call away; a closed one keeps its
connection until the requests on it are done. -/
def step (s : State S H) : Action S H → Option (State S H)
  | .setExecutionProfile name => some (s.setExecutionProfile name).2
  | .connect sid session => some { s with sessions := Function.update s.sessions sid (some session) }
  | .close sid => some { s with sessions := Function.update s.sessions sid none }
  | .execute sid =>
    match s.sessions sid with
    | none => some s
    | some session =>
      some { s with requests := s.requests ++ [⟨session, s.name, s.execProfile, .started⟩] }
  | .proceed i => s.requests[i]?.bind (s.proceed i)

end Steps

/-- What a request on its own session would add to the question who has the profile. -/
def Outcome.owns (o : Outcome H) (c : Nat) (name : ExecProfileName) : Option H :=
  if o.execProfile = some c then o.session.execProfileMap name else none

/-- The handle of the first session that has the profile, among the requests that share a cell. -/
def firstHandle (outcomes : List (Outcome H)) (c : Nat) (name : ExecProfileName) : Option H :=
  outcomes.findSome? (fun o => o.owns c name)

/-- The error of `resolve_exec_profile`. -/
def profileMissing (name : ExecProfileName) : ProfileError :=
  (.libExecutionProfileInvalid, name.name ++ " does not exist")

/-- What a request is told when a name stands for this handle, or for none. -/
def answer (name : ExecProfileName) : Option H → Except ProfileError (Option H)
  | some handle => .ok (some handle)
  | none => .error (profileMissing name)

/-- The cell of a name after the given first handle. -/
def memo (name : ExecProfileName) : Option H → PerStatementExecProfileInner H
  | some handle => .resolved handle
  | none => .unresolved name

/-- A result is the answer of the first session that has the profile, the request's
own session coming last. -/
def Explained (names : List ExecProfileName) (before : List (Outcome H)) (o : Outcome H) : Prop :=
  match o.execProfile with
  | none => o.result = .ok none
  | some c => ∃ name, names[c]? = some name ∧ o.result = answer name (firstHandle (before ++ [o]) c name)

section Invariant
variable {S : Type}

def State.names (s : State S H) : List ExecProfileName := s.cells.map PerStatementExecProfile.name

structure State.Inv (s : State S H) : Prop where
  memoized : ∀ c cell, s.cells[c]? = some cell →
    cell.inner = memo cell.name (firstHandle s.outcomes c cell.name)
  known : ∀ o ∈ s.outcomes, ∀ c, o.execProfile = some c → c < s.cells.length
  explained : ∀ i o, s.outcomes[i]? = some o → Explained s.names (s.outcomes.take i) o

theorem resolve_memo (session : CassConnectedSession H) (name : ExecProfileName) (first : Option H) :
    ((memo name first).resolve session).1.map some =
        answer name (first.or (session.execProfileMap name)) ∧
      ((memo name first).resolve session).2 = memo name (first.or (session.execProfileMap name)) := by
  cases first with
  | some handle => exact ⟨rfl, rfl⟩
  | none =>
    simp only [memo, PerStatementExecProfileInner.resolve,
      CassConnectedSession.resolveExecProfile, Option.none_or]
    cases session.execProfileMap name with
    | some handle => exact ⟨rfl, rfl⟩
    | none => exact ⟨rfl, rfl⟩

theorem firstHandle_snoc (outcomes : List (Outcome H)) (o : Outcome H) (c : Nat)
    (name : ExecProfileName) :
    firstHandle (outcomes ++ [o]) c name = (firstHandle outcomes c name).or (o.owns c name) := by
  simp [firstHandle, List.findSome?_append, List.findSome?_singleton]

/- A request made through another cell, or without a profile, has no say. -/
theorem firstHandle_other {outcomes : List (Outcome H)} {o : Outcome H} {c : Nat}
    {name : ExecProfileName} (other : o.execProfile ≠ some c) :
    firstHandle (outcomes ++ [o]) c name = firstHandle outcomes c name := by
  rw [firstHandle_snoc, Outcome.owns, if_neg other, Option.or_none]

/-- What a step can do to the cells and the outcomes. -/
inductive Transition : State S H → State S H → Prop where
  | quiet (s t) (cells : t.cells = s.cells) (outcomes : t.outcomes = s.outcomes) : Transition s t
  | newCell (s t name) (cells : t.cells = s.cells ++ [.newUnresolved name])
      (outcomes : t.outcomes = s.outcomes) : Transition s t
  | noProfile (s t session name) (cells : t.cells = s.cells)
      (outcomes : t.outcomes = s.outcomes ++ [⟨session, name, none, .ok none⟩]) : Transition s t
  | answered (s t session name c) (cell : PerStatementExecProfile H) (found : s.cells[c]? = some cell)
      (cells : t.cells = s.cells.set c { cell with inner := (cell.inner.resolve session).2 })
      (outcomes : t.outcomes =
        s.outcomes ++ [⟨session, name, some c, (cell.inner.resolve session).1.map some⟩]) : Transition s t

theorem proceed_transition {s t : State S H} {i : Nat} {request : Request H}
    (stepped : s.proceed i request = some t) : Transition s t := by
  unfold State.proceed at stepped
  split at stepped
  · contradiction
  · rename_i none _
    cases Option.some.inj stepped
    exact .noProfile _ _ request.session request.name rfl (by simp [State.finish, none])
  · rename_i c _ profile
    simp only [Option.bind_eq_bind, Option.bind_eq_some_iff] at stepped
    obtain ⟨cell, found, stepped⟩ := stepped
    split at stepped
    · rename_i handle resolved
      cases Option.some.inj stepped
      have inner : cell.inner = .resolved handle := by
        cases is : cell.inner with
        | unresolved name => rw [is] at resolved; contradiction
        | resolved h => rw [is] at resolved; exact congrArg _ (Option.some.inj resolved)
      -- a read of a resolved cell is a write that changes nothing
      refine .answered _ _ request.session request.name c cell found ?_ ?_
      · have same : { cell with inner := (cell.inner.resolve request.session).2 } = cell := by
          rw [inner, PerStatementExecProfileInner.resolve, ← inner]
        rw [same, set_of_getElem? found]
        rfl
      · simp [State.finish, profile, inner, PerStatementExecProfileInner.resolve, Except.map]
    · cases Option.some.inj stepped
      exact .quiet _ _ rfl rfl
  · rename_i c _ profile
    simp only [Option.bind_eq_bind, Option.bind_eq_some_iff] at stepped
    obtain ⟨cell, found, stepped⟩ := stepped
    cases Option.some.inj stepped
    exact .answered _ _ request.session request.name c cell found rfl (by simp [State.finish, profile])

theorem step_transition [DecidableEq S] {s t : State S H} {a : Action S H}
    (stepped : step s a = some t) : Transition s t := by
  cases a with
  | setExecutionProfile name =>
    cases Option.some.inj stepped
    unfold State.setExecutionProfile
    split
    · cases ExecProfileName.tryFrom _ with
      | none => exact .quiet _ _ rfl rfl
      | some name => exact .newCell _ _ name rfl rfl
    · exact .quiet _ _ rfl rfl
    · exact .quiet _ _ rfl rfl
  | connect sid _ | close sid =>
    cases Option.some.inj stepped
    exact .quiet _ _ rfl rfl
  | execute sid =>
    simp only [step] at stepped
    split at stepped
    · cases Option.some.inj stepped
      exact .quiet _ _ rfl rfl
    · cases Option.some.inj stepped
      exact .quiet _ _ rfl rfl
  | proceed i =>
    obtain ⟨request, -, stepped⟩ := Option.bind_eq_some_iff.mp stepped
    exact proceed_transition stepped

theorem Explained.mono {names more : List ExecProfileName} {before : List (Outcome H)}
    {o : Outcome H} (explained : Explained names before o) : Explained (names ++ more) before o := by
  unfold Explained at explained ⊢
  split
  · rename_i none
    rw [none] at explained
    exact explained
  · rename_i c profile
    rw [profile] at explained
    obtain ⟨name, found, result⟩ := explained
    exact ⟨name, List.getElem?_append_left (List.getElem?_eq_some_iff.mp found).1 ▸ found, result⟩

theorem explained_snoc {names : List ExecProfileName} {outcomes : List (Outcome H)} {o : Outcome H}
    (all : ∀ i o, outcomes[i]? = some o → Explained names (outcomes.take i) o)
    (last : Explained names outcomes o) :
    ∀ i o', (outcomes ++ [o])[i]? = some o' → Explained names ((outcomes ++ [o]).take i) o' := by
  intro i o' found
  rcases getElem?_snoc found with old | ⟨rfl, rfl⟩
  · have inside := (List.getElem?_eq_some_iff.mp old).1
    rw [List.take_append_of_le_length (Nat.le_of_lt inside)]
    exact all i o' old
  · rw [List.take_left]
    exact last

variable {s t : State S H}

theorem State.Inv.newCell (inv : s.Inv) {name : ExecProfileName}
    (cells : t.cells = s.cells ++ [.newUnresolved name]) (outcomes : t.outcomes = s.outcomes) :
    t.Inv := by
  refine ⟨?_, ?_, ?_⟩
  · intro c cell found
    rw [cells] at found
    rw [outcomes]
    rcases getElem?_snoc found with old | ⟨rfl, rfl⟩
    · exact inv.memoized c cell old
    · -- nobody has used the new cell
      have unused : firstHandle s.outcomes s.cells.length name = none := by
        rw [firstHandle, List.findSome?_eq_none_iff]
        intro o member
        rw [Outcome.owns, if_neg]
        intro uses
        exact Nat.lt_irrefl _ (inv.known o member _ uses)
      rw [PerStatementExecProfile.newUnresolved, unused]
      rfl
  · intro o member c uses
    rw [outcomes] at member
    have bound := inv.known o member c uses
    rw [cells, List.length_append]
    omega
  · intro i o found
    rw [outcomes] at found ⊢
    rw [State.names, cells, List.map_append]
    exact (inv.explained i o found).mono

theorem State.Inv.noProfile (inv : s.Inv) {session : CassConnectedSession H}
    {name : Option ExecProfileName} (cells : t.cells = s.cells)
    (outcomes : t.outcomes = s.outcomes ++ [⟨session, name, none, .ok none⟩]) : t.Inv := by
  refine ⟨?_, ?_, ?_⟩
  · intro c cell found
    rw [cells] at found
    rw [outcomes, firstHandle_other (by simp)]
    exact inv.memoized c cell found
  · intro o member c uses
    rw [outcomes, List.mem_append, List.mem_singleton] at member
    rw [cells]
    rcases member with old | rfl
    · exact inv.known o old c uses
    · contradiction
  · rw [State.names, cells, outcomes]
    exact explained_snoc inv.explained rfl

theorem State.Inv.answered (inv : s.Inv) {session : CassConnectedSession H}
    {name : Option ExecProfileName} {c : Nat} {cell : PerStatementExecProfile H}
    (found : s.cells[c]? = some cell)
    (cells : t.cells = s.cells.set c { cell with inner := (cell.inner.resolve session).2 })
    (outcomes : t.outcomes =
      s.outcomes ++ [⟨session, name, some c, (cell.inner.resolve session).1.map some⟩]) : t.Inv := by
  have inside := (List.getElem?_eq_some_iff.mp found).1
  obtain ⟨result, inner⟩ := resolve_memo session cell.name (firstHandle s.outcomes c cell.name)
  rw [← inv.memoized c cell found] at result inner
  rw [result] at outcomes
  rw [inner] at cells
  have own (r : Except ProfileError (Option H)) :
      (⟨session, name, some c, r⟩ : Outcome H).owns c cell.name = session.execProfileMap cell.name :=
    if_pos rfl
  have named : s.names[c]? = some cell.name := by simp [State.names, found]
  have names : t.names = s.names := by
    rw [State.names, cells, List.map_set]
    exact set_of_getElem? named
  refine ⟨?_, ?_, ?_⟩
  · intro d cell' found'
    rw [outcomes]
    rw [cells, List.getElem?_set] at found'
    split at found'
    · rename_i same
      subst same
      cases Option.some.inj found'
      rw [firstHandle_snoc, own]
    · rename_i differs
      rw [firstHandle_other (fun same => differs (Option.some.inj same))]
      exact inv.memoized d cell' found'
  · intro o member d uses
    rw [outcomes, List.mem_append, List.mem_singleton] at member
    rw [cells, List.length_set]
    rcases member with old | rfl
    · exact inv.known o old d uses
    · cases Option.some.inj uses
      exact inside
  · rw [names, outcomes]
    refine explained_snoc inv.explained ⟨cell.name, named, ?_⟩
    rw [firstHandle_snoc, own]

theorem Transition.inv (transition : Transition s t) (inv : s.Inv) : t.Inv := by
  cases transition with
  | quiet cells outcomes =>
    obtain ⟨memoized, known, explained⟩ := inv
    refine ⟨?_, ?_, ?_⟩
    · rwa [cells, outcomes]
    · rwa [cells, outcomes]
    · rwa [State.names, cells, outcomes]
  | newCell name cells outcomes => exact inv.newCell cells outcomes
  | noProfile session name cells outcomes => exact inv.noProfile cells outcomes
  | answered session name c cell found cells outcomes => exact inv.answered found cells outcomes

theorem Transition.names (transition : Transition s t) : ∃ more, t.names = s.names ++ more := by
  cases transition with
  | quiet cells outcomes => exact ⟨[], by rw [State.names, cells, List.append_nil]; rfl⟩
  | newCell name cells outcomes => exact ⟨[name], by rw [State.names, cells, List.map_append]; rfl⟩
  | noProfile session name cells outcomes =>
    exact ⟨[], by rw [State.names, cells, List.append_nil]; rfl⟩
  | answered session name c cell found cells outcomes =>
    refine ⟨[], ?_⟩
    rw [State.names, cells, List.map_set, List.append_nil]
    exact set_of_getElem? (by simp [found])

/-- A cell belongs to the name that was set. -/
def NamedBy (names : List ExecProfileName) (name : Option ExecProfileName) :
    Option Nat → Prop
  | none => name = none
  | some c => ∃ n, names[c]? = some n ∧ name = some n

theorem NamedBy.mono {names more : List ExecProfileName} {name : Option ExecProfileName}
    {execProfile : Option Nat} (named : NamedBy names name execProfile) :
    NamedBy (names ++ more) name execProfile := by
  cases execProfile with
  | none => exact named
  | some c =>
    obtain ⟨n, found, is⟩ := named
    exact ⟨n, List.getElem?_append_left (List.getElem?_eq_some_iff.mp found).1 ▸ found, is⟩

structure State.Named (s : State S H) : Prop where
  current : NamedBy s.names s.name s.execProfile
  requests : ∀ r ∈ s.requests, NamedBy s.names r.name r.execProfile
  outcomes : ∀ o ∈ s.outcomes, NamedBy s.names o.name o.execProfile

theorem proceed_kept {i : Nat} {request : Request H} (stepped : s.proceed i request = some t) :
    t.name = s.name ∧ t.execProfile = s.execProfile ∧
      (∃ pc, t.requests = s.requests.set i { request with pc := pc }) ∧
      ∀ o ∈ t.outcomes, o ∈ s.outcomes ∨
        o.name = request.name ∧ o.execProfile = request.execProfile := by
  have finished (s : State S H) (result : Except ProfileError (Option H)) :
      ∀ o ∈ (s.finish i request result).outcomes, o ∈ s.outcomes ∨
        o.name = request.name ∧ o.execProfile = request.execProfile := by
    intro o member
    rcases List.mem_append.mp member with old | new
    · exact .inl old
    · cases List.mem_singleton.mp new
      exact .inr ⟨rfl, rfl⟩
  unfold State.proceed at stepped
  split at stepped
  · contradiction
  · cases Option.some.inj stepped
    exact ⟨rfl, rfl, ⟨_, rfl⟩, finished _ _⟩
  · simp only [Option.bind_eq_bind, Option.bind_eq_some_iff] at stepped
    obtain ⟨cell, -, stepped⟩ := stepped
    split at stepped
    · cases Option.some.inj stepped
      exact ⟨rfl, rfl, ⟨_, rfl⟩, finished _ _⟩
    · cases Option.some.inj stepped
      exact ⟨rfl, rfl, ⟨_, rfl⟩, fun o member => .inl member⟩
  · simp only [Option.bind_eq_bind, Option.bind_eq_some_iff] at stepped
    obtain ⟨cell, -, stepped⟩ := stepped
    cases Option.some.inj stepped
    exact ⟨rfl, rfl, ⟨_, rfl⟩, finished _ _⟩

theorem proceed_named {i : Nat} {request : Request H} (named : s.Named)
    (member : request ∈ s.requests) (stepped : s.proceed i request = some t) : t.Named := by
  obtain ⟨more, names⟩ := (proceed_transition stepped).names
  obtain ⟨name, execProfile, ⟨pc, requests⟩, outcomes⟩ := proceed_kept stepped
  have own := named.requests request member
  refine ⟨?_, ?_, ?_⟩
  · rw [names, name, execProfile]
    exact named.current.mono
  · intro r inside
    rw [requests] at inside
    rw [names]
    rcases List.mem_or_eq_of_mem_set inside with old | rfl
    · exact (named.requests r old).mono
    · exact own.mono
  · intro o inside
    rw [names]
    rcases outcomes o inside with old | ⟨name, profile⟩
    · exact (named.outcomes o old).mono
    · rw [name, profile]
      exact own.mono

theorem step_named [DecidableEq S] {a : Action S H} (named : s.Named)
    (stepped : step s a = some t) : t.Named := by
  cases a with
  | setExecutionProfile name =>
    cases Option.some.inj stepped
    have cleared : { s with name := none, execProfile := none }.Named :=
      ⟨rfl, named.requests, named.outcomes⟩
    unfold State.setExecutionProfile
    split
    · cases ExecProfileName.tryFrom _ with
      | none => exact cleared
      | some name =>
        have names : State.names { s with
            cells := s.cells ++ [.newUnresolved name], name := some name,
            execProfile := some s.cells.length } = s.names ++ [name] := by
          rw [State.names, List.map_append]
          rfl
        refine ⟨⟨name, ?_, rfl⟩, ?_, ?_⟩
        · rw [names, show s.cells.length = s.names.length from (List.length_map _).symm,
            List.getElem?_concat_length]
        · intro r member
          exact names ▸ (named.requests r member).mono
        · intro o member
          exact names ▸ (named.outcomes o member).mono
    · exact cleared
    · exact named
  | connect sid _ | close sid =>
    cases Option.some.inj stepped
    exact ⟨named.current, named.requests, named.outcomes⟩
  | execute sid =>
    simp only [step] at stepped
    split at stepped
    · cases Option.some.inj stepped
      exact named
    · cases Option.some.inj stepped
      refine ⟨named.current, fun r member => ?_, named.outcomes⟩
      rcases List.mem_append.mp member with old | new
      · exact named.requests r old
      · cases List.mem_singleton.mp new
        exact named.current
  | proceed i =>
    obtain ⟨request, found, stepped⟩ := Option.bind_eq_some_iff.mp stepped
    exact proceed_named named (List.mem_of_getElem? found) stepped

theorem reachable_inv [DecidableEq S] {actions : List (Action S H)}
    (ran : run step initial actions = some s) : s.Inv ∧ s.Named := by
  have start : (initial : State S H).Inv ∧ (initial : State S H).Named := by
    refine ⟨⟨?_, ?_, ?_⟩, ⟨rfl, ?_, ?_⟩⟩ <;> simp [initial]
  have keeps : ∀ (s : State S H) (a : Action S H) (t : State S H), s.Inv ∧ s.Named →
      step s a = some t → t.Inv ∧ t.Named := by
    intro s a t inv stepped
    exact ⟨(step_transition stepped).inv inv.1, step_named inv.2 stepped⟩
  exact run_invariant keeps start ran

theorem State.Named.proceeds (named : s.Named) {i : Nat} {request : Request H}
    (found : s.requests[i]? = some request) (unfinished : request.pc ≠ .finished) :
    (s.proceed i request).isSome = true := by
  have own := named.requests request (List.mem_of_getElem? found)
  unfold State.proceed
  cases profile : request.execProfile with
  | none => cases pc : request.pc <;> first | exact absurd pc unfinished | rfl
  | some c =>
    rw [profile] at own
    obtain ⟨name, at', -⟩ := own
    rw [State.names, List.getElem?_map] at at'
    obtain ⟨cell, inside, -⟩ := Option.map_eq_some_iff.mp at'
    cases pc : request.pc with
    | finished => exact absurd pc unfinished
    | started =>
      simp only [inside, Option.bind_eq_bind, Option.bind_some]
      split <;> rfl
    | unresolved => simp [inside]

theorem firstHandle_agree {outcomes : List (Outcome H)} {o : Outcome H} {c : Nat}
    {name : ExecProfileName} (profile : o.execProfile = some c)
    (agree : ∀ o' ∈ outcomes, o'.execProfile = some c →
      o'.session.execProfileMap name = o.session.execProfileMap name) :
    firstHandle (outcomes ++ [o]) c name = o.session.execProfileMap name := by
  have own : o.owns c name = o.session.execProfileMap name := if_pos profile
  rw [firstHandle_snoc, own]
  cases first : firstHandle outcomes c name with
  | none => rfl
  | some handle =>
    obtain ⟨o', member, owns⟩ := List.exists_of_findSome?_eq_some first
    unfold Outcome.owns at owns
    split at owns
    · rename_i uses
      rw [← agree o' member uses, owns]
      rfl
    · contradiction

theorem answer_eq_resolve (session : CassConnectedSession H) (name : ExecProfileName) :
    answer name (session.execProfileMap name) = (session.resolveExecProfile name).map some := by
  unfold CassConnectedSession.resolveExecProfile
  cases session.execProfileMap name <;> rfl

/-- A request with a profile name uses the handle of the first session, among those
asked since the name was set, that has a profile of that name. That is its own session
if the others agree with it; if none has one, the request fails. -/
theorem profile_of_first_session [DecidableEq S] {actions : List (Action S H)}
    (ran : run step initial actions = some s) :
    (∀ i request, s.requests[i]? = some request → request.pc ≠ .finished →
      (step s (.proceed i)).isSome = true) ∧
    ∀ i o name, s.outcomes[i]? = some o → o.name = some name →
      ∃ c, o.execProfile = some c ∧
        o.result = answer name (firstHandle (s.outcomes.take (i + 1)) c name) ∧
        ((∀ o' ∈ s.outcomes.take i, o'.execProfile = some c →
            o'.session.execProfileMap name = o.session.execProfileMap name) →
          o.result = (o.session.resolveExecProfile name).map some) := by
  obtain ⟨inv, named⟩ := reachable_inv ran
  refine ⟨?_, ?_⟩
  · intro i request found unfinished
    rw [step, found]
    exact named.proceeds found unfinished
  · intro i o name found is
    have explained := inv.explained i o found
    have own := named.outcomes o (List.mem_of_getElem? found)
    cases profile : o.execProfile with
    | none =>
      rw [profile, NamedBy, is] at own
      contradiction
    | some c =>
      rw [profile, is] at own
      rw [Explained, profile] at explained
      obtain ⟨n, at', same⟩ := own
      obtain ⟨n', at'', result⟩ := explained
      cases Option.some.inj same
      cases Option.some.inj (at'.symm.trans at'')
      refine ⟨c, rfl, ?_, fun agree => ?_⟩
      · rw [List.take_add_one, found]
        exact result
      · rw [result, firstHandle_agree profile agree, answer_eq_resolve]

end Invariant

end Profiles

/- In the runs below handles are numbers and sessions are told apart by a flag. -/

def fast : ExecProfileName := ⟨"fast", by decide⟩

def sessionWith (handle : Option Nat) : CassConnectedSession Nat :=
  ⟨fun name => if name = fast then handle else none⟩

/- Two requests on one session. -/
theorem profile_of_first_session_same :
    let actions : List (Action Bool Nat) :=
      [.connect true (sessionWith (some 1)), .setExecutionProfile (.ok "fast"), .execute true,
        .execute true, .proceed 1, .proceed 0, .proceed 0, .proceed 1]
    ∃ s o, run step initial actions = some s ∧ s.outcomes[1]? = some o ∧
      o.result = (o.session.resolveExecProfile fast).map some := by
  intro actions
  obtain ⟨-, outcomes⟩ := profile_of_first_session (show run step initial actions = some _ from rfl)
  obtain ⟨c, profile, -, own⟩ := outcomes 1 _ fast rfl rfl
  refine ⟨_, _, rfl, rfl, own ?_⟩
  intro o' member uses
  cases List.mem_singleton.mp member
  rfl

/-- The second session has a profile of the name, the third has none; both use the
handle of the first. -/
theorem profile_of_other_session :
    let actions : List (Action (Fin 3) Nat) :=
      [.connect 0 (sessionWith (some 1)), .connect 1 (sessionWith (some 2)),
        .connect 2 (sessionWith none), .setExecutionProfile (.ok "fast"),
        .execute 0, .proceed 0, .proceed 0, .execute 1, .proceed 1, .execute 2, .proceed 2]
    ∃ s second third, run step initial actions = some s ∧
      s.outcomes[1]? = some second ∧ s.outcomes[2]? = some third ∧
      second.name = some fast ∧ second.session.execProfileMap fast = some 2 ∧
      second.result = .ok (some 1) ∧
      third.name = some fast ∧ third.session.execProfileMap fast = none ∧
      third.result = .ok (some 1) := by
  intro actions
  exact ⟨_, _, _, rfl, rfl, rfl, rfl, rfl, rfl, rfl, rfl, rfl⟩

end CppRsDriver.Session
