import CppRsDriver.Future.Answers
import CppRsDriver.Statement.Sharing

/-! Executing a statement page by page. The statement remembers where the next page begins,
so a client that gives up on an error and comes back later goes on from there. -/
namespace CppRsDriver.Session.Paging

open CppRsDriver.Errors CppRsDriver.Result CppRsDriver.Statement CppRsDriver.Future Iteration

section Execute
variable {ε P : Type}

/-- The session of the Rust driver, as far as statements are executed on it. -/
structure RustSession (ε : Type) where
  querySinglePage : BoundSimpleStatement → QueryOptions → PagingState →
    Except ExecutionError (QueryResult ε × PagingStateResponse)
  queryUnpaged : BoundSimpleStatement → QueryOptions → Except ExecutionError (QueryResult ε)
  executeSinglePage : PreparedContents → List Statement.Slot → PagingState →
    Except ExecutionError (QueryResult ε × PagingStateResponse)
  executeUnpaged : PreparedContents → List Statement.Slot → Except ExecutionError (QueryResult ε)

/-- What a request needs besides the statement: the decoder of results, the metadata a
prepared statement keeps for them, and the profile found for a name. -/
structure Context (ε : Type) where
  decoder : Decoder ε
  tryUpdateAndGetResultMetadata : PreparedContents → List ColumnSpec → Option CassResultMetadata
  getOrResolveProfileHandle :
    Option ExecProfileName → Except CassFutureError (Option ExecutionProfileHandle)

def setExecutionProfileHandle (handle : Option ExecutionProfileHandle) :
    BoundOf PreparedContents → BoundOf PreparedContents
  | .simple q options => .simple q { options with config.executionProfileHandle := handle }
  | .prepared p values =>
    .prepared { p with options.config.executionProfileHandle := handle } values

def queryRes (session : RustSession ε) (pagingEnabled : Bool) (pagingState : PagingState) :
    BoundOf PreparedContents → Except ExecutionError (QueryResult ε × PagingStateResponse)
  | .simple q options =>
    if pagingEnabled then session.querySinglePage q options pagingState
    else (session.queryUnpaged q options).map (fun result => (result, .noMorePages))
  | .prepared p values =>
    if pagingEnabled then session.executeSinglePage p values pagingState
    else (session.executeUnpaged p values).map (fun result => (result, .noMorePages))

def getOrMakeResultMetadata (ctx : Context ε) :
    BoundOf PreparedContents → Option (List ColumnSpec → Option CassResultMetadata)
  | .simple _ _ => none
  | .prepared p _ => some (ctx.tryUpdateAndGetResultMetadata p)

/-- The future of `cass_session_execute` on a connected session. -/
def execute (ctx : Context ε) (session : RustSession ε) (s : CassStatement PreparedContents) :
    CassFutureResult ε P :=
  match ctx.getOrResolveProfileHandle s.execProfile with
  | .error e => .error e
  | .ok handle =>
    let statement := setExecutionProfileHandle handle s.statement
    match queryRes session s.pagingEnabled s.pagingState statement with
    | .ok (result, pagingStateResponse) =>
      match fromResultPayload ctx.decoder result pagingStateResponse
          (getOrMakeResultMetadata ctx statement) with
      | .ok result => .ok (.queryResult result)
      | .error e => .ok (.queryError e)
    | .error err => .ok (.queryError (.execution err))

def finished : PagingStateResponse → Bool
  | .hasMorePages _ => false
  | .noMorePages => true

def cassResultHasMorePages (result : CassResult ε) : Bool := !finished result.pagingStateResponse

/-- The bytes written, or a null pointer. -/
def cassResultPagingStateToken (result : CassResult ε) :
    Except CassError (Option (List UInt8)) :=
  if cassResultHasMorePages result = false then .error .libNoPagingState
  else
    match result.pagingStateResponse with
    | .hasMorePages state => .ok state
    | .noMorePages => .ok none

def cassStatementSetPagingState (s : CassStatement PreparedContents) (result : CassResult ε) :
    CassStatement PreparedContents :=
  match result.pagingStateResponse with
  | .hasMorePages state => (StatementSetter.pagingState state).own s
  | .noMorePages => (StatementSetter.pagingState none).own s

def cassStatementSetPagingStateToken (s : CassStatement PreparedContents)
    (pagingState : Option (List UInt8)) : CassStatement PreparedContents :=
  (StatementSetter.pagingStateToken pagingState).own s

end Execute

section Client
variable {ε : Type}

/-- How a client carries the paging state over: with the result, or as a token. -/
inductive Route where
  | result
  | token
  deriving DecidableEq, Repr

def Route.advance (route : Route) (s : CassStatement PreparedContents) (result : CassResult ε) :
    CassStatement PreparedContents :=
  match route with
  | .result => cassStatementSetPagingState s result
  | .token =>
    match cassResultPagingStateToken result with
    | .ok pagingState => cassStatementSetPagingStateToken s pagingState
    | .error _ => s

structure Client (ε : Type) where
  statement : CassStatement PreparedContents
  pages : List (CassResult ε)
  done : Bool

/-- One turn of the loop of `select_from_paging`. On an error the loop is left; the client
may enter it again with the same statement. -/
def Client.turn (ctx : Context ε) (route : Route) (c : Client ε) (session : RustSession ε) :
    Client ε :=
  let future : CassFutureResult ε PreparedContents := execute ctx session c.statement
  if cassFutureErrorCode future ≠ .ok then c
  else
    match cassFutureGetResult future with
    | none => c
    | some result =>
      if cassResultHasMorePages result then
        { c with pages := c.pages ++ [result], statement := route.advance c.statement result }
      else { c with pages := c.pages ++ [result], done := true }

/-- Every request fails with this error. -/
def RustSession.failing (e : ExecutionError) : RustSession ε where
  querySinglePage _ _ _ := .error e
  queryUnpaged _ _ := .error e
  executeSinglePage _ _ _ := .error e
  executeUnpaged _ _ := .error e

/-- Turns until there are no more pages, some of which fail. -/
def Client.fetch (ctx : Context ε) (route : Route) (session : RustSession ε) (c : Client ε) :
    List (Option ExecutionError) → Client ε
  | [] => c
  | attempt :: rest =>
    if c.done then c
    else (c.turn ctx route (attempt.elim session .failing)).fetch ctx route session rest

end Client

section Pages
variable {ε : Type}

abbrev Page (ε : Type) := QueryResult ε × PagingStateResponse

/-- The pages behind a paging state, each of which tells where the next one begins. -/
inductive Pages (answer : PagingState → Except ExecutionError (Page ε)) :
    PagingState → List (Page ε) → Prop where
  | last (state result) (is : answer state = .ok (result, .noMorePages)) :
      Pages answer state [(result, .noMorePages)]
  | more (state next result rest) (is : answer state = .ok (result, .hasMorePages next))
      (others : Pages answer next rest) : Pages answer state ((result, .hasMorePages next) :: rest)

theorem Pages.nonempty {answer : PagingState → Except ExecutionError (Page ε)} {state : PagingState}
    {pages : List (Page ε)} (behind : Pages answer state pages) : 0 < pages.length := by
  cases behind <;> exact Nat.succ_pos _

/-- What the server answers to a statement with this paging state. -/
def answer (session : RustSession ε) (s : CassStatement PreparedContents)
    (handle : Option ExecutionProfileHandle) (state : PagingState) :
    Except ExecutionError (Page ε) :=
  queryRes session s.pagingEnabled state (setExecutionProfileHandle handle s.statement)

/-- The result made of a page. -/
def payload (ctx : Context ε) (s : CassStatement PreparedContents)
    (handle : Option ExecutionProfileHandle) (page : Page ε) :
    Except CassErrorResult (CassResult ε) :=
  fromResultPayload ctx.decoder page.1 page.2
    (getOrMakeResultMetadata ctx (setExecutionProfileHandle handle s.statement))

theorem fromResultPayload_paging {d : Decoder ε} {q : QueryResult ε} {response : PagingStateResponse}
    {metadata : Option (List ColumnSpec → Option CassResultMetadata)} {result : CassResult ε}
    (is : fromResultPayload d q response metadata = .ok result) :
    result.pagingStateResponse = response := by
  unfold fromResultPayload at is
  split at is
  · obtain ⟨firstRow, -, rfl⟩ := Lib.map_eq_ok.mp is
    rfl
  · cases is; rfl
  · cases is

/-- An empty token stands for the start and is lost on its way through the client. -/
def Route.carries (route : Route) (page : Page ε) : Prop :=
  route = .token → page.2 ≠ .hasMorePages (some [])

theorem Route.advance_more {route : Route} {s : CassStatement PreparedContents}
    {result : CassResult ε} {next : PagingState} (is : result.pagingStateResponse = .hasMorePages next)
    (carried : route = .token → next ≠ some []) :
    route.advance s result = { s with pagingState := next } := by
  cases route with
  | result => simp only [Route.advance, cassStatementSetPagingState, is, StatementSetter.own]
  | token =>
    have kept : (if next.getD [] = [] then none else next) = next := by
      cases next with
      | none => rfl
      | some bytes =>
        have nonempty : bytes ≠ [] := fun eq => carried rfl (congrArg some eq)
        exact if_neg nonempty
    simp only [Route.advance, cassResultPagingStateToken, cassResultHasMorePages, is, finished,
      Bool.not_false, Bool.true_eq_false, if_false, cassStatementSetPagingStateToken,
      StatementSetter.own, kept]

variable {ctx : Context ε} {session : RustSession ε} {base : CassStatement PreparedContents}
  {handle : Option ExecutionProfileHandle} {route : Route}

theorem execute_served {P : Type} {state : PagingState} {page : Page ε} {result : CassResult ε}
    (resolved : ctx.getOrResolveProfileHandle base.execProfile = .ok handle)
    (is : answer session base handle state = .ok page)
    (readable : payload ctx base handle page = .ok result) :
    (execute ctx session { base with pagingState := state } : CassFutureResult ε P) =
      .ok (.queryResult result) := by
  unfold answer at is
  unfold payload at readable
  simp only [execute, resolved, is, readable]

theorem execute_failing {P : Type} {s : CassStatement PreparedContents}
    (resolved : ctx.getOrResolveProfileHandle s.execProfile = .ok handle) (e : ExecutionError) :
    (execute ctx (.failing e) s : CassFutureResult ε P) = .ok (.queryError (.execution e)) := by
  have fails : ∀ enabled state bound, queryRes (.failing e : RustSession ε) enabled state bound =
      .error e := by
    intro enabled state bound
    cases bound <;> cases enabled <;> rfl
  simp only [execute, resolved, fails]

theorem turn_failing {c : Client ε}
    (resolved : ctx.getOrResolveProfileHandle c.statement.execProfile = .ok handle)
    (e : ExecutionError) : c.turn ctx route (.failing e) = c := by
  have failed : (CassErrorResult.execution e).toCassError ≠ .ok := CassErrorResult.toCassError_ne_ok _
  simp only [Client.turn, execute_failing resolved e]
  exact if_pos failed

theorem turn_last {pages : List (CassResult ε)} {state : PagingState} {q : QueryResult ε}
    {result : CassResult ε} (resolved : ctx.getOrResolveProfileHandle base.execProfile = .ok handle)
    (is : answer session base handle state = .ok (q, .noMorePages))
    (readable : payload ctx base handle (q, .noMorePages) = .ok result) :
    Client.turn ctx route ⟨{ base with pagingState := state }, pages, false⟩ session =
      ⟨{ base with pagingState := state }, pages ++ [result], true⟩ := by
  have paging : result.pagingStateResponse = .noMorePages := fromResultPayload_paging readable
  simp only [Client.turn, execute_served resolved is readable, cassFutureErrorCode,
    cassFutureGetResult, cassResultHasMorePages, paging, finished]
  rfl

theorem turn_more {pages : List (CassResult ε)} {state next : PagingState} {q : QueryResult ε}
    {result : CassResult ε} (resolved : ctx.getOrResolveProfileHandle base.execProfile = .ok handle)
    (is : answer session base handle state = .ok (q, .hasMorePages next))
    (readable : payload ctx base handle (q, .hasMorePages next) = .ok result)
    (carried : route = .token → next ≠ some []) :
    Client.turn ctx route ⟨{ base with pagingState := state }, pages, false⟩ session =
      ⟨{ base with pagingState := next }, pages ++ [result], false⟩ := by
  have paging : result.pagingStateResponse = .hasMorePages next := fromResultPayload_paging readable
  simp only [Client.turn, execute_served resolved is readable, cassFutureErrorCode,
    cassFutureGetResult, cassResultHasMorePages, paging, finished, Route.advance_more paging carried]
  rfl

theorem fetch_done (attempts : List (Option ExecutionError)) (s : CassStatement PreparedContents)
    (pages : List (CassResult ε)) :
    Client.fetch ctx route session ⟨s, pages, true⟩ attempts = ⟨s, pages, true⟩ := by
  cases attempts <;> rfl

/- A turn that fails changes nothing; one that does not takes the first of the pages ahead. -/
theorem fetch_pages (resolved : ctx.getOrResolveProfileHandle base.execProfile = .ok handle)
    {state : PagingState} {pages : List (Page ε)}
    (behind : Pages (answer session base handle) state pages)
    (readable : ∀ page ∈ pages, ∃ result, payload ctx base handle page = .ok result)
    (carried : ∀ page ∈ pages, route.carries page) (attempts : List (Option ExecutionError))
    (got : List (CassResult ε)) :
    ∃ results last,
      Client.fetch ctx route session ⟨{ base with pagingState := state }, got, false⟩ attempts =
        ⟨{ base with pagingState := last }, got ++ results,
          decide (pages.length ≤ attempts.countP Option.isNone)⟩ ∧
      List.Forall₂ (fun page result => payload ctx base handle page = .ok result)
        (pages.take (attempts.countP Option.isNone)) results ∧
      (attempts.countP Option.isNone < pages.length →
        Pages (answer session base handle) last (pages.drop (attempts.countP Option.isNone))) := by
  induction attempts generalizing state pages got with
  | nil =>
    have unfinished : decide (pages.length ≤ 0) = false :=
      decide_eq_false (Nat.not_le.mpr behind.nonempty)
    refine ⟨[], state, ?_, ?_, fun _ => behind⟩
    · rw [List.append_nil, List.countP_nil, unfinished]
      rfl
    · exact .nil
  | cons attempt rest ih =>
    cases attempt with
    | some e =>
      have fails : Client.turn ctx route ⟨{ base with pagingState := state }, got, false⟩ (.failing e) =
          ⟨{ base with pagingState := state }, got, false⟩ := turn_failing resolved e
      simp only [Client.fetch, Option.elim, fails, Bool.false_eq_true, if_false,
        List.countP_cons_of_neg (p := Option.isNone) (a := some e) (by simp)]
      exact ih behind readable carried got
    | none =>
      simp only [Client.fetch, Option.elim, Bool.false_eq_true, if_false,
        List.countP_cons_of_pos (p := Option.isNone) (a := (none : Option ExecutionError)) rfl]
      cases behind with
      | last _ result is =>
        obtain ⟨r, made⟩ := readable _ (List.mem_singleton_self _)
        rw [turn_last resolved is made, fetch_done]
        refine ⟨[r], state, ?_, ?_, ?_⟩
        · simp
        · simpa using made
        · simp
      | more _ next result rest' is others =>
        obtain ⟨⟨r, made⟩, readable⟩ := List.forall_mem_cons.mp readable
        obtain ⟨carries, carried⟩ := List.forall_mem_cons.mp carried
        have kept : route = .token → next ≠ some [] := fun token eq =>
          carries token (congrArg PagingStateResponse.hasMorePages eq)
        obtain ⟨results, last, fetched, pages, ahead⟩ :=
          ih others readable carried (got ++ [r])
        rw [turn_more resolved is made kept, fetched]
        refine ⟨r :: results, last, ?_, ?_, ?_⟩
        · simp
        · exact .cons made pages
        · simpa using ahead

end Pages

section Main
variable {ε : Type}

/-- A client that pages through the answer to a statement gets every page once and in order,
however often its requests fail in between, with or without paging. Until it is done the
statement stands at the first page that it has not got. -/
theorem pages_fetched_once (ctx : Context ε) (session : RustSession ε)
    (s : CassStatement PreparedContents) (handle : Option ExecutionProfileHandle)
    (resolved : ctx.getOrResolveProfileHandle s.execProfile = .ok handle) (pages : List (Page ε))
    (behind : Pages (answer session s handle) s.pagingState pages)
    (readable : ∀ page ∈ pages, ∃ result, payload ctx s handle page = .ok result) (route : Route)
    (carried : ∀ page ∈ pages, route.carries page) (attempts : List (Option ExecutionError)) :
    let c := Client.fetch ctx route session ⟨s, [], false⟩ attempts
    let served := attempts.countP Option.isNone
    List.Forall₂ (fun page result => payload ctx s handle page = .ok result)
      (pages.take served) c.pages ∧
    (c.done = true ↔ pages.length ≤ served) ∧
    (c.done = false → Pages (answer session c.statement handle) c.statement.pagingState
      (pages.drop served)) := by
  obtain ⟨results, last, fetched, got, ahead⟩ :=
    fetch_pages resolved behind readable carried attempts []
  simp only [fetched, List.nil_append, decide_eq_true_eq, decide_eq_false_iff_not, Nat.not_le]
  exact ⟨got, trivial, ahead⟩

/- Two pages of one row each; the second request fails the first time. -/
def twoPages : RustSession Unit where
  querySinglePage _ _ state :=
    match state with
    | none => .ok (⟨none, .rows [] [.ok []]⟩, .hasMorePages (some [7]))
    | some _ => .ok (⟨none, .rows [] [.ok []]⟩, .noMorePages)
  queryUnpaged _ _ := .ok ⟨none, .rows [] [.ok [], .ok []]⟩
  executeSinglePage _ _ _ := .error .other
  executeUnpaged _ _ := .error .other

def twoPagesContext : Context Unit where
  decoder := frameDecoder
  tryUpdateAndGetResultMetadata _ _ := none
  getOrResolveProfileHandle _ := .ok none

def selectAll : CassStatement PreparedContents :=
  (StatementSetter.pagingSize 1).own (.new (.simple ⟨"SELECT * FROM paging", [], []⟩ {}))

theorem pages_fetched_once_retried :
    let c := Client.fetch twoPagesContext .token twoPages ⟨selectAll, [], false⟩
      [none, some .requestTimeout, none]
    c.pages.length = 2 ∧ c.done = true := by
  let pages : List (Page Unit) :=
    [(⟨none, .rows [] [.ok []]⟩, .hasMorePages (some [7])), (⟨none, .rows [] [.ok []]⟩, .noMorePages)]
  have behind : Pages (answer twoPages selectAll none) selectAll.pagingState pages :=
    .more none (some [7]) _ _ rfl (.last (some [7]) _ rfl)
  have readable : ∀ page ∈ pages, ∃ result, payload twoPagesContext selectAll none page = .ok result :=
    List.forall_mem_cons.mpr ⟨⟨_, rfl⟩, List.forall_mem_singleton.mpr ⟨_, rfl⟩⟩
  have carried : ∀ page ∈ pages, Route.token.carries page := by
    refine List.forall_mem_cons.mpr ⟨?_, List.forall_mem_singleton.mpr ?_⟩
    · exact fun _ eq => by cases eq
    · exact fun _ eq => by cases eq
  have fetched := pages_fetched_once twoPagesContext twoPages selectAll none rfl pages behind readable
    .token carried [none, some .requestTimeout, none]
  exact ⟨fetched.1.length_eq.symm, fetched.2.1.mpr (by decide)⟩

end Main

end CppRsDriver.Session.Paging
