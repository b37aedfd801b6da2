import CppRsDriver.LoadBalancing.HostFilter
import Mathlib.Data.List.Induction

/-! The setters of the load balancing policy of a cluster or an execution profile, and
the datacenter restriction they leave behind. The policy and the restriction are two
fields; only the DC-aware setter writes both. -/
namespace CppRsDriver.LoadBalancing

/-- The calls that select a policy, with their raw arguments. -/
inductive PolicyCall where
  | roundRobin
  | dcAware (localDc : CassStr) (usedHostsPerRemoteDc allowRemoteDcsForLocalCl : UInt32)
  | rackAware (localDc localRack : CassStr)

def setLoadBalanceRoundRobin (config : LoadBalancingConfig) : LoadBalancingConfig :=
  { config with loadBalancingKind := some .roundRobin }

def setLoadBalanceDcAware (config : LoadBalancingConfig) (localDc : CassStr)
    (usedHostsPerRemoteDc allowRemoteDcsForLocalCl : UInt32) : CassError × LoadBalancingConfig :=
  match localDc with
  | .error _ => (.libBadParams, config)
  | .ok localDc =>
    if localDc = "" then (.libBadParams, config)
    else
      let permitDcFailover := decide (usedHostsPerRemoteDc > 0)
      (.ok,
        { config with
          loadBalancingKind :=
            some (.dcAware localDc permitDcFailover (decide (allowRemoteDcsForLocalCl ≠ 0)))
          filtering :=
            { config.filtering with
              dcRestriction := if permitDcFailover then .none else .local localDc } })

def setLoadBalanceRackAware (config : LoadBalancingConfig) (localDc localRack : CassStr) :
    CassError × LoadBalancingConfig :=
  match localDc, localRack with
  | .ok localDc, .ok localRack =>
    if localDc ≠ "" ∧ localRack ≠ "" then
      (.ok, { config with loadBalancingKind := some (.rackAware localDc localRack) })
    else (.libBadParams, config)
  | _, _ => (.libBadParams, config)

def PolicyCall.apply (config : LoadBalancingConfig) : PolicyCall → CassError × LoadBalancingConfig
  | .roundRobin => (.ok, setLoadBalanceRoundRobin config)
  | .dcAware localDc usedHostsPerRemoteDc allowRemoteDcsForLocalCl =>
    setLoadBalanceDcAware config localDc usedHostsPerRemoteDc allowRemoteDcsForLocalCl
  | .rackAware localDc localRack => setLoadBalanceRackAware config localDc localRack

/-- The white space that Rust's `trim` removes. -/
def isWhitespace (c : Char) : Bool :=
  let n := c.toNat
  decide (0x9 ≤ n ∧ n ≤ 0xd) || decide (0x2000 ≤ n ∧ n ≤ 0x200a) ||
    [0x20, 0x85, 0xa0, 0x1680, 0x2028, 0x2029, 0x202f, 0x205f, 0x3000].contains n

def trim (s : List Char) : List Char :=
  ((s.dropWhile isWhitespace).reverse.dropWhile isWhitespace).reverse

def updateCommaDelimitedList {T : Type} (convert : String → Option T) (list : List T)
    (items : CassStr) : Except CassError (List T) :=
  match items with
  | .error .invalidUtf8 => .error .libBadParams
  | .error .nullPointer => .ok []
  | .ok items =>
    if items = "" then .ok []
    else .ok (list ++
      (items.toList.splitOn ',').filterMap (fun item => convert (String.ofList (trim item))))

section Filtering
variable {T : Type} (convert : String → Option T) (get : FilteringConfig → List T)
  (put : FilteringConfig → List T → FilteringConfig)

/-- The shape shared by the four setters of white- and blacklists. -/
def setFiltering (config : LoadBalancingConfig) (items : CassStr) :
    CassError × LoadBalancingConfig :=
  match updateCommaDelimitedList convert (get config.filtering) items with
  | .ok list => (.ok, { config with filtering := put config.filtering list })
  | .error e => (e, config)

end Filtering

/- `IpAddr::from_str` is whatever parses addresses. -/
variable (fromStr : String → Option IpAddr)

def setWhitelistFiltering : LoadBalancingConfig → CassStr → CassError × LoadBalancingConfig :=
  setFiltering fromStr FilteringConfig.whitelistHosts
    (fun filtering hosts => { filtering with whitelistHosts := hosts })

def setBlacklistFiltering : LoadBalancingConfig → CassStr → CassError × LoadBalancingConfig :=
  setFiltering fromStr FilteringConfig.blacklistHosts
    (fun filtering hosts => { filtering with blacklistHosts := hosts })

def nonemptyDc (dc : String) : Option String := if dc = "" then none else some dc

def setWhitelistDcFiltering : LoadBalancingConfig → CassStr → CassError × LoadBalancingConfig :=
  setFiltering nonemptyDc FilteringConfig.whitelistDc
    (fun filtering dcs => { filtering with whitelistDc := dcs })

def setBlacklistDcFiltering : LoadBalancingConfig → CassStr → CassError × LoadBalancingConfig :=
  setFiltering nonemptyDc FilteringConfig.blacklistDc
    (fun filtering dcs => { filtering with blacklistDc := dcs })

/-- The calls that change what a configuration admits. -/
inductive ConfigCall where
  | policy (call : PolicyCall)
  | whitelist (hosts : CassStr)
  | blacklist (hosts : CassStr)
  | whitelistDc (dcs : CassStr)
  | blacklistDc (dcs : CassStr)

def ConfigCall.apply (config : LoadBalancingConfig) : ConfigCall → CassError × LoadBalancingConfig
  | .policy call => call.apply config
  | .whitelist hosts => setWhitelistFiltering fromStr config hosts
  | .blacklist hosts => setBlacklistFiltering fromStr config hosts
  | .whitelistDc dcs => setWhitelistDcFiltering config dcs
  | .blacklistDc dcs => setBlacklistDcFiltering config dcs

/-- A new configuration after some calls. -/
def configure (calls : List ConfigCall) : LoadBalancingConfig :=
  calls.foldl (fun config call => (call.apply fromStr config).2) {}

/-- The calls that select a policy and succeed; success does not depend on the state. -/
def successful (calls : List ConfigCall) : List PolicyCall :=
  calls.filterMap (fun call =>
    match call with
    | .policy call => if (call.apply {}).1 = .ok then some call else none
    | _ => none)

def PolicyCall.isDcAware : PolicyCall → Bool
  | .dcAware .. => true
  | _ => false

def lastSuccessful (calls : List ConfigCall) : Option PolicyCall := (successful calls).getLast?

def lastDcAware (calls : List ConfigCall) : Option PolicyCall :=
  ((successful calls).filter PolicyCall.isDcAware).getLast?

/-- The restriction that belongs to the policy a call selects. -/
def PolicyCall.restriction : PolicyCall → DcRestriction
  | .dcAware (.ok localDc) usedHostsPerRemoteDc _ =>
    if usedHostsPerRemoteDc = 0 then .local localDc else .none
  | _ => .none

/- A new configuration runs on the round-robin policy. -/
def restrictionOf (last : Option PolicyCall) : DcRestriction :=
  last.elim .none PolicyCall.restriction

def PolicyCall.kind : PolicyCall → Option LoadBalancingKind
  | .roundRobin => some .roundRobin
  | .dcAware (.ok localDc) usedHostsPerRemoteDc allowRemoteDcsForLocalCl =>
    some (.dcAware localDc (decide (usedHostsPerRemoteDc > 0))
      (decide (allowRemoteDcsForLocalCl ≠ 0)))
  | .rackAware (.ok localDc) (.ok localRack) => some (.rackAware localDc localRack)
  | _ => none

/-- The configuration that a last call and the white- and blacklists stand for. -/
def selectedConfig (last : Option PolicyCall) (lists : FilteringConfig) : LoadBalancingConfig where
  loadBalancingKind := last.bind PolicyCall.kind
  filtering := { lists with dcRestriction := restrictionOf last }

/-- No policy other than a DC-aware one was selected after a DC-aware one that
confines itself to its local datacenter. -/
def RestrictionCurrent (calls : List ConfigCall) : Prop :=
  lastSuccessful calls = lastDcAware calls ∨
    ∀ localDc usedHostsPerRemoteDc allowRemoteDcsForLocalCl,
      lastDcAware calls = some (.dcAware localDc usedHostsPerRemoteDc allowRemoteDcsForLocalCl) →
        usedHostsPerRemoteDc ≠ 0

theorem PolicyCall.apply_cases (call : PolicyCall) (config : LoadBalancingConfig) :
    ((call.apply {}).1 = .ok ∧ (call.apply config).2 =
      { config with
        loadBalancingKind := call.kind
        filtering :=
          { config.filtering with
            dcRestriction :=
              if call.isDcAware then call.restriction else config.filtering.dcRestriction } }) ∨
    ((call.apply {}).1 ≠ .ok ∧ (call.apply config).2 = config) := by
  cases call with
  | roundRobin => exact .inl ⟨rfl, rfl⟩
  | dcAware localDc usedHostsPerRemoteDc allowRemoteDcsForLocalCl =>
    cases localDc with
    | error e => exact .inr ⟨nofun, rfl⟩
    | ok localDc =>
      by_cases empty : localDc = ""
      · refine .inr ⟨?_, ?_⟩ <;> simp [PolicyCall.apply, setLoadBalanceDcAware, empty]
      · refine .inl ⟨?_, ?_⟩
        · simp [PolicyCall.apply, setLoadBalanceDcAware, empty]
        · by_cases none : usedHostsPerRemoteDc = 0
          · simp [PolicyCall.apply, setLoadBalanceDcAware, empty, PolicyCall.kind,
              PolicyCall.isDcAware, PolicyCall.restriction, none]
          · have positive : usedHostsPerRemoteDc > 0 := UInt32.pos_iff_ne_zero.mpr none
            simp [PolicyCall.apply, setLoadBalanceDcAware, empty, PolicyCall.kind,
              PolicyCall.isDcAware, PolicyCall.restriction, none, positive]
  | rackAware localDc localRack =>
    cases localDc with
    | error e => exact .inr ⟨nofun, rfl⟩
    | ok localDc =>
      cases localRack with
      | error e => exact .inr ⟨nofun, rfl⟩
      | ok localRack =>
        by_cases named : localDc ≠ "" ∧ localRack ≠ ""
        · refine .inl ⟨?_, ?_⟩ <;>
            simp [PolicyCall.apply, setLoadBalanceRackAware, named, PolicyCall.kind,
              PolicyCall.isDcAware]
        · refine .inr ⟨?_, ?_⟩ <;> simp [PolicyCall.apply, setLoadBalanceRackAware, named]

/- The setters of the lists touch neither the policy nor the restriction. -/
theorem setFiltering_eq {T : Type} {convert : String → Option T} {get : FilteringConfig → List T}
    {put : FilteringConfig → List T → FilteringConfig}
    (keeps : ∀ filtering list, (put filtering list).dcRestriction = filtering.dcRestriction)
    (config : LoadBalancingConfig) (items : CassStr) :
    ∃ filtering, filtering.dcRestriction = config.filtering.dcRestriction ∧
      (setFiltering convert get put config items).2 = { config with filtering := filtering } := by
  unfold setFiltering
  split
  · exact ⟨_, keeps _ _, rfl⟩
  · exact ⟨_, rfl, rfl⟩

/-- What the calls made so far say about a configuration. -/
def Describes (calls : List ConfigCall) (config : LoadBalancingConfig) : Prop :=
  config =
    { loadBalancingKind := (lastSuccessful calls).bind PolicyCall.kind
      filtering :=
        { config.filtering with dcRestriction := restrictionOf (lastDcAware calls) } }

theorem Describes.filtered {calls : List ConfigCall} {call : ConfigCall}
    {config config' : LoadBalancingConfig} (describes : Describes calls config)
    (other : successful [call] = [])
    (effect : ∃ filtering, filtering.dcRestriction = config.filtering.dcRestriction ∧
      config' = { config with filtering := filtering }) :
    Describes (calls ++ [call]) config' := by
  obtain ⟨filtering, same, rfl⟩ := effect
  have unchanged : successful (calls ++ [call]) = successful calls := by
    rw [successful, List.filterMap_append]
    change successful calls ++ successful [call] = _
    rw [other, List.append_nil]
  rw [Describes, lastSuccessful, lastDcAware, unchanged]
  rw [Describes, lastSuccessful, lastDcAware] at describes
  rw [describes] at same ⊢
  simp only at same ⊢
  rw [← same]

theorem Describes.selected {calls : List ConfigCall} {call : PolicyCall}
    {config : LoadBalancingConfig} (describes : Describes calls config) :
    Describes (calls ++ [.policy call]) (call.apply config).2 := by
  rcases call.apply_cases config with ⟨ok, effect⟩ | ⟨failed, effect⟩
  · have added : successful (calls ++ [.policy call]) = successful calls ++ [call] := by
      simp [successful, ok]
    rw [effect, Describes, lastSuccessful, lastDcAware, added]
    rw [Describes] at describes
    rw [describes]
    cases dcAware : call.isDcAware with
    | true => simp [List.filter_append, dcAware, restrictionOf]
    | false => simp [List.filter_append, dcAware, lastDcAware]
  · refine describes.filtered ?_ ⟨_, rfl, effect⟩
    simp [successful, failed]

theorem Describes.applied {calls : List ConfigCall} {config : LoadBalancingConfig}
    (describes : Describes calls config) (call : ConfigCall) :
    Describes (calls ++ [call]) (call.apply fromStr config).2 := by
  cases call with
  | policy call => exact describes.selected
  | whitelist | blacklist | whitelistDc | blacklistDc =>
    apply describes.filtered rfl
    apply setFiltering_eq
    intro filtering list
    rfl

/-- After any calls the policy is that of the last successful one, and the
restriction that of the last successful DC-aware one. -/
theorem configure_describes (calls : List ConfigCall) : Describes calls (configure fromStr calls) := by
  induction calls using List.reverseRecOn with
  | nil => rfl
  | append_singleton calls call ih =>
    rw [configure, List.foldl_append]
    exact ih.applied fromStr call

theorem configure_restriction (calls : List ConfigCall) :
    (configure fromStr calls).filtering.dcRestriction = restrictionOf (lastDcAware calls) := by
  have describes := configure_describes fromStr calls
  rw [Describes] at describes
  rw [describes]

theorem restriction_of_not_dcAware {call : PolicyCall} (other : call.isDcAware = false) :
    call.restriction = .none := by
  cases call <;> first | rfl | contradiction

theorem getLast?_filter {α : Type} {p : α → Bool} {list : List α} {last : α}
    (is : list.getLast? = some last) (passes : p last = true) :
    (list.filter p).getLast? = some last := by
  obtain ⟨front, rfl⟩ := List.getLast?_eq_some_iff.mp is
  simp [List.filter_append, passes]

theorem lastDcAware_some {calls : List ConfigCall} {call : PolicyCall}
    (is : lastDcAware calls = some call) : call.isDcAware = true ∧ (call.apply {}).1 = .ok := by
  obtain ⟨member, dcAware⟩ := List.mem_filter.mp (List.mem_of_getLast? is)
  refine ⟨dcAware, ?_⟩
  obtain ⟨entry, -, found⟩ := List.mem_filterMap.mp member
  split at found
  · split at found
    · cases Option.some.inj found
      assumption
    · contradiction
  · contradiction

/- A successful DC-aware call has a name for its datacenter. -/
theorem restriction_eq_none_iff {call : PolicyCall} (dcAware : call.isDcAware = true)
    (ok : (call.apply {}).1 = .ok) :
    call.restriction = .none ↔ ∀ localDc usedHostsPerRemoteDc allowRemoteDcsForLocalCl,
      call = .dcAware localDc usedHostsPerRemoteDc allowRemoteDcsForLocalCl →
        usedHostsPerRemoteDc ≠ 0 := by
  cases call with
  | roundRobin => contradiction
  | rackAware => contradiction
  | dcAware localDc usedHostsPerRemoteDc allowRemoteDcsForLocalCl =>
    cases localDc with
    | error e => contradiction
    | ok localDc =>
      constructor
      · rintro unrestricted _ _ _ same rfl
        cases same
        simp [PolicyCall.restriction] at unrestricted
      · intro remote
        have nonzero := remote _ _ _ rfl
        simp [PolicyCall.restriction, nonzero]

theorem restriction_eq_iff (calls : List ConfigCall) :
    restrictionOf (lastDcAware calls) = restrictionOf (lastSuccessful calls) ↔
      RestrictionCurrent calls := by
  unfold RestrictionCurrent
  cases last : lastSuccessful calls with
  | none =>
    have empty : successful calls = [] := List.getLast?_eq_none_iff.mp last
    simp [lastDcAware, empty]
  | some call =>
    cases kind : call.isDcAware with
    | true =>
      have same : lastDcAware calls = some call := getLast?_filter last kind
      simp [same]
    | false =>
      have differs : some call ≠ lastDcAware calls := by
        intro same
        rw [(lastDcAware_some same.symm).1] at kind
        contradiction
      rw [or_iff_right differs, show restrictionOf (some call) = .none from
        restriction_of_not_dcAware kind]
      cases dcAware : lastDcAware calls with
      | none => simp [restrictionOf]
      | some call' =>
        obtain ⟨isDcAware, ok⟩ := lastDcAware_some dcAware
        simp only [Option.some.injEq]
        exact restriction_eq_none_iff isDcAware ok

theorem configure_selected {calls : List ConfigCall} (current : RestrictionCurrent calls) :
    configure fromStr calls =
      selectedConfig (lastSuccessful calls) (configure fromStr calls).filtering := by
  have describes := configure_describes fromStr calls
  rw [Describes, (restriction_eq_iff calls).mpr current] at describes
  exact describes

/-- A cluster and its execution profiles, each configured by calls of its own. -/
def configureCluster (calls : List ConfigCall) (profiles : List (String × List ConfigCall)) :
    ClusterBalancing where
  loadBalancingConfig := configure fromStr calls
  executionProfileMap := profiles.map (fun entry => (entry.1, configure fromStr entry.2))

/-- The same, with only the last successful calls and the lists to go by. -/
def selectedCluster (calls : List ConfigCall) (profiles : List (String × List ConfigCall)) :
    ClusterBalancing where
  loadBalancingConfig := selectedConfig (lastSuccessful calls) (configure fromStr calls).filtering
  executionProfileMap := profiles.map (fun entry =>
    (entry.1, selectedConfig (lastSuccessful entry.2) (configure fromStr entry.2).filtering))

theorem configureCluster_selected {calls : List ConfigCall}
    {profiles : List (String × List ConfigCall)} (current : RestrictionCurrent calls)
    (profilesCurrent : ∀ entry ∈ profiles, RestrictionCurrent entry.2) :
    configureCluster fromStr calls profiles = selectedCluster fromStr calls profiles := by
  rw [configureCluster, selectedCluster, ← configure_selected fromStr current]
  congr 1
  apply List.map_congr_left
  intro entry member
  rw [← configure_selected fromStr (profilesCurrent entry member)]

/-- The restriction is that of the last successful call exactly for call sequences that
keep it current; then the policies and the host filter follow the last calls. -/
theorem restriction_follows_policy_iff (calls : List ConfigCall)
    (profiles : List (String × List ConfigCall)) :
    ((configure fromStr calls).filtering.dcRestriction = restrictionOf (lastSuccessful calls) ↔
      RestrictionCurrent calls) ∧
    (RestrictionCurrent calls → (∀ entry ∈ profiles, RestrictionCurrent entry.2) →
      (configureCluster fromStr calls profiles).policies =
        (selectedCluster fromStr calls profiles).policies ∧
      ∀ peer, (configureCluster fromStr calls profiles).buildHostFilter.accept peer =
        (selectedCluster fromStr calls profiles).buildHostFilter.accept peer) := by
  refine ⟨?_, fun current profilesCurrent => ?_⟩
  · rw [configure_restriction]
    exact restriction_eq_iff calls
  · rw [configureCluster_selected fromStr current profilesCurrent]
    exact ⟨rfl, fun peer => rfl⟩

/- A rejected call in between changes nothing. -/
theorem restriction_follows_policy_iff_rejected :
    let calls : List ConfigCall :=
      [.policy .roundRobin, .policy (.dcAware (.ok "dc1") 0 1), .policy (.rackAware (.ok "dc2") (.ok ""))]
    (configure (fun _ => none) calls).filtering.dcRestriction = .local "dc1" := by
  intro calls
  have current : RestrictionCurrent calls := .inl rfl
  exact (restriction_follows_policy_iff (fun _ => none) calls []).1.mpr current

/-- A round-robin policy that is still confined to the datacenter of an earlier one. -/
theorem restriction_left_behind :
    let calls : List ConfigCall := [.policy (.dcAware (.ok "dc1") 0 0), .policy .roundRobin]
    ¬ ((configure (fun _ => none) calls).filtering.dcRestriction =
        restrictionOf (lastSuccessful calls)) ∧
      (configure (fun _ => none) calls).build.filtering.isHostAllowed (.v4 1#32) (some "dc2") =
        false := by
  decide

end CppRsDriver.LoadBalancing
