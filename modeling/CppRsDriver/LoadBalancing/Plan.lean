import CppRsDriver.LoadBalancing.Setters
import CppRsDriver.Statement.Options

/-! The plan of the filtering policy. The child policy's pick and its fallback are filtered
in two places, by two checks that read a missing datacenter in two ways: as an empty name,
and as no name at all. -/
namespace CppRsDriver.LoadBalancing

open CppRsDriver.Statement

/-- A node of the cluster, as far as the filters go. -/
structure Node where
  hostId : Nat
  address : IpAddr
  port : UInt16
  datacenter : Option String
  deriving DecidableEq, Repr

abbrev Shard := Nat

/-- What a policy returns: a node and the shard to use, if it has one in mind. -/
abbrev Target := Node × Option Shard

/-- A request as a policy sees it; `R` is what only the child policy reads. -/
structure RoutingInfo (R : Type) where
  consistency : Consistency
  rest : R

/-- A policy of the Rust driver, over clusters in `C`. A fallback plan is the list of the
targets it goes through. -/
structure LoadBalancingPolicy (R C : Type) where
  pick : RoutingInfo R → C → Option Target
  fallback : RoutingInfo R → C → List Target

namespace DcLocalConsistencyAllowance

def isConsistencyLocal : Consistency → Bool
  | .any | .one | .two | .three | .quorum | .all | .eachQuorum | .serial => false
  | .localQuorum | .localOne | .localSerial => true

def isDcAllowed (allowance : DcLocalConsistencyAllowance) (dc : Option String)
    (cl : Consistency) : Bool :=
  match allowance with
  | .allowAll => true
  | .disallowRemotes localDc =>
    if isConsistencyLocal cl then dc.any (fun dc => localDc == dc) else true

end DcLocalConsistencyAllowance

section Policy
variable {R C : Type} (child : ChildPolicy → LoadBalancingPolicy R C)

/-- The test that `pick` and `fallback` both make. -/
def FilteringLoadBalancingPolicy.isTargetAllowed (policy : FilteringLoadBalancingPolicy)
    (request : RoutingInfo R) (target : Target) : Bool :=
  let dc := target.1.datacenter
  policy.filtering.isHostAllowed target.1.address dc &&
    policy.dcLocalClAllowance.isDcAllowed dc request.consistency

def FilteringLoadBalancingPolicy.pick (policy : FilteringLoadBalancingPolicy)
    (request : RoutingInfo R) (cluster : C) : Option Target :=
  let picked := (child policy.childPolicy).pick request cluster
  picked.bind (fun target => if policy.isTargetAllowed request target then some target else none)

def FilteringLoadBalancingPolicy.fallback (policy : FilteringLoadBalancingPolicy)
    (request : RoutingInfo R) (cluster : C) : List Target :=
  ((child policy.childPolicy).fallback request cluster).filter (policy.isTargetAllowed request)

end Policy

/- All calls that change a configuration. -/

inductive LoadBalancingCall where
  | config (call : ConfigCall)
  | tokenAwareRouting (enabled : UInt32)
  | tokenAwareRoutingShuffleReplicas (enabled : UInt32)
  | latencyAwareRouting (enabled : UInt32)

section Calls
variable (fromStr : String → Option IpAddr)

def LoadBalancingCall.apply (config : LoadBalancingConfig) :
    LoadBalancingCall → CassError × LoadBalancingConfig
  | .config call => call.apply fromStr config
  | .tokenAwareRouting enabled =>
    (.ok, { config with tokenAwarenessEnabled := decide (enabled ≠ 0) })
  | .tokenAwareRoutingShuffleReplicas enabled =>
    (.ok, { config with tokenAwareShufflingReplicasEnabled := decide (enabled ≠ 0) })
  | .latencyAwareRouting enabled =>
    (.ok, { config with latencyAwarenessEnabled := decide (enabled ≠ 0) })

/-- A new configuration after any calls. -/
def configureAll (calls : List LoadBalancingCall) : LoadBalancingConfig :=
  calls.foldl (fun config call => (call.apply fromStr config).2) {}

end Calls

/-- Every datacenter that a configuration names has a name. -/
structure DcsNamed (config : LoadBalancingConfig) : Prop where
  whitelist : "" ∉ config.filtering.whitelistDc
  blacklist : "" ∉ config.filtering.blacklistDc
  restriction : config.filtering.dcRestriction ≠ .local ""

/-- The hosts that a configuration permits at a consistency level. A host whose datacenter
is unknown is in none of those that are named. -/
structure Permitted (config : LoadBalancingConfig) (cl : Consistency) (node : Node) : Prop where
  whitelisted : config.filtering.whitelistHosts = [] ∨
    node.address ∈ config.filtering.whitelistHosts
  notBlacklisted : node.address ∉ config.filtering.blacklistHosts
  inWhitelistedDc : config.filtering.whitelistDc = [] ∨
    ∃ dc ∈ config.filtering.whitelistDc, node.datacenter = some dc
  notInBlacklistedDc : ∀ dc ∈ config.filtering.blacklistDc, node.datacenter ≠ some dc
  unrestricted : ∀ dc, config.filtering.dcRestriction = .local dc → node.datacenter = some dc
  localAtLocal : ∀ localDc permitDcFailover,
    config.loadBalancingKind = some (.dcAware localDc permitDcFailover false) →
    cl = .localOne ∨ cl = .localQuorum ∨ cl = .localSerial → node.datacenter = some localDc

section Named
variable {config : LoadBalancingConfig} (fromStr : String → Option IpAddr)

theorem updateCommaDelimitedList_named {list new : List String} {items : CassStr}
    (named : "" ∉ list) (updated : updateCommaDelimitedList nonemptyDc list items = .ok new) :
    "" ∉ new := by
  unfold updateCommaDelimitedList at updated
  split at updated
  · cases updated
  · cases updated
    exact List.not_mem_nil
  · split at updated
    · cases updated
      exact List.not_mem_nil
    · cases updated
      rw [List.mem_append, not_or]
      refine ⟨named, ?_⟩
      intro member
      obtain ⟨item, -, converted⟩ := List.mem_filterMap.mp member
      rw [nonemptyDc] at converted
      split at converted
      · cases converted
      · rename_i nonempty
        exact nonempty (Option.some.inj converted)

theorem DcsNamed.of_eq {config' : LoadBalancingConfig} (named : DcsNamed config)
    (whitelist : config'.filtering.whitelistDc = config.filtering.whitelistDc)
    (blacklist : config'.filtering.blacklistDc = config.filtering.blacklistDc)
    (restriction : config'.filtering.dcRestriction = config.filtering.dcRestriction) :
    DcsNamed config' := by
  refine ⟨?_, ?_, ?_⟩
  · rw [whitelist]
    exact named.whitelist
  · rw [blacklist]
    exact named.blacklist
  · rw [restriction]
    exact named.restriction

theorem PolicyCall.restriction_named {call : PolicyCall} (ok : (call.apply {}).1 = .ok) :
    call.restriction ≠ .local "" := by
  cases call with
  | roundRobin => exact DcRestriction.noConfusion
  | rackAware => exact DcRestriction.noConfusion
  | dcAware localDc usedHostsPerRemoteDc allowRemoteDcsForLocalCl =>
    cases localDc with
    | error e => contradiction
    | ok localDc =>
      have nonempty : localDc ≠ "" := by
        rintro rfl
        contradiction
      rw [restriction]
      split
      · intro same
        exact nonempty (DcRestriction.local.inj same)
      · exact DcRestriction.noConfusion

theorem DcsNamed.policy (named : DcsNamed config) (call : PolicyCall) :
    DcsNamed (call.apply config).2 := by
  rcases call.apply_cases config with ⟨ok, effect⟩ | ⟨-, effect⟩
  · rw [effect]
    refine ⟨named.whitelist, named.blacklist, ?_⟩
    change (if call.isDcAware = true then call.restriction else _) ≠ _
    split
    · exact PolicyCall.restriction_named ok
    · exact named.restriction
  · rw [effect]
    exact named

theorem DcsNamed.configCall (named : DcsNamed config) (call : ConfigCall) :
    DcsNamed (call.apply fromStr config).2 := by
  cases call with
  | policy call => exact named.policy call
  | whitelist hosts | blacklist hosts =>
    simp only [ConfigCall.apply, setWhitelistFiltering, setBlacklistFiltering, setFiltering]
    split
    · exact named.of_eq rfl rfl rfl
    · exact named
  | whitelistDc dcs =>
    simp only [ConfigCall.apply, setWhitelistDcFiltering, setFiltering]
    split
    · rename_i list updated
      exact ⟨updateCommaDelimitedList_named named.whitelist updated, named.blacklist,
        named.restriction⟩
    · exact named
  | blacklistDc dcs =>
    simp only [ConfigCall.apply, setBlacklistDcFiltering, setFiltering]
    split
    · rename_i list updated
      exact ⟨named.whitelist, updateCommaDelimitedList_named named.blacklist updated,
        named.restriction⟩
    · exact named

theorem configureAll_named (calls : List LoadBalancingCall) :
    DcsNamed (configureAll fromStr calls) := by
  induction calls using List.reverseRecOn with
  | nil => exact ⟨List.not_mem_nil, List.not_mem_nil, DcRestriction.noConfusion⟩
  | append_singleton calls call ih =>
    rw [configureAll, List.foldl_append]
    cases call with
    | config call => exact ih.configCall fromStr call
    | tokenAwareRouting | tokenAwareRoutingShuffleReplicas | latencyAwareRouting =>
      exact ih.of_eq rfl rfl rfl

end Named

section Filter
variable {config : LoadBalancingConfig} {node : Node}

/- A missing datacenter, read as an empty name, is not among names. -/
theorem mem_of_getD {dcs : List String} (named : "" ∉ dcs) :
    node.datacenter.getD "" ∈ dcs ↔ ∃ dc ∈ dcs, node.datacenter = some dc := by
  cases node.datacenter with
  | none =>
    rw [Option.getD_none]
    refine ⟨fun member => absurd member named, ?_⟩
    rintro ⟨dc, -, is⟩
    cases is
  | some dc =>
    rw [Option.getD_some]
    constructor
    · intro member
      exact ⟨dc, member, rfl⟩
    · rintro ⟨_, member, ⟨⟩⟩
      exact member

theorem thenSomeNonempty_any {α : Type} (list : List α) (p : List α → Bool) :
    (thenSomeNonempty list).any p = false ↔ list = [] ∨ p list = false := by
  cases list with
  | nil => exact ⟨fun _ => .inl rfl, fun _ => rfl⟩
  | cons x rest =>
    refine ⟨.inr, ?_⟩
    rintro (empty | no)
    · cases empty
    · exact no

/- The rules kind by kind. -/

theorem whitelistHosts_passes :
    config.filtering.intoFilteringInfo.rejectsBy node.address node.datacenter .whitelistHosts =
        false ↔
      config.filtering.whitelistHosts = [] ∨ node.address ∈ config.filtering.whitelistHosts := by
  refine (thenSomeNonempty_any _ _).trans (or_congr_right ?_)
  rw [Bool.not_eq_false', List.contains_iff_mem]

theorem blacklistHosts_passes :
    config.filtering.intoFilteringInfo.rejectsBy node.address node.datacenter .blacklistHosts =
        false ↔ node.address ∉ config.filtering.blacklistHosts := by
  refine (thenSomeNonempty_any _ _).trans ?_
  rw [← Bool.not_eq_true, List.contains_iff_mem]
  refine ⟨?_, .inr⟩
  rintro (empty | absent)
  · rw [empty]
    exact List.not_mem_nil
  · exact absent

theorem whitelistDc_passes (named : DcsNamed config) :
    config.filtering.intoFilteringInfo.rejectsBy node.address node.datacenter .whitelistDc =
        false ↔
      config.filtering.whitelistDc = [] ∨
        ∃ dc ∈ config.filtering.whitelistDc, node.datacenter = some dc := by
  refine (thenSomeNonempty_any _ _).trans (or_congr_right ?_)
  rw [Bool.not_eq_false', List.contains_iff_mem, mem_of_getD named.whitelist]

theorem blacklistDc_passes (named : DcsNamed config) :
    config.filtering.intoFilteringInfo.rejectsBy node.address node.datacenter .blacklistDc =
        false ↔ ∀ dc ∈ config.filtering.blacklistDc, node.datacenter ≠ some dc := by
  refine (thenSomeNonempty_any _ _).trans ?_
  rw [← Bool.not_eq_true, List.contains_iff_mem, mem_of_getD named.blacklist]
  constructor
  · rintro (empty | absent)
    · rw [empty]
      intro dc member
      exact absurd member List.not_mem_nil
    · intro dc member is
      exact absent ⟨dc, member, is⟩
  · intro absent
    refine .inr ?_
    rintro ⟨dc, member, is⟩
    exact absent dc member is

theorem allowedDcs_passes (named : DcsNamed config) :
    config.filtering.intoFilteringInfo.rejectsBy node.address node.datacenter .allowedDcs =
        false ↔ ∀ dc, config.filtering.dcRestriction = .local dc → node.datacenter = some dc := by
  have nonempty := named.restriction
  simp only [FilteringInfo.rejectsBy, FilteringConfig.intoFilteringInfo]
  cases is : config.filtering.dcRestriction with
  | none =>
    refine ⟨fun _ dc same => ?_, fun _ => rfl⟩
    cases same
  | «local» localDc =>
    rw [is] at nonempty
    have notEmpty : "" ∉ [localDc] := by
      intro member
      exact nonempty (congrArg DcRestriction.local (List.mem_singleton.mp member).symm)
    rw [Bool.not_eq_false', List.contains_iff_mem, mem_of_getD notEmpty]
    constructor
    · rintro ⟨dc, member, at'⟩ _ ⟨⟩
      rw [at', List.mem_singleton.mp member]
    · intro restricted
      exact ⟨localDc, List.mem_singleton_self _, restricted localDc rfl⟩

theorem isConsistencyLocal_iff (cl : Consistency) :
    DcLocalConsistencyAllowance.isConsistencyLocal cl = true ↔
      cl = .localOne ∨ cl = .localQuorum ∨ cl = .localSerial := by
  cases cl <;> decide

theorem disallowRemotes_iff (localDc : String) (dc : Option String) (cl : Consistency) :
    (DcLocalConsistencyAllowance.disallowRemotes localDc).isDcAllowed dc cl = true ↔
      (cl = .localOne ∨ cl = .localQuorum ∨ cl = .localSerial → dc = some localDc) := by
  rw [← isConsistencyLocal_iff, DcLocalConsistencyAllowance.isDcAllowed]
  cases DcLocalConsistencyAllowance.isConsistencyLocal cl with
  | false => simp
  | true =>
    cases dc with
    | none => simp
    | some dc =>
      simp only [Option.any_some, beq_iff_eq, Option.some.injEq, if_true, forall_const]
      exact eq_comm

/-- The second check: the local datacenter at a local consistency level. -/
theorem isDcAllowed_iff (config : LoadBalancingConfig) (cl : Consistency) (dc : Option String) :
    config.build.dcLocalClAllowance.isDcAllowed dc cl = true ↔
      ∀ localDc permitDcFailover,
        config.loadBalancingKind = some (.dcAware localDc permitDcFailover false) →
        cl = .localOne ∨ cl = .localQuorum ∨ cl = .localSerial → dc = some localDc := by
  rw [LoadBalancingConfig.build]
  cases config.loadBalancingKind with
  | none =>
    refine ⟨fun _ => ?_, fun _ => rfl⟩
    rintro _ _ ⟨⟩
  | some selected =>
    cases selected with
    | roundRobin | rackAware =>
      refine ⟨fun _ => ?_, fun _ => rfl⟩
      rintro _ _ ⟨⟩
    | dcAware localDc permitDcFailover allowRemoteDcsForLocalCl =>
      cases allowRemoteDcsForLocalCl with
      | true =>
        refine ⟨fun _ => ?_, fun _ => rfl⟩
        rintro _ _ ⟨⟩
      | false =>
        refine (disallowRemotes_iff localDc dc cl).trans ?_
        constructor
        · rintro allowed _ _ ⟨⟩
          exact allowed
        · intro allowed
          exact allowed localDc permitDcFailover rfl

theorem isTargetAllowed_iff {R : Type} (named : DcsNamed config) (request : RoutingInfo R)
    (target : Target) :
    config.build.isTargetAllowed request target = true ↔
      Permitted config request.consistency target.1 := by
  have filtering : config.build.filtering = config.filtering.intoFilteringInfo := by
    rw [LoadBalancingConfig.build]
    split <;> rfl
  rw [FilteringLoadBalancingPolicy.isTargetAllowed, Bool.and_eq_true, isDcAllowed_iff, filtering,
    allowed_iff_no_rule]
  constructor
  · rintro ⟨rules, atLocal⟩
    exact ⟨whitelistHosts_passes.mp (rules .whitelistHosts),
      blacklistHosts_passes.mp (rules .blacklistHosts),
      (whitelistDc_passes named).mp (rules .whitelistDc),
      (blacklistDc_passes named).mp (rules .blacklistDc),
      (allowedDcs_passes named).mp (rules .allowedDcs), atLocal⟩
  · intro permitted
    refine ⟨?_, permitted.localAtLocal⟩
    intro kind
    cases kind with
    | allowedDcs => exact (allowedDcs_passes named).mpr permitted.unrestricted
    | whitelistHosts => exact whitelistHosts_passes.mpr permitted.whitelisted
    | blacklistHosts => exact blacklistHosts_passes.mpr permitted.notBlacklisted
    | whitelistDc => exact (whitelistDc_passes named).mpr permitted.inWhitelistedDc
    | blacklistDc => exact (blacklistDc_passes named).mpr permitted.notInBlacklistedDc

end Filter

section Plans
variable {R C : Type} (fromStr : String → Option IpAddr) (child : ChildPolicy → LoadBalancingPolicy R C)

/-- The policy that a configuration is built into goes through exactly the permitted
targets of its child's plan, in the child's order. -/
theorem plan_is_permitted_part (calls : List LoadBalancingCall) (request : RoutingInfo R)
    (cluster : C) :
    let config := configureAll fromStr calls
    let policy := config.build
    let childPolicy := child policy.childPolicy
    ∃ keep : Target → Bool,
      (∀ target, keep target = true ↔ Permitted config request.consistency target.1) ∧
      policy.pick child request cluster = (childPolicy.pick request cluster).filter keep ∧
      policy.fallback child request cluster = (childPolicy.fallback request cluster).filter keep ∧
      (policy.pick child request cluster).toList ++ policy.fallback child request cluster =
        ((childPolicy.pick request cluster).toList ++
          childPolicy.fallback request cluster).filter keep := by
  intro config policy childPolicy
  have picks : policy.pick child request cluster =
      (childPolicy.pick request cluster).filter (policy.isTargetAllowed request) := by
    change (childPolicy.pick request cluster).bind _ = _
    cases childPolicy.pick request cluster with
    | none => rfl
    | some target => rfl
  have pickList : (policy.pick child request cluster).toList =
      (childPolicy.pick request cluster).toList.filter (policy.isTargetAllowed request) := by
    rw [picks]
    cases childPolicy.pick request cluster with
    | none => rfl
    | some target => cases allowed : policy.isTargetAllowed request target <;> simp [allowed]
  refine ⟨policy.isTargetAllowed request, ?_, picks, rfl, ?_⟩
  · exact isTargetAllowed_iff (configureAll_named fromStr calls) request
  · rw [List.filter_append, pickList]
    rfl

end Plans

end CppRsDriver.LoadBalancing
