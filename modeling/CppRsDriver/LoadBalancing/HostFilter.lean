import CppRsDriver.LoadBalancing.Filtering

/-! The host filter computed from all load balancing configurations of a cluster.
Every kind of rule is merged on its own: whitelists by union, blacklists by
intersection, datacenter restrictions by a fold. -/
namespace CppRsDriver.LoadBalancing

section Merging
variable {α : Type} [DecidableEq α]

def pushNew (union : List α) (v : α) : List α :=
  if union.contains v then union else union ++ [v]

/- The outer loop with its accumulator; an empty set ends it at once. -/
def nonemptyUnionFrom (union : List α) : List (List α) → Option (List α)
  | [] => thenSomeNonempty union
  | values :: rest =>
    if values.isEmpty then none else nonemptyUnionFrom (values.foldl pushNew union) rest

/-- The union of all sets, or `none` when one of them is empty. -/
def nonemptyUnion (sets : List (List α)) : Option (List α) := nonemptyUnionFrom [] sets

/-- The intersection of all sets, or `none` when it is empty. -/
def nonemptyIntersection : List (List α) → Option (List α)
  | [] => none
  | first :: rest =>
    thenSomeNonempty (rest.foldl (fun acc set => acc.filter (fun item => set.contains item)) first)

theorem mem_pushNew (union : List α) (v x : α) : x ∈ pushNew union v ↔ x ∈ union ∨ x = v := by
  unfold pushNew
  split
  · rename_i seen
    have member : v ∈ union := List.contains_iff_mem.mp seen
    constructor
    · exact Or.inl
    · rintro (hx | rfl)
      · exact hx
      · exact member
  · simp

theorem mem_foldl_pushNew (values union : List α) (x : α) :
    x ∈ values.foldl pushNew union ↔ x ∈ union ∨ x ∈ values := by
  induction values generalizing union with
  | nil => simp
  | cons v values ih => rw [List.foldl_cons, ih, mem_pushNew, List.mem_cons, or_assoc]

theorem misses_thenSomeNonempty (list : List α) (x : α) :
    (thenSomeNonempty list).any (fun l => !l.contains x) = true ↔ list ≠ [] ∧ x ∉ list := by
  cases list with
  | nil => simp [thenSomeNonempty]
  | cons a rest => simp [thenSomeNonempty]

theorem hits_thenSomeNonempty (list : List α) (x : α) :
    (thenSomeNonempty list).any (fun l => l.contains x) = true ↔ x ∈ list := by
  cases list with
  | nil => simp [thenSomeNonempty]
  | cons a rest => simp [thenSomeNonempty]

theorem misses_unionFrom (sets : List (List α)) (union : List α) (x : α) :
    (nonemptyUnionFrom union sets).any (fun u => !u.contains x) = true ↔
      (union ≠ [] ∨ sets ≠ []) ∧ x ∉ union ∧ ∀ set ∈ sets, set ≠ [] ∧ x ∉ set := by
  induction sets generalizing union with
  | nil =>
    rw [nonemptyUnionFrom, misses_thenSomeNonempty]
    simp
  | cons values rest ih =>
    unfold nonemptyUnionFrom
    split
    · rename_i empty
      have nil : values = [] := List.isEmpty_iff.mp empty
      simp [nil]
    · rename_i nonempty
      have cons : values ≠ [] := fun h => nonempty (List.isEmpty_iff.mpr h)
      obtain ⟨v, hv⟩ := List.exists_mem_of_ne_nil values cons
      have grown : values.foldl pushNew union ≠ [] :=
        List.ne_nil_of_mem ((mem_foldl_pushNew values union v).mpr (Or.inr hv))
      rw [ih]
      simp only [mem_foldl_pushNew, List.mem_cons, forall_eq_or_imp]
      tauto

theorem misses_nonemptyUnion (sets : List (List α)) (x : α) :
    (nonemptyUnion sets).any (fun u => !u.contains x) = true ↔
      sets ≠ [] ∧ ∀ set ∈ sets, set ≠ [] ∧ x ∉ set := by
  rw [nonemptyUnion, misses_unionFrom]
  simp

theorem mem_foldl_filter (rest : List (List α)) (first : List α) (x : α) :
    x ∈ rest.foldl (fun acc set => acc.filter (fun item => set.contains item)) first ↔
      x ∈ first ∧ ∀ set ∈ rest, x ∈ set := by
  induction rest generalizing first with
  | nil => simp
  | cons set rest ih =>
    rw [List.foldl_cons, ih]
    simp only [List.mem_filter, List.contains_iff_mem, List.mem_cons, forall_eq_or_imp, and_assoc]

theorem hits_nonemptyIntersection (sets : List (List α)) (x : α) :
    (nonemptyIntersection sets).any (fun i => i.contains x) = true ↔
      sets ≠ [] ∧ ∀ set ∈ sets, x ∈ set := by
  cases sets with
  | nil => simp [nonemptyIntersection]
  | cons first rest =>
    rw [nonemptyIntersection, hits_thenSomeNonempty, mem_foldl_filter]
    simp only [ne_eq, reduceCtorEq, not_false_eq_true, true_and, List.mem_cons, forall_eq_or_imp]

end Merging

/- One step of the fold over datacenter restrictions; `none` before the first. -/
def mergeDcRestriction : Option AllowedDcs → DcRestriction → Option AllowedDcs
  | none, .none => some .all
  | none, .local localDc => some (.whitelist [localDc])
  | some (.whitelist dcs), .local localDc => some (.whitelist (dcs ++ [localDc]))
  | some .all, _ => some .all
  | _, .none => some .all

structure CassHostFilter where
  filtering : FilteringInfo
  deriving DecidableEq, Repr

structure Peer where
  address : IpAddr
  datacenter : Option String
  deriving DecidableEq, Repr

def CassHostFilter.accept (filter : CassHostFilter) (peer : Peer) : Bool :=
  filter.filtering.isHostAllowed peer.address peer.datacenter

def newFromLbpConfigs (configs : List LoadBalancingConfig) : CassHostFilter where
  filtering :=
    { whitelistHosts := nonemptyUnion (configs.map (fun c => c.filtering.whitelistHosts))
      blacklistHosts := nonemptyIntersection (configs.map (fun c => c.filtering.blacklistHosts))
      whitelistDc := nonemptyUnion (configs.map (fun c => c.filtering.whitelistDc))
      blacklistDc := nonemptyIntersection (configs.map (fun c => c.filtering.blacklistDc))
      allowedDcs :=
        (configs.foldl (fun allowed c => mergeDcRestriction allowed c.filtering.dcRestriction)
          none).getD .all }

/-- A host outside the datacenter this restriction names, if it names one. -/
def DcRestriction.excludes (restriction : DcRestriction) (dc : String) : Prop :=
  ∃ localDc, restriction = .local localDc ∧ dc ≠ localDc

def AllowedDcs.excludes (allowed : AllowedDcs) (dc : String) : Prop :=
  ∃ dcs, allowed = .whitelist dcs ∧ dc ∉ dcs

theorem excludes_merge (allowed : AllowedDcs) (restriction : DcRestriction) (dc : String) :
    ∃ merged, mergeDcRestriction (some allowed) restriction = some merged ∧
      (merged.excludes dc ↔ allowed.excludes dc ∧ restriction.excludes dc) := by
  cases allowed with
  | all =>
    refine ⟨.all, by cases restriction <;> rfl, ?_⟩
    simp [AllowedDcs.excludes]
  | whitelist dcs =>
    cases restriction with
    | none => exact ⟨.all, rfl, by simp [AllowedDcs.excludes, DcRestriction.excludes]⟩
    | «local» localDc =>
      refine ⟨.whitelist (dcs ++ [localDc]), rfl, ?_⟩
      simp [AllowedDcs.excludes, DcRestriction.excludes]

theorem excludes_mergeAll (configs : List LoadBalancingConfig) (allowed : AllowedDcs) (dc : String) :
    ∃ merged, configs.foldl (fun allowed c => mergeDcRestriction allowed c.filtering.dcRestriction)
        (some allowed) = some merged ∧
      (merged.excludes dc ↔
        allowed.excludes dc ∧ ∀ c ∈ configs, c.filtering.dcRestriction.excludes dc) := by
  induction configs generalizing allowed with
  | nil => exact ⟨allowed, rfl, by simp⟩
  | cons c configs ih =>
    obtain ⟨next, hn, hnext⟩ := excludes_merge allowed c.filtering.dcRestriction dc
    obtain ⟨merged, hm, hmerged⟩ := ih next
    refine ⟨merged, by rw [List.foldl_cons, hn, hm], ?_⟩
    rw [hmerged, hnext, List.forall_mem_cons, and_assoc]

theorem rejectsBy_allowedDcs (info : FilteringInfo) (ip : IpAddr) (dc : Option String) :
    info.rejectsBy ip dc .allowedDcs = true ↔ info.allowedDcs.excludes (dc.getD "") := by
  cases h : info.allowedDcs with
  | all => simp [FilteringInfo.rejectsBy, AllowedDcs.excludes, h]
  | whitelist dcs => simp [FilteringInfo.rejectsBy, AllowedDcs.excludes, h]

theorem excludes_intoFilteringInfo (config : FilteringConfig) (dc : String) :
    config.intoFilteringInfo.allowedDcs.excludes dc ↔ config.dcRestriction.excludes dc := by
  cases h : config.dcRestriction with
  | none => simp [FilteringConfig.intoFilteringInfo, AllowedDcs.excludes, DcRestriction.excludes, h]
  | «local» localDc =>
    simp [FilteringConfig.intoFilteringInfo, AllowedDcs.excludes, DcRestriction.excludes, h]

/- The first configuration starts the fold: from then on there is always a value. -/
theorem excludes_newFromLbpConfigs (first : LoadBalancingConfig) (rest : List LoadBalancingConfig)
    (dc : String) :
    (newFromLbpConfigs (first :: rest)).filtering.allowedDcs.excludes dc ↔
      ∀ c ∈ first :: rest, c.filtering.dcRestriction.excludes dc := by
  have start : mergeDcRestriction none first.filtering.dcRestriction =
      some first.filtering.intoFilteringInfo.allowedDcs := by
    unfold FilteringConfig.intoFilteringInfo
    cases first.filtering.dcRestriction <;> rfl
  obtain ⟨merged, hm, hmerged⟩ :=
    excludes_mergeAll rest first.filtering.intoFilteringInfo.allowedDcs dc
  have folded : (newFromLbpConfigs (first :: rest)).filtering.allowedDcs = merged := by
    simp only [newFromLbpConfigs, List.foldl_cons, start, hm, Option.getD_some]
  rw [folded, hmerged, excludes_intoFilteringInfo, List.forall_mem_cons]

/-- Every kind of rule is merged on its own: the filter rejects a host by one kind
exactly when all configurations reject it by that kind. -/
theorem merged_rejectsBy (first : LoadBalancingConfig) (rest : List LoadBalancingConfig)
    (ip : IpAddr) (dc : Option String) (kind : RuleKind) :
    (newFromLbpConfigs (first :: rest)).filtering.rejectsBy ip dc kind = true ↔
      ∀ c ∈ first :: rest, c.filtering.intoFilteringInfo.rejectsBy ip dc kind = true := by
  have nonempty : ∀ f : LoadBalancingConfig → List IpAddr, (first :: rest).map f ≠ [] :=
    fun f => by simp
  have nonemptyDc : ∀ f : LoadBalancingConfig → List String, (first :: rest).map f ≠ [] :=
    fun f => by simp
  cases kind with
  | allowedDcs =>
    simp only [rejectsBy_allowedDcs, excludes_intoFilteringInfo]
    exact excludes_newFromLbpConfigs first rest (dc.getD "")
  | whitelistHosts =>
    simp only [FilteringInfo.rejectsBy, newFromLbpConfigs, FilteringConfig.intoFilteringInfo,
      misses_nonemptyUnion, misses_thenSomeNonempty, List.forall_mem_map]
    exact and_iff_right (nonempty _)
  | blacklistHosts =>
    simp only [FilteringInfo.rejectsBy, newFromLbpConfigs, FilteringConfig.intoFilteringInfo,
      hits_nonemptyIntersection, hits_thenSomeNonempty, List.forall_mem_map]
    exact and_iff_right (nonempty _)
  | whitelistDc =>
    simp only [FilteringInfo.rejectsBy, newFromLbpConfigs, FilteringConfig.intoFilteringInfo,
      misses_nonemptyUnion, misses_thenSomeNonempty, List.forall_mem_map]
    exact and_iff_right (nonemptyDc _)
  | blacklistDc =>
    simp only [FilteringInfo.rejectsBy, newFromLbpConfigs, FilteringConfig.intoFilteringInfo,
      hits_nonemptyIntersection, hits_thenSomeNonempty, List.forall_mem_map]
    exact and_iff_right (nonemptyDc _)

/-- What load balancing reads of a `CassCluster`: its own configuration and those of the execution
profiles, listed in whatever order the iteration of the map yields. -/
structure ClusterBalancing where
  loadBalancingConfig : LoadBalancingConfig := {}
  executionProfileMap : List (String × LoadBalancingConfig) := []
  deriving DecidableEq, Repr

/-- The load balancing part of `CassExecProfile::build`: without a base policy
the profile runs on the policy of the cluster's default profile. -/
def LoadBalancingConfig.buildOr (config : LoadBalancingConfig)
    (clusterPolicy : FilteringLoadBalancingPolicy) : FilteringLoadBalancingPolicy :=
  if config.loadBalancingKind.isSome then config.build else clusterPolicy

namespace ClusterBalancing

/- Profiles without a base policy are left out: their filtering is ignored. -/
def profileLbpConfigs (cluster : ClusterBalancing) : List LoadBalancingConfig :=
  cluster.executionProfileMap.filterMap (fun entry =>
    entry.2.loadBalancingKind.map (fun _ => entry.2))

def buildHostFilter (cluster : ClusterBalancing) : CassHostFilter :=
  newFromLbpConfigs (cluster.loadBalancingConfig :: cluster.profileLbpConfigs)

/-- The policies requests of a session can run on: the default profile's and
those of the named profiles. -/
def policies (cluster : ClusterBalancing) : List FilteringLoadBalancingPolicy :=
  let default := cluster.loadBalancingConfig.build
  default :: cluster.executionProfileMap.map (fun entry => entry.2.buildOr default)

end ClusterBalancing

theorem build_filtering (config : LoadBalancingConfig) :
    config.build.filtering = config.filtering.intoFilteringInfo := by
  unfold LoadBalancingConfig.build
  cases config.loadBalancingKind.getD .roundRobin <;> rfl

/-- Every policy in use comes from one of the configurations the filter merges. -/
theorem policy_from_config (cluster : ClusterBalancing) (policy : FilteringLoadBalancingPolicy)
    (used : policy ∈ cluster.policies) :
    ∃ config ∈ cluster.loadBalancingConfig :: cluster.profileLbpConfigs,
      policy.filtering = config.filtering.intoFilteringInfo := by
  rcases List.mem_cons.mp used with rfl | hp
  · exact ⟨_, List.mem_cons_self, build_filtering _⟩
  · obtain ⟨entry, member, rfl⟩ := List.mem_map.mp hp
    unfold LoadBalancingConfig.buildOr
    cases kind : entry.2.loadBalancingKind with
    | none => exact ⟨_, List.mem_cons_self, build_filtering _⟩
    | some k =>
      refine ⟨entry.2, List.mem_cons_of_mem _ ?_, build_filtering _⟩
      exact List.mem_filterMap.mpr ⟨entry, member, by rw [kind]; rfl⟩

theorem accept_of_config {first config : LoadBalancingConfig} {rest : List LoadBalancingConfig}
    (member : config ∈ first :: rest) (peer : Peer)
    (allowed : config.filtering.intoFilteringInfo.isHostAllowed peer.address peer.datacenter = true) :
    (newFromLbpConfigs (first :: rest)).accept peer = true := by
  rw [allowed_iff_no_rule] at allowed
  refine (allowed_iff_no_rule _ _ _).mpr (fun kind => ?_)
  rw [Bool.eq_false_iff]
  intro rejects
  have everywhere := (merged_rejectsBy _ _ peer.address peer.datacenter kind).mp rejects
  have here := everywhere config member
  rw [allowed kind] at here
  contradiction

/-- A host that some policy in use lets through is never blocked. -/
theorem usable_host_accepted (cluster : ClusterBalancing) (policy : FilteringLoadBalancingPolicy)
    (used : policy ∈ cluster.policies) (peer : Peer)
    (allowed : policy.filtering.isHostAllowed peer.address peer.datacenter = true) :
    cluster.buildHostFilter.accept peer = true := by
  obtain ⟨config, member, same⟩ := policy_from_config cluster policy used
  rw [same] at allowed
  exact accept_of_config member peer allowed

/- A profile on the local datacenter, beside a cluster that blacklists one host. -/
theorem usable_host_accepted_local :
    let profile : LoadBalancingConfig :=
      { loadBalancingKind := some (.dcAware "dc1" false true)
        filtering := { dcRestriction := .local "dc1" } }
    let cluster : ClusterBalancing :=
      { loadBalancingConfig := { filtering := { blacklistHosts := [.v4 1#32] } }
        executionProfileMap := [("local", profile)] }
    cluster.buildHostFilter.accept ⟨.v4 1#32, some "dc1"⟩ = true := by
  intro profile cluster
  exact usable_host_accepted cluster (profile.buildOr cluster.loadBalancingConfig.build)
    (by simp [cluster, ClusterBalancing.policies]) ⟨.v4 1#32, some "dc1"⟩ (by decide)

/-- The merged filter upholds the rule "rejected by all policies, never connected
to" exactly for hosts that all configurations reject by one and the same kind of
rule, or that some configuration lets through. -/
theorem rejected_by_all_iff_common_rule (configs : List LoadBalancingConfig)
    (nonempty : configs ≠ []) (peer : Peer) :
    ((∀ c ∈ configs,
        c.filtering.intoFilteringInfo.isHostAllowed peer.address peer.datacenter = false) →
      (newFromLbpConfigs configs).accept peer = false) ↔
    ((∀ c ∈ configs, ∃ kind,
        c.filtering.intoFilteringInfo.rejectsBy peer.address peer.datacenter kind = true) →
      ∃ kind, ∀ c ∈ configs,
        c.filtering.intoFilteringInfo.rejectsBy peer.address peer.datacenter kind = true) := by
  obtain ⟨first, rest, rfl⟩ := List.exists_cons_of_ne_nil nonempty
  have merged : (newFromLbpConfigs (first :: rest)).accept peer = false ↔
      ∃ kind, ∀ c ∈ first :: rest,
        c.filtering.intoFilteringInfo.rejectsBy peer.address peer.datacenter kind = true := by
    rw [CassHostFilter.accept, rejected_iff_rule]
    exact exists_congr (fun kind => merged_rejectsBy first rest peer.address peer.datacenter kind)
  rw [merged]
  simp only [rejected_iff_rule]

/- Two policies that restrict themselves to different datacenters share a kind. -/
theorem rejected_by_all_two_datacenters :
    let restrictedTo (dc : String) : LoadBalancingConfig :=
      { filtering := { dcRestriction := .local dc } }
    (newFromLbpConfigs [restrictedTo "dc1", restrictedTo "dc2"]).accept ⟨.v4 7#32, some "dc3"⟩ =
      false := by
  intro restrictedTo
  refine (rejected_by_all_iff_common_rule [restrictedTo "dc1", restrictedTo "dc2"] (by simp)
    ⟨.v4 7#32, some "dc3"⟩).mpr (fun _ => ⟨.allowedDcs, by decide⟩) (by decide)

/- One policy whitelists another host, the other blacklists this one: both reject
it, but neither the union nor the intersection keeps a rule against it. -/
theorem mixed_rules_not_rejected :
    ¬ ∀ configs : List LoadBalancingConfig, configs ≠ [] → ∀ peer : Peer,
      (∀ c ∈ configs,
        c.filtering.intoFilteringInfo.isHostAllowed peer.address peer.datacenter = false) →
      (newFromLbpConfigs configs).accept peer = false := by
  intro upheld
  have blocked := upheld
    [{ filtering := { whitelistHosts := [.v4 1#32] } },
     { filtering := { blacklistHosts := [.v4 2#32] } }] (by simp) ⟨.v4 2#32, none⟩ (by decide)
  revert blocked
  decide

end CppRsDriver.LoadBalancing
