import CppRsDriver.Lib.Maps
import CppRsDriver.Lib.Runs
import CppRsDriver.Session.ConnectRequest

/-! From the calls of a client to the execution profiles of its session. A profile is copied
when it is given to the cluster, and built when a session connects. -/
namespace CppRsDriver.Session

open CppRsDriver.Lib CppRsDriver.LoadBalancing CppRsDriver.Statement CppRsDriver.Uuid

/-- What a client has: its profiles, in the order of their creation, and a cluster. -/
structure Client where
  profiles : List CassExecProfile
  cluster : CassCluster

/-- The calls of a client; a null pointer is no profile. -/
inductive ClientCall where
  | execProfileNew
  | onProfile (i : Nat) (call : ProfileCall)
  | setExecutionProfile (name : CassStr) (profile : Option Nat)
  | onCluster (call : ClusterCall)

section Steps
variable (fromStr : String → Option IpAddr) (uuidString : StandardUuid → String)

def Client.register (c : Client) (name : CassStr) (profile : Option CassExecProfile) : Client :=
  { c with cluster := (c.cluster.setExecutionProfile name profile).2 }

def Client.step (c : Client) : ClientCall → Option Client
  | .execProfileNew => some { c with profiles := c.profiles ++ [{}] }
  | .onProfile i call =>
    c.profiles[i]?.map (fun profile =>
      { c with profiles := c.profiles.set i (call.apply fromStr profile).2 })
  | .setExecutionProfile name none => some (c.register name none)
  | .setExecutionProfile name (some i) =>
    c.profiles[i]?.map (fun profile => c.register name (some profile))
  -- profiles are given to a cluster from among those of the client only
  | .onCluster call =>
    if call.concerns = .executionProfiles then none
    else some { c with cluster := (call.apply fromStr uuidString c.cluster).2 }

/-- What a call does to the objects of a client. -/
inductive Client.Transition (c : Client) : ClientCall → Client → Prop where
  | execProfileNew : Transition c .execProfileNew { c with profiles := c.profiles ++ [{}] }
  | onProfile {i : Nat} {profile : CassExecProfile} (call : ProfileCall)
      (found : c.profiles[i]? = some profile) :
      Transition c (.onProfile i call)
        { c with profiles := c.profiles.set i (call.apply fromStr profile).2 }
  | noProfile (name : CassStr) : Transition c (.setExecutionProfile name none) (c.register name none)
  | register {i : Nat} {profile : CassExecProfile} (name : CassStr)
      (found : c.profiles[i]? = some profile) :
      Transition c (.setExecutionProfile name (some i)) (c.register name (some profile))
  | onCluster {call : ClusterCall} (other : call.concerns ≠ .executionProfiles) :
      Transition c (.onCluster call)
        { c with cluster := (call.apply fromStr uuidString c.cluster).2 }

end Steps

/-- What a call on a cluster asks for the profile that all others fall back to. -/
def ClusterCall.asked : ClusterCall → Asked
  | .consistency value =>
    match Consistency.fromCValue value with
    | some (.set level) => .consistency (.set level)
    | _ => .nothing
  | .serialConsistency value =>
    match SerialConsistency.fromCValue value with
    | some (.set level) => .serialConsistency (.set level)
    | _ => .nothing
  | .requestTimeout timeoutMs => .requestTimeout (.set (CassCluster.nonzeroMillis timeoutMs.toNat))
  | .retryPolicy (some policy) => .retryPolicy (.set policy)
  | .noSpeculativeExecutionPolicy => .speculativeExecutionPolicy (.set none)
  | .constantSpeculativeExecutionPolicy constantDelayMs maxSpeculativeExecutions =>
    if constantDelayMs < 0 ∨ maxSpeculativeExecutions < 0 then .nothing
    else .speculativeExecutionPolicy (.set (some
      { maxRetryCount := maxSpeculativeExecutions.toInt.toNat
        retryInterval := millis constantDelayMs.toInt.toNat }))
  | _ => .nothing

def ClusterCall.balancing : ClusterCall → Option LoadBalancingCall
  | .loadBalancing call => some call
  | _ => none

def ProfileCall.balancing : ProfileCall → Option LoadBalancingCall
  | .loadBalancing call => some call
  | _ => none

def ClientCall.ofCluster : ClientCall → Option ClusterCall
  | .onCluster call => some call
  | _ => none

/-- What was asked last of a setting. -/
def Setting.last {α : Type} (setting : Setting α) (asked : List Asked) : Option (MaybeUnsetConfig α) :=
  (asked.filterMap setting.asks).getLast?

/- A builder in which everything is set, as the slots of a profile. -/
def ExecutionProfileBuilder.slots (builder : ExecutionProfileBuilder) : Slots where
  consistency := (true, builder.consistency)
  serialConsistency := (true, builder.serialConsistency)
  requestTimeout := (true, builder.requestTimeout)
  retryPolicy := (true, builder.retryPolicy)
  speculativeExecutionPolicy := (true, builder.speculativeExecutionPolicy)

section Calls
variable (fromStr : String → Option IpAddr) (uuidString : StandardUuid → String)

end Calls

theorem useClusterDefaults_balancing (profile : CassExecProfile) (cluster : ExecutionProfile) :
    (profile.useClusterDefaultsForUnsetSettings cluster).loadBalancingConfig =
      profile.loadBalancingConfig := by
  unfold CassExecProfile.useClusterDefaultsForUnsetSettings
  simp only [apply_ite CassExecProfile.loadBalancingConfig, CassExecProfile.modifyInPlace, ite_self]

theorem build_balancing (profile : CassExecProfile) (defaults cluster : ExecutionProfile) :
    (profile.build defaults cluster).loadBalancingPolicy =
      profile.loadBalancingConfig.buildOr cluster.loadBalancingPolicy := by
  simp only [CassExecProfile.build, useClusterDefaults_balancing, ExecutionProfileBuilder.build,
    Option.getD_some]

section Connecting
variable (fromStr : String → Option IpAddr) (uuidString : StandardUuid → String)

theorem connect_lookup (shuffle : List String → List String) (defaults : ExecutionProfile)
    (cluster : CassCluster) (keyspace : Option String) {profile : ExecutionProfile}
    (default : (cluster.connect shuffle defaults keyspace).config.defaultExecutionProfile =
      some profile) (name : ExecProfileName) :
    (cluster.connect shuffle defaults keyspace).execProfileMap.lookup name =
      (cluster.executionProfileMap.lookup name).map (fun own => own.build defaults profile) := by
  let config := cluster.buildSessionBuilder shuffle defaults
  have is : config.defaultExecutionProfile.getD defaults = profile :=
    congrArg (Option.getD · defaults) default
  refine (lookup_foldl_insert
    (fun entry => entry.2.build defaults (config.defaultExecutionProfile.getD defaults))
    cluster.executionProfileMap.nodupKeys ∅ name).trans ?_
  rw [is, AList.lookup_empty, Option.or_none]
  rfl

/- The profiles of a session run on the policies that its host filter is made for. -/
theorem policy_used (shuffle : List String → List String) (defaults : ExecutionProfile)
    (cluster : CassCluster) (keyspace : Option String) {profile : ExecutionProfile}
    (used : (cluster.connect shuffle defaults keyspace).config.defaultExecutionProfile =
        some profile ∨
      ∃ name, (cluster.connect shuffle defaults keyspace).execProfileMap.lookup name =
        some profile) :
    profile.loadBalancingPolicy ∈ cluster.balancing.policies := by
  rcases used with default | ⟨name, named⟩
  · cases Option.some.inj default
    exact List.mem_cons_self
  · rw [connect_lookup shuffle defaults cluster keyspace rfl, Option.map_eq_some_iff] at named
    obtain ⟨own, found, rfl⟩ := named
    have entry := List.mem_map_of_mem (AList.mem_lookup_iff.mp found)
      (f := fun entry : (_ : ExecProfileName) × CassExecProfile =>
        (entry.1.name, entry.2.loadBalancingConfig))
    refine List.mem_cons_of_mem _ (List.mem_map.mpr ⟨_, entry, ?_⟩)
    rw [build_balancing]
    rfl

/-- No request of a session is sent to a host that the session keeps away from: whatever profile it
runs on and whatever the policy below goes through, the host filter accepts every target. -/
theorem plan_targets_connected {R C : Type} (child : ChildPolicy → LoadBalancingPolicy R C)
    (cluster : CassCluster) (shuffle : List String → List String) (defaults : ExecutionProfile)
    (keyspace : Option String) (profile : ExecutionProfile)
    (used : (cluster.connect shuffle defaults keyspace).config.defaultExecutionProfile =
        some profile ∨
      ∃ name, (cluster.connect shuffle defaults keyspace).execProfileMap.lookup name =
        some profile)
    (request : RoutingInfo R) (nodes : C) (target : Target)
    (planned : profile.loadBalancingPolicy.pick child request nodes = some target ∨
      target ∈ profile.loadBalancingPolicy.fallback child request nodes) :
    ∃ filter, (cluster.connect shuffle defaults keyspace).config.hostFilter = some filter ∧
      filter.accept ⟨target.1.address, target.1.datacenter⟩ = true := by
  have allowed : profile.loadBalancingPolicy.isTargetAllowed request target = true := by
    rcases planned with picked | later
    · obtain ⟨first, -, kept⟩ := Option.bind_eq_some_iff.mp picked
      split at kept
      · rename_i passes
        exact Option.some.inj kept ▸ passes
      · contradiction
    · exact (List.mem_filter.mp later).2
  have inUse := policy_used shuffle defaults cluster keyspace used
  obtain ⟨config, member, same⟩ := policy_from_config cluster.balancing _ inUse
  have host := (Bool.and_eq_true_iff.mp allowed).1
  rw [same] at host
  exact ⟨_, rfl, accept_of_config member _ host⟩

/- A policy for one datacenter, and a node of it. -/
theorem plan_targets_connected_local :
    let cluster := configureCluster (fun _ => none) (fun _ => "") newSessionConfig
      [.loadBalancing (.config (.policy (.dcAware (.ok "dc1") 0 0)))]
    ∃ filter, (cluster.connect List.reverse newProfile none).config.hostFilter = some filter ∧
      filter.accept ⟨.v4 1#32, some "dc1"⟩ = true := by
  intro cluster
  let node : Node := ⟨0, .v4 1#32, 9042, some "dc1"⟩
  let child : ChildPolicy → LoadBalancingPolicy Unit Unit :=
    fun _ => ⟨fun _ _ => none, fun _ _ => [(node, none)]⟩
  exact plan_targets_connected child cluster List.reverse newProfile none _ (.inl rfl)
    ⟨.localOne, ()⟩ () (node, none) (.inr (by decide))

end Connecting

end CppRsDriver.Session
