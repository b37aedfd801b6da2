import CppRsDriver.Lib.Registers
import CppRsDriver.Session.Cluster

/-! The options of a cluster, one by one. -/
namespace CppRsDriver.Session

open CppRsDriver.Lib CppRsDriver.LoadBalancing CppRsDriver.Statement CppRsDriver.Uuid

attribute [ext] ExecutionProfileBuilder

inductive ClusterOption where
  | numThreadsIo
  | contactPoints
  | port
  | loadBalancing
  | latencyAwareness
  | useBetaProtocolVersion
  | credentials
  | clientId
  | shuffleContactPoints
  | applicationName
  | applicationVersion
  | fetchSchemaMetadata
  | schemaAgreementTimeout
  | schemaAgreementInterval
  | tcpNodelay
  | tcpKeepaliveInterval
  | connectTimeout
  | connectionPoolSize
  | writeCoalescing
  | keepaliveInterval
  | keepaliveTimeout
  | localIpAddress
  | shardAwareLocalPortRange
  | timestampGenerator
  | hostnameResolutionTimeout
  | reconnectPolicy
  | compression
  | tlsContext
  | metadataRequestServersideTimeout
  | hostListener
  | consistency
  | serialConsistency
  | requestTimeout
  | retryPolicy
  | speculativeExecutionPolicy
  | executionProfiles
  /-- What no call sets. -/
  | unset
  deriving DecidableEq

/-- The fields that make up an option. -/
def ClusterOption.Value : ClusterOption → Type
  | .numThreadsIo => Option Nat
  | .contactPoints => List String
  | .port => UInt16
  | .loadBalancing => LoadBalancingConfig
  | .latencyAwareness => Option LatencyAwarenessBuilder
  | .useBetaProtocolVersion => Bool
  | .credentials => Option String × Option String
  | .clientId => Option StandardUuid × Option String
  | .shuffleContactPoints => Bool
  | .applicationName => Option String
  | .applicationVersion => Option String
  | .fetchSchemaMetadata => Bool
  | .schemaAgreementTimeout => Duration
  | .schemaAgreementInterval => Duration
  | .tcpNodelay => Bool
  | .tcpKeepaliveInterval => Option Duration
  | .connectTimeout => Duration
  | .connectionPoolSize => PoolSize
  | .writeCoalescing => Bool × WriteCoalescingDelay
  | .keepaliveInterval => Option Duration
  | .keepaliveTimeout => Option Duration
  | .localIpAddress => Option IpAddr
  | .shardAwareLocalPortRange => ShardAwarePortRange
  | .timestampGenerator => Option MonotonicTimestampGenerator
  | .hostnameResolutionTimeout => Option Duration
  | .reconnectPolicy => ReconnectPolicy
  | .compression => Option Compression
  | .tlsContext => Option Nat
  | .metadataRequestServersideTimeout => Option Duration
  | .hostListener => Option HostListener
  | .consistency => Option Consistency
  | .serialConsistency => Option (Option SerialConsistency)
  | .requestTimeout => Option (Option Duration)
  | .retryPolicy => Option CassRetryPolicy
  | .speculativeExecutionPolicy => Option (Option SimpleSpeculativeExecutionPolicy)
  | .executionProfiles => AList (fun _ : ExecProfileName => CassExecProfile)
  | .unset => (List String × Option String × Option String) ×
      (Option (String × String) × Option (String × Bool)) ×
      (Option ExecutionProfile × Option CassHostFilter × Option FilteringLoadBalancingPolicy)

def CassCluster.read (c : CassCluster) : (option : ClusterOption) → option.Value
  | .numThreadsIo => c.numThreadsIo
  | .contactPoints => c.contactPoints
  | .port => c.port
  | .loadBalancing => c.loadBalancingConfig
  | .latencyAwareness => c.latencyAwarenessBuilder
  | .useBetaProtocolVersion => c.useBetaProtocolVersion
  | .credentials => (c.authUsername, c.authPassword)
  | .clientId => (c.clientId, c.sessionBuilder.identity.clientId)
  | .shuffleContactPoints => c.shuffleContactPoints
  | .applicationName => c.sessionBuilder.identity.applicationName
  | .applicationVersion => c.sessionBuilder.identity.applicationVersion
  | .fetchSchemaMetadata => c.sessionBuilder.fetchSchemaMetadata
  | .schemaAgreementTimeout => c.sessionBuilder.schemaAgreementTimeout
  | .schemaAgreementInterval => c.sessionBuilder.schemaAgreementInterval
  | .tcpNodelay => c.sessionBuilder.tcpNodelay
  | .tcpKeepaliveInterval => c.sessionBuilder.tcpKeepaliveInterval
  | .connectTimeout => c.sessionBuilder.connectTimeout
  | .connectionPoolSize => c.sessionBuilder.connectionPoolSize
  | .writeCoalescing =>
    (c.sessionBuilder.enableWriteCoalescing, c.sessionBuilder.writeCoalescingDelay)
  | .keepaliveInterval => c.sessionBuilder.keepaliveInterval
  | .keepaliveTimeout => c.sessionBuilder.keepaliveTimeout
  | .localIpAddress => c.sessionBuilder.localIpAddress
  | .shardAwareLocalPortRange => c.sessionBuilder.shardAwareLocalPortRange
  | .timestampGenerator => c.sessionBuilder.timestampGenerator
  | .hostnameResolutionTimeout => c.sessionBuilder.hostnameResolutionTimeout
  | .reconnectPolicy => c.sessionBuilder.reconnectPolicy
  | .compression => c.sessionBuilder.compression
  | .tlsContext => c.sessionBuilder.tlsContext
  | .metadataRequestServersideTimeout => c.sessionBuilder.metadataRequestServersideTimeout
  | .hostListener => c.sessionBuilder.hostListener
  | .consistency => c.defaultExecutionProfileBuilder.consistency
  | .serialConsistency => c.defaultExecutionProfileBuilder.serialConsistency
  | .requestTimeout => c.defaultExecutionProfileBuilder.requestTimeout
  | .retryPolicy => c.defaultExecutionProfileBuilder.retryPolicy
  | .speculativeExecutionPolicy => c.defaultExecutionProfileBuilder.speculativeExecutionPolicy
  | .executionProfiles => c.executionProfileMap
  | .unset =>
    ((c.sessionBuilder.knownNodes, c.sessionBuilder.identity.customDriverName,
        c.sessionBuilder.identity.customDriverVersion),
      (c.sessionBuilder.authenticator, c.sessionBuilder.keyspaceToUse),
      (c.sessionBuilder.defaultExecutionProfile, c.sessionBuilder.hostFilter,
        c.defaultExecutionProfileBuilder.loadBalancingPolicy))

/-- A cluster with another value of an option. -/
def CassCluster.write (c : CassCluster) : (option : ClusterOption) → option.Value → CassCluster
  | .numThreadsIo, v => { c with numThreadsIo := v }
  | .contactPoints, v => { c with contactPoints := v }
  | .port, v => { c with port := v }
  | .loadBalancing, v => { c with loadBalancingConfig := v }
  | .latencyAwareness, v => { c with latencyAwarenessBuilder := v }
  | .useBetaProtocolVersion, v => { c with useBetaProtocolVersion := v }
  | .credentials, v => { c with authUsername := v.1, authPassword := v.2 }
  | .clientId, v =>
    { c with clientId := v.1, sessionBuilder.identity.clientId := v.2 }
  | .shuffleContactPoints, v => { c with shuffleContactPoints := v }
  | .applicationName, v => { c with sessionBuilder.identity.applicationName := v }
  | .applicationVersion, v => { c with sessionBuilder.identity.applicationVersion := v }
  | .fetchSchemaMetadata, v => { c with sessionBuilder.fetchSchemaMetadata := v }
  | .schemaAgreementTimeout, v => { c with sessionBuilder.schemaAgreementTimeout := v }
  | .schemaAgreementInterval, v => { c with sessionBuilder.schemaAgreementInterval := v }
  | .tcpNodelay, v => { c with sessionBuilder.tcpNodelay := v }
  | .tcpKeepaliveInterval, v => { c with sessionBuilder.tcpKeepaliveInterval := v }
  | .connectTimeout, v => { c with sessionBuilder.connectTimeout := v }
  | .connectionPoolSize, v => { c with sessionBuilder.connectionPoolSize := v }
  | .writeCoalescing, v =>
    { c with
      sessionBuilder.enableWriteCoalescing := v.1
      sessionBuilder.writeCoalescingDelay := v.2 }
  | .keepaliveInterval, v => { c with sessionBuilder.keepaliveInterval := v }
  | .keepaliveTimeout, v => { c with sessionBuilder.keepaliveTimeout := v }
  | .localIpAddress, v => { c with sessionBuilder.localIpAddress := v }
  | .shardAwareLocalPortRange, v => { c with sessionBuilder.shardAwareLocalPortRange := v }
  | .timestampGenerator, v => { c with sessionBuilder.timestampGenerator := v }
  | .hostnameResolutionTimeout, v => { c with sessionBuilder.hostnameResolutionTimeout := v }
  | .reconnectPolicy, v => { c with sessionBuilder.reconnectPolicy := v }
  | .compression, v => { c with sessionBuilder.compression := v }
  | .tlsContext, v => { c with sessionBuilder.tlsContext := v }
  | .metadataRequestServersideTimeout, v =>
    { c with sessionBuilder.metadataRequestServersideTimeout := v }
  | .hostListener, v => { c with sessionBuilder.hostListener := v }
  | .consistency, v => { c with defaultExecutionProfileBuilder.consistency := v }
  | .serialConsistency, v => { c with defaultExecutionProfileBuilder.serialConsistency := v }
  | .requestTimeout, v => { c with defaultExecutionProfileBuilder.requestTimeout := v }
  | .retryPolicy, v => { c with defaultExecutionProfileBuilder.retryPolicy := v }
  | .speculativeExecutionPolicy, v =>
    { c with defaultExecutionProfileBuilder.speculativeExecutionPolicy := v }
  | .executionProfiles, v => { c with executionProfileMap := v }
  | .unset, v =>
    { c with
      sessionBuilder.knownNodes := v.1.1
      sessionBuilder.identity.customDriverName := v.1.2.1
      sessionBuilder.identity.customDriverVersion := v.1.2.2
      sessionBuilder.authenticator := v.2.1.1
      sessionBuilder.keyspaceToUse := v.2.1.2
      sessionBuilder.defaultExecutionProfile := v.2.2.1
      sessionBuilder.hostFilter := v.2.2.2.1
      defaultExecutionProfileBuilder.loadBalancingPolicy := v.2.2.2.2 }

theorem read_write_same (c : CassCluster) (option : ClusterOption) (v : option.Value) :
    (c.write option v).read option = v := by
  cases option <;> rfl

theorem read_write_other (c : CassCluster) {option other : ClusterOption} (differ : other ≠ option)
    (v : option.Value) : (c.write option v).read other = c.read other := by
  cases option <;> cases other <;> first | rfl | exact absurd rfl differ

theorem write_read (c : CassCluster) (option : ClusterOption) :
    c.write option (c.read option) = c := by
  cases option <;> rfl

theorem read_determines (c d : CassCluster) (same : ∀ option, c.read option = d.read option) :
    c = d := by
  have unset := Prod.ext_iff.mp (same .unset)
  have first := Prod.ext_iff.mp unset.1
  have drivers := Prod.ext_iff.mp first.2
  have rest := Prod.ext_iff.mp unset.2
  have given := Prod.ext_iff.mp rest.1
  have built := Prod.ext_iff.mp rest.2
  have clients := Prod.ext_iff.mp (same .clientId)
  have coalescing := Prod.ext_iff.mp (same .writeCoalescing)
  have credentials := Prod.ext_iff.mp (same .credentials)
  have identity : c.sessionBuilder.identity = d.sessionBuilder.identity :=
    SelfIdentity.ext drivers.1 drivers.2 (same .applicationName) (same .applicationVersion) clients.2
  have config : c.sessionBuilder = d.sessionBuilder :=
    SessionConfig.ext first.1 identity (same .fetchSchemaMetadata) (same .schemaAgreementTimeout)
      (same .schemaAgreementInterval) (same .tcpNodelay) (same .tcpKeepaliveInterval)
      (same .connectTimeout) (same .connectionPoolSize) coalescing.1 coalescing.2
      (same .keepaliveInterval) (same .keepaliveTimeout) (same .localIpAddress)
      (same .shardAwareLocalPortRange) (same .timestampGenerator) (same .hostnameResolutionTimeout)
      (same .reconnectPolicy) (same .compression) (same .tlsContext)
      (same .metadataRequestServersideTimeout) (same .hostListener) given.1 given.2 built.1
      (Prod.ext_iff.mp built.2).1
  have profile : c.defaultExecutionProfileBuilder = d.defaultExecutionProfileBuilder :=
    ExecutionProfileBuilder.ext (same .consistency) (same .serialConsistency) (same .requestTimeout)
      (same .retryPolicy) (same .speculativeExecutionPolicy) (Prod.ext_iff.mp built.2).2
  exact CassCluster.ext (same .numThreadsIo) config profile (same .executionProfiles)
    (same .contactPoints) (same .port) (same .loadBalancing) (same .latencyAwareness)
    (same .useBetaProtocolVersion) credentials.1 credentials.2 clients.1 (same .shuffleContactPoints)

/-- The option that a call is about. -/
def ClusterCall.concerns : ClusterCall → ClusterOption
  | .contactPoints _ => .contactPoints
  | .applicationName _ => .applicationName
  | .applicationVersion _ => .applicationVersion
  | .clientId _ => .clientId
  | .useSchema _ => .fetchSchemaMetadata
  | .useRandomizedContactPoints _ => .shuffleContactPoints
  | .tcpNodelay _ => .tcpNodelay
  | .tcpKeepalive _ _ => .tcpKeepaliveInterval
  | .timestampGen _ => .timestampGenerator
  | .connectionHeartbeatInterval _ => .keepaliveInterval
  | .connectionIdleTimeout _ => .keepaliveTimeout
  | .connectTimeout _ => .connectTimeout
  | .coreConnectionsPerHost _ => .connectionPoolSize
  | .coreConnectionsPerShard _ => .connectionPoolSize
  | .coalesceDelay _ => .writeCoalescing
  | .requestTimeout _ => .requestTimeout
  | .resolveTimeout _ => .hostnameResolutionTimeout
  | .maxSchemaWaitTime _ => .schemaAgreementTimeout
  | .schemaAgreementInterval _ => .schemaAgreementInterval
  | .port _ => .port
  | .localAddress _ => .localIpAddress
  | .localPortRange _ _ => .shardAwareLocalPortRange
  | .credentials _ _ => .credentials
  | .loadBalancing _ => .loadBalancing
  | .latencyAwareRoutingSettings .. => .latencyAwareness
  | .useBetaProtocolVersion _ => .useBetaProtocolVersion
  | .protocolVersion _ => .useBetaProtocolVersion
  | .constantSpeculativeExecutionPolicy _ _ => .speculativeExecutionPolicy
  | .noSpeculativeExecutionPolicy => .speculativeExecutionPolicy
  | .retryPolicy _ => .retryPolicy
  | .ssl _ => .tlsContext
  | .compression _ => .compression
  | .consistency _ => .consistency
  | .serialConsistency _ => .serialConsistency
  | .executionProfile _ _ => .executionProfiles
  | .constantReconnect _ => .reconnectPolicy
  | .exponentialReconnect _ _ => .reconnectPolicy
  | .numThreadsIo _ => .numThreadsIo
  | .metadataRequestServersideTimeout _ => .metadataRequestServersideTimeout
  | .hostListenerCallback _ _ => .hostListener


section Confinement
variable (fromStr : String → Option IpAddr) (uuidString : StandardUuid → String)

/-- A call puts a new value into its option, made from nothing but the old one. -/
def Rewrites (apply : CassCluster → CassCluster) (option : ClusterOption) : Prop :=
  ∃ f : option.Value → option.Value, ∀ c, apply c = c.write option (f (c.read option))

theorem rewrites_constant {apply : CassCluster → CassCluster} {option : ClusterOption}
    (v : option.Value) (is : ∀ c, apply c = c.write option v) : Rewrites apply option :=
  ⟨fun _ => v, is⟩

theorem rewrites_nothing {apply : CassCluster → CassCluster} (option : ClusterOption)
    (is : ∀ c, apply c = c) : Rewrites apply option :=
  ⟨id, fun c => (is c).trans (write_read c option).symm⟩

theorem setCoreConnections_rewrites (size : NonZero → PoolSize) (numConnections : UInt32) :
    Rewrites (fun c => (c.setCoreConnections size numConnections).2) .connectionPoolSize := by
  simp only [CassCluster.setCoreConnections]
  cases NonZero.new numConnections.toNat with
  | none => exact rewrites_nothing _ (fun _ => rfl)
  | some connections => exact rewrites_constant _ (fun _ => rfl)

/- Without coalescing the delay stays what it was. -/
theorem setCoalesceDelay_rewrites (delayUs : Int64) :
    Rewrites (fun c => (c.setCoalesceDelay delayUs).2) .writeCoalescing := by
  simp only [CassCluster.setCoalesceDelay]
  split
  · exact rewrites_nothing _ (fun _ => rfl)
  · split
    · exact ⟨fun coalescing : Bool × WriteCoalescingDelay => (false, coalescing.2), fun _ => rfl⟩
    · exact rewrites_constant (true, _) (fun _ => rfl)

theorem setLocalAddress_rewrites (ip : CassStr) :
    Rewrites (fun c => (c.setLocalAddress fromStr ip).2) .localIpAddress := by
  simp only [CassCluster.setLocalAddress]
  split
  · split
    · exact rewrites_constant _ (fun _ => rfl)
    · split
      · exact rewrites_constant _ (fun _ => rfl)
      · exact rewrites_nothing _ (fun _ => rfl)
  · exact rewrites_constant _ (fun _ => rfl)
  · exact rewrites_nothing _ (fun _ => rfl)

theorem setExecutionProfile_rewrites (name : CassStr) (profile : Option CassExecProfile) :
    Rewrites (fun c => (c.setExecutionProfile name profile).2) .executionProfiles := by
  simp only [CassCluster.setExecutionProfile]
  split
  · split
    · rename_i profile _ _ name _
      exact ⟨fun map : AList _ => map.insert name profile, fun _ => rfl⟩
    · exact rewrites_nothing _ (fun _ => rfl)
  · exact rewrites_nothing _ (fun _ => rfl)

theorem call_rewrites (call : ClusterCall) :
    Rewrites (fun c => (call.apply fromStr uuidString c).2) call.concerns := by
  cases call with
  | contactPoints points =>
    refine ⟨fun list : List String =>
      (updateCommaDelimitedList CassCluster.nonemptyContactPoint list points).toOption.getD list, ?_⟩
    intro c
    simp only [ClusterCall.apply, CassCluster.setContactPoints]
    split
    · rename_i list is
      simp [ClusterCall.concerns, CassCluster.write, CassCluster.read, is, Except.toOption]
    · rename_i e is
      simp [ClusterCall.concerns, CassCluster.write, CassCluster.read, is, Except.toOption]
  | applicationName appName =>
    cases appName with
    | ok name => exact rewrites_constant _ (fun _ => rfl)
    | error e => exact rewrites_nothing _ (fun _ => rfl)
  | applicationVersion appVersion =>
    cases appVersion with
    | ok version => exact rewrites_constant _ (fun _ => rfl)
    | error e => exact rewrites_nothing _ (fun _ => rfl)
  | clientId id =>
    exact rewrites_constant (some id.toUuid, some (uuidString id.toUuid)) (fun _ => rfl)
  | timestampGen generator =>
    cases generator with
    | none => exact rewrites_nothing _ (fun _ => rfl)
    | some generator => cases generator <;> exact rewrites_constant _ (fun _ => rfl)
  | coreConnectionsPerHost numConnections =>
    exact setCoreConnections_rewrites .perHost numConnections
  | coreConnectionsPerShard numConnections =>
    exact setCoreConnections_rewrites .perShard numConnections
  | coalesceDelay delayUs => exact setCoalesceDelay_rewrites delayUs
  | port number =>
    simp only [ClusterCall.apply, CassCluster.setPort]
    cases CassCluster.tryIntoU16 number.toInt with
    | none => exact rewrites_nothing _ (fun _ => rfl)
    | some port => exact ⟨fun _ => port, fun _ => rfl⟩
  | localAddress ip => exact setLocalAddress_rewrites fromStr ip
  | localPortRange lo hi =>
    simp only [ClusterCall.apply, CassCluster.setLocalPortRange]
    cases CassCluster.computeRangeFromRaw lo hi with
    | none => exact rewrites_nothing _ (fun _ => rfl)
    | some range => exact rewrites_constant _ (fun _ => rfl)
  | credentials username password =>
    cases username with
    | error e => exact rewrites_nothing _ (fun _ => rfl)
    | ok username =>
      cases password with
      | error e => exact rewrites_nothing _ (fun _ => rfl)
      | ok password => exact rewrites_constant (some username, some password) (fun _ => rfl)
  | loadBalancing call => exact ⟨fun config => (call.apply fromStr config).2, fun _ => rfl⟩
  | protocolVersion version => exact rewrites_nothing _ (fun _ => rfl)
  | constantSpeculativeExecutionPolicy constantDelayMs maxSpeculativeExecutions =>
    simp only [ClusterCall.apply, CassCluster.setConstantSpeculativeExecutionPolicy]
    split
    · exact rewrites_nothing _ (fun _ => rfl)
    · exact rewrites_constant _ (fun _ => rfl)
  | retryPolicy policy =>
    cases policy with
    | none => exact rewrites_nothing _ (fun _ => rfl)
    | some policy => exact rewrites_constant _ (fun _ => rfl)
  | ssl context =>
    cases context with
    | none => exact rewrites_nothing _ (fun _ => rfl)
    | some context => exact rewrites_constant _ (fun _ => rfl)
  | consistency value =>
    simp only [ClusterCall.apply, CassCluster.setConsistency]
    split
    · exact rewrites_constant _ (fun _ => rfl)
    · exact rewrites_nothing _ (fun _ => rfl)
    · exact rewrites_nothing _ (fun _ => rfl)
  | serialConsistency value =>
    simp only [ClusterCall.apply, CassCluster.setSerialConsistency]
    split
    · exact rewrites_constant _ (fun _ => rfl)
    · exact rewrites_nothing _ (fun _ => rfl)
    · exact rewrites_nothing _ (fun _ => rfl)
  | executionProfile name profile => exact setExecutionProfile_rewrites name profile
  | exponentialReconnect baseDelayMs maxDelayMs =>
    simp only [ClusterCall.apply, CassCluster.setExponentialReconnect]
    split
    · exact rewrites_nothing _ (fun _ => rfl)
    · split
      · exact rewrites_nothing _ (fun _ => rfl)
      · split
        · exact rewrites_nothing _ (fun _ => rfl)
        · exact rewrites_constant _ (fun _ => rfl)
  | _ => exact rewrites_constant _ (fun _ => rfl)

theorem calls_confined :
    Confined CassCluster.read (fun c call => (ClusterCall.apply fromStr uuidString c call).2)
      ClusterCall.concerns where
  frame := by
    intro c call option other
    obtain ⟨f, is⟩ := call_rewrites fromStr uuidString call
    dsimp only at is ⊢
    rw [is c, read_write_other c other]
  own := by
    intro c d call same
    obtain ⟨f, is⟩ := call_rewrites fromStr uuidString call
    dsimp only at is ⊢
    rw [is c, is d, read_write_same, read_write_same, same]

/-- A call with an error leaves the cluster as it was. -/
def Refuses (cluster : CassCluster) (done : Option CassError × CassCluster) : Prop :=
  ∀ code, done.1 = some code → code ≠ .ok → done.2 = cluster

variable {cluster after : CassCluster}

theorem refuses_void : Refuses cluster (none, after) := by
  intro code returned
  contradiction

theorem refuses_ok : Refuses cluster (some .ok, after) := by
  intro code returned refused
  exact absurd (Option.some.inj returned).symm refused

theorem refuses_unchanged (code : Option CassError) : Refuses cluster (code, cluster) :=
  fun _ _ _ => rfl

theorem policy_refused (policy : PolicyCall) (config : LoadBalancingConfig)
    (refused : (policy.apply config).1 ≠ .ok) : (policy.apply config).2 = config := by
  cases policy with
  | roundRobin => exact absurd rfl refused
  | dcAware localDc usedHostsPerRemoteDc allowRemoteDcsForLocalCl =>
    simp only [PolicyCall.apply, setLoadBalanceDcAware] at refused ⊢
    split
    · rfl
    · split
      · rfl
      · rename_i named
        simp [named] at refused
  | rackAware localDc localRack =>
    simp only [PolicyCall.apply, setLoadBalanceRackAware] at refused ⊢
    split
    · split
      · rename_i named
        simp [named] at refused
      · rfl
    · rfl

theorem setLoadBalancing_refuses (call : LoadBalancingCall) :
    Refuses cluster (cluster.setLoadBalancing fromStr call) := by
  have policy : ∀ policy : PolicyCall,
      Refuses cluster (some (policy.apply cluster.loadBalancingConfig).1,
        { cluster with loadBalancingConfig := (policy.apply cluster.loadBalancingConfig).2 }) := by
    intro policy code returned refused
    rw [← Option.some.inj returned] at refused
    exact congrArg (fun config => { cluster with loadBalancingConfig := config })
      (policy_refused policy _ refused)
  simp only [CassCluster.setLoadBalancing]
  split
  · exact policy (.dcAware ..)
  · exact policy (.rackAware ..)
  · exact refuses_void

theorem call_refuses (call : ClusterCall) :
    Refuses cluster (call.apply fromStr uuidString cluster) := by
  cases call with
  | contactPoints points =>
    simp only [ClusterCall.apply, CassCluster.setContactPoints]
    split
    · exact refuses_ok
    · exact refuses_unchanged _
  | coreConnectionsPerHost numConnections | coreConnectionsPerShard numConnections =>
    simp only [ClusterCall.apply, CassCluster.setCoreConnectionsPerHost,
      CassCluster.setCoreConnectionsPerShard, CassCluster.setCoreConnections]
    split
    · exact refuses_ok
    · exact refuses_unchanged _
  | coalesceDelay delayUs =>
    simp only [ClusterCall.apply, CassCluster.setCoalesceDelay]
    split
    · exact refuses_unchanged _
    · split <;> exact refuses_ok
  | port number =>
    simp only [ClusterCall.apply, CassCluster.setPort]
    split
    · exact refuses_ok
    · exact refuses_unchanged _
  | localAddress ip =>
    simp only [ClusterCall.apply, CassCluster.setLocalAddress]
    split
    · split
      · exact refuses_ok
      · split
        · exact refuses_ok
        · exact refuses_unchanged _
    · exact refuses_ok
    · exact refuses_unchanged _
  | localPortRange lo hi =>
    simp only [ClusterCall.apply, CassCluster.setLocalPortRange]
    split
    · exact refuses_ok
    · exact refuses_unchanged _
  | loadBalancing call => exact setLoadBalancing_refuses fromStr call
  | protocolVersion version => exact refuses_unchanged _
  | constantSpeculativeExecutionPolicy constantDelayMs maxSpeculativeExecutions =>
    simp only [ClusterCall.apply, CassCluster.setConstantSpeculativeExecutionPolicy]
    split
    · exact refuses_unchanged _
    · exact refuses_ok
  | consistency value =>
    simp only [ClusterCall.apply, CassCluster.setConsistency]
    split
    · exact refuses_ok
    · exact refuses_unchanged _
    · exact refuses_unchanged _
  | serialConsistency value =>
    simp only [ClusterCall.apply, CassCluster.setSerialConsistency]
    split
    · exact refuses_ok
    · exact refuses_unchanged _
    · exact refuses_unchanged _
  | executionProfile name profile =>
    simp only [ClusterCall.apply, CassCluster.setExecutionProfile]
    split
    · split
      · exact refuses_ok
      · exact refuses_unchanged _
    · exact refuses_unchanged _
  | exponentialReconnect baseDelayMs maxDelayMs =>
    simp only [ClusterCall.apply, CassCluster.setExponentialReconnect]
    split
    · exact refuses_unchanged _
    · split
      · exact refuses_unchanged _
      · split
        · exact refuses_unchanged _
        · exact refuses_ok
  | _ => first | exact refuses_void | exact refuses_ok

/-- Every option of a cluster depends on the calls about it alone: the order of calls about
different options makes no difference to what a session is connected with. A call that returns an
error has changed nothing. -/
theorem cluster_options_independent (rust : SessionConfig) (calls : List ClusterCall) :
    (∀ option, (configureCluster fromStr uuidString rust calls).read option =
      (configureCluster fromStr uuidString rust
        (calls.filter (fun call => call.concerns = option))).read option) ∧
    (∀ others : List ClusterCall,
      (∀ option, calls.filter (fun call => call.concerns = option) =
        others.filter (fun call => call.concerns = option)) →
      ∀ shuffle defaults keyspace,
        (configureCluster fromStr uuidString rust calls).connect shuffle defaults keyspace =
          (configureCluster fromStr uuidString rust others).connect shuffle defaults keyspace) ∧
    ∀ call cluster code, (ClusterCall.apply fromStr uuidString cluster call).1 = some code →
      code ≠ .ok → (ClusterCall.apply fromStr uuidString cluster call).2 = cluster := by
  have confined := calls_confined fromStr uuidString
  refine ⟨?_, ?_, ?_⟩
  · intro option
    exact confined.read_foldl calls rfl
  · intro others alike shuffle defaults keyspace
    have same : configureCluster fromStr uuidString rust calls =
        configureCluster fromStr uuidString rust others :=
      confined.foldl_eq read_determines _ alike
    rw [same]
  · intro call cluster code returned refused
    exact call_refuses fromStr uuidString call code returned refused

end Confinement

end CppRsDriver.Session
