import CppRsDriver.Session.ExecProfile
import CppRsDriver.Session.ProfileBuilder
import CppRsDriver.Uuid.Conversion
import Mathlib.Data.List.AList

/-! The configuration of a cluster: the calls that set its options, and what a session is
connected with. The Rust driver's own defaults are given. -/
namespace CppRsDriver.Session

open CppRsDriver.LoadBalancing CppRsDriver.Statement CppRsDriver.Uuid

abbrev NonZero := { n : Nat // 0 < n }

def NonZero.new (n : Nat) : Option NonZero := if positive : 0 < n then some ⟨n, positive⟩ else none

inductive PoolSize where
  | perHost (connections : NonZero)
  | perShard (connections : NonZero)
  deriving DecidableEq

inductive WriteCoalescingDelay where
  | smallNondeterministic
  | milliseconds (delay : NonZero)
  deriving DecidableEq

/-- Ports that connections to shards start from, both ends included. -/
structure ShardAwarePortRange where
  first : UInt16
  last : UInt16
  unreserved : 1024 ≤ first
  nonempty : first ≤ last
  deriving DecidableEq

namespace ShardAwarePortRange

def new (first last : UInt16) : Option ShardAwarePortRange :=
  if valid : 1024 ≤ first ∧ first ≤ last then some ⟨first, last, valid.1, valid.2⟩ else none

def ephemeralPortRange : ShardAwarePortRange := ⟨49152, 65535, by decide, by decide⟩

end ShardAwarePortRange

inductive ReconnectPolicy where
  /-- What a session builder starts with. -/
  | rustDefault
  | constant (waitTime : Duration)
  | exponential (baseDelay maxDelay : Duration)
  deriving DecidableEq, Repr

inductive MonotonicTimestampGenerator where
  | ofCluster
  | ofClient (generator : Nat)
  deriving DecidableEq, Repr

inductive CassTimestampGen where
  | serverSide
  | monotonic (generator : MonotonicTimestampGenerator)
  deriving DecidableEq, Repr

inductive Compression where
  | lz4
  | snappy
  deriving DecidableEq, Repr

inductive CassCompressionType where
  | none
  | snappy
  | lz4
  | other (value : UInt32)
  deriving DecidableEq, Repr

@[ext] structure SelfIdentity where
  customDriverName : Option String := none
  customDriverVersion : Option String := none
  applicationName : Option String := none
  applicationVersion : Option String := none
  clientId : Option String := none
  deriving DecidableEq, Repr

/-- A callback of the client, with its data. -/
structure HostListener where
  callback : Nat
  data : Nat
  deriving DecidableEq, Repr

/-- `LatencyAwarenessBuilder`; the threshold is the bits of a double. -/
structure LatencyAwarenessBuilder where
  exclusionThreshold : BitVec 64
  scale : Duration
  retryPeriod : Duration
  updateRate : Duration
  minimumMeasurements : Nat
  deriving DecidableEq, Repr

/-- The configuration in a session builder of the Rust driver, as far as this driver sets it. -/
@[ext] structure SessionConfig where
  knownNodes : List String
  identity : SelfIdentity
  fetchSchemaMetadata : Bool
  schemaAgreementTimeout : Duration
  schemaAgreementInterval : Duration
  tcpNodelay : Bool
  tcpKeepaliveInterval : Option Duration
  connectTimeout : Duration
  connectionPoolSize : PoolSize
  enableWriteCoalescing : Bool
  writeCoalescingDelay : WriteCoalescingDelay
  keepaliveInterval : Option Duration
  keepaliveTimeout : Option Duration
  localIpAddress : Option IpAddr
  shardAwareLocalPortRange : ShardAwarePortRange
  timestampGenerator : Option MonotonicTimestampGenerator
  hostnameResolutionTimeout : Option Duration
  reconnectPolicy : ReconnectPolicy
  compression : Option Compression
  /-- A context of OpenSSL. -/
  tlsContext : Option Nat
  metadataRequestServersideTimeout : Option Duration
  hostListener : Option HostListener
  authenticator : Option (String × String)
  /-- The keyspace, and whether its name is case-sensitive. -/
  keyspaceToUse : Option (String × Bool)
  defaultExecutionProfile : Option ExecutionProfile
  hostFilter : Option CassHostFilter

@[ext] structure CassCluster where
  numThreadsIo : Option Nat
  sessionBuilder : SessionConfig
  defaultExecutionProfileBuilder : ExecutionProfileBuilder
  executionProfileMap : AList (fun _ : ExecProfileName => CassExecProfile)
  contactPoints : List String
  port : UInt16
  loadBalancingConfig : LoadBalancingConfig
  /-- The part of the load balancing configuration that only the Rust driver reads. -/
  latencyAwarenessBuilder : Option LatencyAwarenessBuilder
  useBetaProtocolVersion : Bool
  authUsername : Option String
  authPassword : Option String
  clientId : Option StandardUuid
  shuffleContactPoints : Bool

def millis (n : Nat) : Duration := n * 10 ^ 6

def secs (n : Nat) : Duration := n * 10 ^ 9

/-- `cass_cluster_new`; `rust` is the configuration of a new session builder. -/
def cassClusterNew (rust : SessionConfig) : CassCluster where
  numThreadsIo := none
  sessionBuilder :=
    { rust with
      identity :=
        { customDriverName := some "ScyllaDB CPP RS Driver", customDriverVersion := some "1.1.3" }
      fetchSchemaMetadata := true
      schemaAgreementTimeout := millis 10000
      schemaAgreementInterval := millis 200
      tcpNodelay := true
      tcpKeepaliveInterval := some (secs 2)
      connectTimeout := millis 5000
      connectionPoolSize := .perShard ⟨1, Nat.one_pos⟩
      enableWriteCoalescing := true
      writeCoalescingDelay := .smallNondeterministic
      keepaliveInterval := some (secs 30)
      keepaliveTimeout := some (secs 60)
      localIpAddress := none
      shardAwareLocalPortRange := .ephemeralPortRange
      timestampGenerator := some .ofCluster
      hostnameResolutionTimeout := some (millis 2000) }
  defaultExecutionProfileBuilder :=
    { consistency := some defaultConsistency
      serialConsistency := some (some .localSerial)
      requestTimeout := some (some (millis 12000))
      retryPolicy := some .default
      speculativeExecutionPolicy := some none }
  executionProfileMap := ∅
  contactPoints := []
  port := 9042
  loadBalancingConfig := {}
  latencyAwarenessBuilder := none
  useBetaProtocolVersion := false
  authUsername := none
  authPassword := none
  clientId := none
  shuffleContactPoints := true

/-- The calls that set options of a cluster; a null pointer is `none`, or an error of the string. -/
inductive ClusterCall where
  | contactPoints (contactPoints : CassStr)
  | applicationName (appName : CassStr)
  | applicationVersion (appVersion : CassStr)
  | clientId (clientId : CassUuid)
  | useSchema (enabled : UInt32)
  | useRandomizedContactPoints (enabled : UInt32)
  | tcpNodelay (enabled : UInt32)
  | tcpKeepalive (enabled delaySecs : UInt32)
  | timestampGen (timestampGen : Option CassTimestampGen)
  | connectionHeartbeatInterval (intervalSecs : UInt32)
  | connectionIdleTimeout (timeoutSecs : UInt32)
  | connectTimeout (timeoutMs : UInt32)
  | coreConnectionsPerHost (numConnections : UInt32)
  | coreConnectionsPerShard (numConnections : UInt32)
  | coalesceDelay (delayUs : Int64)
  | requestTimeout (timeoutMs : UInt32)
  | resolveTimeout (timeoutMs : UInt32)
  | maxSchemaWaitTime (waitTimeMs : UInt32)
  | schemaAgreementInterval (intervalMs : UInt32)
  | port (port : Int32)
  | localAddress (ip : CassStr)
  | localPortRange (lo hi : Int32)
  | credentials (username password : CassStr)
  | loadBalancing (call : LoadBalancingCall)
  | latencyAwareRoutingSettings (exclusionThreshold : BitVec 64)
      (scaleMs retryPeriodMs updateRateMs minMeasured : UInt64)
  | useBetaProtocolVersion (enable : UInt32)
  | protocolVersion (protocolVersion : Int32)
  | constantSpeculativeExecutionPolicy (constantDelayMs : Int64) (maxSpeculativeExecutions : Int32)
  | noSpeculativeExecutionPolicy
  | retryPolicy (policy : Option CassRetryPolicy)
  | ssl (ssl : Option Nat)
  | compression (compressionType : CassCompressionType)
  | consistency (consistency : CassConsistency)
  | serialConsistency (serialConsistency : CassConsistency)
  | executionProfile (name : CassStr) (profile : Option CassExecProfile)
  | constantReconnect (waitTimeMs : UInt64)
  | exponentialReconnect (baseDelayMs maxDelayMs : UInt64)
  | numThreadsIo (numThreads : UInt32)
  | metadataRequestServersideTimeout (timeoutMs : UInt64)
  | hostListenerCallback (callback : Option Nat) (data : Nat)

namespace CassCluster
variable (cluster : CassCluster)

/-- Changes of the configuration in the session builder. -/
def configured (change : SessionConfig → SessionConfig) : CassCluster :=
  { cluster with sessionBuilder := change cluster.sessionBuilder }

def profiled (change : ExecutionProfileBuilder → ExecutionProfileBuilder) : CassCluster :=
  { cluster with
    defaultExecutionProfileBuilder :=
      execProfileBuilderModify cluster.defaultExecutionProfileBuilder change }

/-- A timeout, where zero stands for none. -/
def nonzeroMillis (n : Nat) : Option Duration := if 0 < n then some (millis n) else none

def nonzeroSecs (n : Nat) : Option Duration := if 0 < n then some (secs n) else none

def nonemptyContactPoint (s : String) : Option String := if s = "" then none else some s

def setContactPoints (contactPoints : CassStr) : Option CassError × CassCluster :=
  match updateCommaDelimitedList nonemptyContactPoint cluster.contactPoints contactPoints with
  | .ok list => (some .ok, { cluster with contactPoints := list })
  | .error e => (some e, cluster)

def setApplicationName (appName : CassStr) : CassCluster :=
  match appName with
  | .ok appName =>
    cluster.configured (fun config =>
      { config with identity := { config.identity with applicationName := some appName } })
  | .error _ => cluster

def setApplicationVersion (appVersion : CassStr) : CassCluster :=
  match appVersion with
  | .ok appVersion =>
    cluster.configured (fun config =>
      { config with identity := { config.identity with applicationVersion := some appVersion } })
  | .error _ => cluster

/-- `uuidString` is the `Display` of a UUID. -/
def setClientId (uuidString : StandardUuid → String) (clientId : CassUuid) : CassCluster :=
  let clientUuid := clientId.toUuid
  let clientUuidStr := uuidString clientUuid
  let cluster := { cluster with clientId := some clientUuid }
  cluster.configured (fun config =>
    { config with identity := { config.identity with clientId := some clientUuidStr } })

def setTcpKeepalive (enabled delaySecs : UInt32) : CassCluster :=
  cluster.configured (fun config =>
    { config with
      tcpKeepaliveInterval := if enabled ≠ 0 then some (secs delaySecs.toNat) else none })

def setTimestampGen : Option CassTimestampGen → CassCluster
  | some .serverSide => cluster.configured (fun config => { config with timestampGenerator := none })
  | some (.monotonic generator) =>
    cluster.configured (fun config => { config with timestampGenerator := some generator })
  | none => cluster

/-- The shape that the two setters of the pool size share. -/
def setCoreConnections (size : NonZero → PoolSize) (numConnections : UInt32) :
    Option CassError × CassCluster :=
  match NonZero.new numConnections.toNat with
  | some nonZeroConns =>
    (some .ok,
      cluster.configured (fun config => { config with connectionPoolSize := size nonZeroConns }))
  | none => (some .libBadParams, cluster)

def setCoreConnectionsPerHost := cluster.setCoreConnections .perHost

def setCoreConnectionsPerShard := cluster.setCoreConnections .perShard

def setCoalesceDelay (delayUs : Int64) : Option CassError × CassCluster :=
  if delayUs < 0 then (some .libBadParams, cluster)
  else if delayUs = 0 then
    (some .ok, cluster.configured (fun config => { config with enableWriteCoalescing := false }))
  else
    let delay :=
      match NonZero.new (delayUs.toInt.toNat / 1000) with
      | some nonZeroDelay => .milliseconds nonZeroDelay
      | none => .smallNondeterministic
    (some .ok,
      cluster.configured (fun config =>
        { config with enableWriteCoalescing := true, writeCoalescingDelay := delay }))

/-- `u16::try_from`. -/
def tryIntoU16 (n : Int) : Option UInt16 :=
  if 0 ≤ n ∧ n < 2 ^ 16 then some (UInt16.ofNat n.toNat) else none

def setPort (port : Int32) : Option CassError × CassCluster :=
  match tryIntoU16 port.toInt with
  | some port => (some .ok, { cluster with port := port })
  | none => (some .libBadParams, cluster)

def setLocalAddress (fromStr : String → Option IpAddr) (ip : CassStr) :
    Option CassError × CassCluster :=
  let set (localAddr : Option IpAddr) : Option CassError × CassCluster :=
    (some .ok, cluster.configured (fun config => { config with localIpAddress := localAddr }))
  match ip with
  | .ok ip =>
    if ip = "" then set none
    else
      match fromStr ip with
      | some addr => set (some addr)
      | none => (some .libBadParams, cluster)
  | .error .nullPointer => set none
  | .error .invalidUtf8 => (some .libBadParams, cluster)

/-- The upper bound is excluded in C and included in the Rust driver. -/
def computeRangeFromRaw (lo hi : Int32) : Option ShardAwarePortRange := do
  let start ← tryIntoU16 lo.toInt
  let last ← tryIntoU16 (hi.toInt - 1)
  ShardAwarePortRange.new start last

def setLocalPortRange (lo hi : Int32) : Option CassError × CassCluster :=
  match computeRangeFromRaw lo hi with
  | some range =>
    (some .ok,
      cluster.configured (fun config => { config with shardAwareLocalPortRange := range }))
  | none => (some .libBadParams, cluster)

def setCredentials (username password : CassStr) : CassCluster :=
  match username, password with
  | .ok username, .ok password =>
    { cluster with authUsername := some username, authPassword := some password }
  | _, _ => cluster

/-- The setters for a policy that can be turned away return a code, the others none. -/
def setLoadBalancing (fromStr : String → Option IpAddr) (call : LoadBalancingCall) :
    Option CassError × CassCluster :=
  let (code, config) := call.apply fromStr cluster.loadBalancingConfig
  let code :=
    match call with
    | .config (.policy (.dcAware ..)) | .config (.policy (.rackAware ..)) => some code
    | _ => none
  (code, { cluster with loadBalancingConfig := config })

/-- Nothing is set: version 4 is accepted, unless a beta version was asked for. -/
def setProtocolVersion (protocolVersion : Int32) : CassError :=
  if protocolVersion = 4 ∧ !cluster.useBetaProtocolVersion then .ok else .libBadParams

def setConstantSpeculativeExecutionPolicy (constantDelayMs : Int64)
    (maxSpeculativeExecutions : Int32) : Option CassError × CassCluster :=
  if constantDelayMs < 0 ∨ maxSpeculativeExecutions < 0 then (some .libBadParams, cluster)
  else
    let policy : SimpleSpeculativeExecutionPolicy :=
      { maxRetryCount := maxSpeculativeExecutions.toInt.toNat
        retryInterval := millis constantDelayMs.toInt.toNat }
    (some .ok,
      cluster.profiled (fun builder =>
        { builder with speculativeExecutionPolicy := some (some policy) }))

def setRetryPolicy (policy : Option CassRetryPolicy) : CassCluster :=
  match retryPolicyFromCValue policy with
  | .set retryPolicy =>
    cluster.profiled (fun builder => { builder with retryPolicy := some retryPolicy })
  | .unset => cluster

def setSsl : Option Nat → CassCluster
  | some context => cluster.configured (fun config => { config with tlsContext := some context })
  | none => cluster

def setCompression (compressionType : CassCompressionType) : CassCluster :=
  let compression :=
    match compressionType with
    | .lz4 => some .lz4
    | .snappy => some .snappy
    | .none => none
    | .other _ => none
  cluster.configured (fun config => { config with compression := compression })

def setConsistency (consistency : CassConsistency) : Option CassError × CassCluster :=
  match Consistency.fromCValue consistency with
  | some (.set consistency) =>
    (some .ok, cluster.profiled (fun builder => { builder with consistency := some consistency }))
  | some .unset => (some .libBadParams, cluster)
  | none => (some .libBadParams, cluster)

def setSerialConsistency (serialConsistency : CassConsistency) : Option CassError × CassCluster :=
  match SerialConsistency.fromCValue serialConsistency with
  | some (.set serialConsistency) =>
    (some .ok,
      cluster.profiled (fun builder =>
        { builder with serialConsistency := some serialConsistency }))
  | some .unset => (some .libBadParams, cluster)
  | none => (some .libBadParams, cluster)

def setExecutionProfile (name : CassStr) (profile : Option CassExecProfile) :
    Option CassError × CassCluster :=
  match profile, name with
  | some profile, .ok name =>
    match ExecProfileName.tryFrom name with
    | some name =>
      (some .ok,
        { cluster with executionProfileMap := cluster.executionProfileMap.insert name profile })
    | none => (some .libBadParams, cluster)
  | _, _ => (some .libBadParams, cluster)

def setExponentialReconnect (baseDelayMs maxDelayMs : UInt64) : Option CassError × CassCluster :=
  if baseDelayMs ≤ 1 then (some .libBadParams, cluster)
  else if maxDelayMs ≤ 1 then (some .libBadParams, cluster)
  else if maxDelayMs < baseDelayMs then (some .libBadParams, cluster)
  else
    (some .ok,
      cluster.configured (fun config =>
        { config with
          reconnectPolicy := .exponential (millis baseDelayMs.toNat) (millis maxDelayMs.toNat) }))

end CassCluster

section Calls
variable (fromStr : String → Option IpAddr) (uuidString : StandardUuid → String)

/-- The code a call returns, if it returns one, and the cluster it leaves. -/
def ClusterCall.apply (cluster : CassCluster) : ClusterCall → Option CassError × CassCluster
  | .contactPoints points => cluster.setContactPoints points
  | .applicationName appName => (none, cluster.setApplicationName appName)
  | .applicationVersion appVersion => (none, cluster.setApplicationVersion appVersion)
  | .clientId id => (none, cluster.setClientId uuidString id)
  | .useSchema enabled =>
    (none, cluster.configured (fun config =>
      { config with fetchSchemaMetadata := decide (enabled ≠ 0) }))
  | .useRandomizedContactPoints enabled =>
    (some .ok, { cluster with shuffleContactPoints := decide (enabled = 1) })
  | .tcpNodelay enabled =>
    (none, cluster.configured (fun config => { config with tcpNodelay := decide (enabled ≠ 0) }))
  | .tcpKeepalive enabled delaySecs => (none, cluster.setTcpKeepalive enabled delaySecs)
  | .timestampGen generator => (none, cluster.setTimestampGen generator)
  | .connectionHeartbeatInterval intervalSecs =>
    (none, cluster.configured (fun config =>
      { config with keepaliveInterval := CassCluster.nonzeroSecs intervalSecs.toNat }))
  | .connectionIdleTimeout timeoutSecs =>
    (none, cluster.configured (fun config =>
      { config with keepaliveTimeout := CassCluster.nonzeroSecs timeoutSecs.toNat }))
  | .connectTimeout timeoutMs =>
    (none, cluster.configured (fun config =>
      { config with connectTimeout := millis timeoutMs.toNat }))
  | .coreConnectionsPerHost numConnections => cluster.setCoreConnectionsPerHost numConnections
  | .coreConnectionsPerShard numConnections => cluster.setCoreConnectionsPerShard numConnections
  | .coalesceDelay delayUs => cluster.setCoalesceDelay delayUs
  | .requestTimeout timeoutMs =>
    (none, cluster.profiled (fun builder =>
      { builder with requestTimeout := some (CassCluster.nonzeroMillis timeoutMs.toNat) }))
  | .resolveTimeout timeoutMs =>
    (none, cluster.configured (fun config =>
      { config with hostnameResolutionTimeout := CassCluster.nonzeroMillis timeoutMs.toNat }))
  | .maxSchemaWaitTime waitTimeMs =>
    (none, cluster.configured (fun config =>
      { config with schemaAgreementTimeout := millis waitTimeMs.toNat }))
  | .schemaAgreementInterval intervalMs =>
    (none, cluster.configured (fun config =>
      { config with schemaAgreementInterval := millis intervalMs.toNat }))
  | .port number => cluster.setPort number
  | .localAddress ip => cluster.setLocalAddress fromStr ip
  | .localPortRange lo hi => cluster.setLocalPortRange lo hi
  | .credentials username password => (none, cluster.setCredentials username password)
  | .loadBalancing call => cluster.setLoadBalancing fromStr call
  | .latencyAwareRoutingSettings exclusionThreshold scaleMs retryPeriodMs updateRateMs minMeasured =>
    (none, { cluster with
      latencyAwarenessBuilder := some
        { exclusionThreshold := exclusionThreshold
          scale := millis scaleMs.toNat
          retryPeriod := millis retryPeriodMs.toNat
          updateRate := millis updateRateMs.toNat
          minimumMeasurements := minMeasured.toNat } })
  | .useBetaProtocolVersion enable =>
    (some .ok, { cluster with useBetaProtocolVersion := decide (enable = 1) })
  | .protocolVersion version => (some (cluster.setProtocolVersion version), cluster)
  | .constantSpeculativeExecutionPolicy constantDelayMs maxSpeculativeExecutions =>
    cluster.setConstantSpeculativeExecutionPolicy constantDelayMs maxSpeculativeExecutions
  | .noSpeculativeExecutionPolicy =>
    (some .ok, cluster.profiled (fun builder =>
      { builder with speculativeExecutionPolicy := some none }))
  | .retryPolicy policy => (none, cluster.setRetryPolicy policy)
  | .ssl context => (none, cluster.setSsl context)
  | .compression compressionType => (none, cluster.setCompression compressionType)
  | .consistency value => cluster.setConsistency value
  | .serialConsistency value => cluster.setSerialConsistency value
  | .executionProfile name profile => cluster.setExecutionProfile name profile
  | .constantReconnect waitTimeMs =>
    (none, cluster.configured (fun config =>
      { config with reconnectPolicy := .constant (millis waitTimeMs.toNat) }))
  | .exponentialReconnect baseDelayMs maxDelayMs =>
    cluster.setExponentialReconnect baseDelayMs maxDelayMs
  | .numThreadsIo numThreads => (some .ok, { cluster with numThreadsIo := some numThreads.toNat })
  | .metadataRequestServersideTimeout timeoutMs =>
    (none, cluster.configured (fun config =>
      { config with
        metadataRequestServersideTimeout := CassCluster.nonzeroMillis timeoutMs.toNat }))
  | .hostListenerCallback callback data =>
    (some .ok, cluster.configured (fun config =>
      { config with hostListener := callback.map (fun cb => ⟨cb, data⟩) }))

/-- A new cluster after some calls. -/
def configureCluster (rust : SessionConfig) (calls : List ClusterCall) : CassCluster :=
  calls.foldl (fun cluster call => (call.apply fromStr uuidString cluster).2) (cassClusterNew rust)

end Calls

/-- What `connect_fut` works with. -/
structure ConnectRequest where
  config : SessionConfig
  execProfileMap : AList (fun _ : ExecProfileName => ExecutionProfile)
  clusterClientId : Option StandardUuid
  numThreadsIo : Option Nat
  latencyAwareness : Option LatencyAwarenessBuilder

/-- A name in quotes is case-sensitive and loses them. -/
def unquoteKeyspace (maybeQuotedKeyspace : String) : String × Bool :=
  let chars := maybeQuotedKeyspace.toList
  if chars.head? = some '"' ∧ chars.getLast? = some '"' then
    (String.ofList (chars.drop 1).dropLast, true)
  else (maybeQuotedKeyspace, false)

namespace CassCluster
variable (shuffle : List String → List String) (defaults : ExecutionProfile) (cluster : CassCluster)

def buildSessionBuilder : SessionConfig :=
  let knownNodes := cluster.contactPoints.map (fun cp => cp ++ ":" ++ toString cluster.port.toNat)
  let knownNodes := if cluster.shuffleContactPoints then shuffle knownNodes else knownNodes
  let config :=
    { cluster.sessionBuilder with knownNodes := cluster.sessionBuilder.knownNodes ++ knownNodes }
  let config :=
    match cluster.authUsername, cluster.authPassword with
    | some username, some password => { config with authenticator := some (username, password) }
    | _, _ => config
  let profile :=
    { cluster.defaultExecutionProfileBuilder with
      loadBalancingPolicy := some cluster.loadBalancingConfig.build }
  { config with defaultExecutionProfile := some (profile.build defaults) }

/-- The part of the cluster that load balancing reads. -/
def balancing : ClusterBalancing where
  loadBalancingConfig := cluster.loadBalancingConfig
  executionProfileMap := cluster.executionProfileMap.entries.map (fun entry =>
    (entry.1.name, entry.2.loadBalancingConfig))

def buildHostFilter : CassHostFilter := cluster.balancing.buildHostFilter

/-- `connect`, and `connect_fut` up to the point where the Rust driver takes over. -/
def connect (keyspace : Option String) : ConnectRequest :=
  let config := cluster.buildSessionBuilder shuffle defaults
  let defaultProfile := config.defaultExecutionProfile.getD defaults
  { config :=
      { config with
        keyspaceToUse := (keyspace.map unquoteKeyspace).or config.keyspaceToUse
        hostFilter := some cluster.buildHostFilter }
    execProfileMap := cluster.executionProfileMap.entries.foldl
      (fun map entry => map.insert entry.1 (entry.2.build defaults defaultProfile)) ∅
    clusterClientId := cluster.clientId
    numThreadsIo := cluster.numThreadsIo
    latencyAwareness :=
      if cluster.loadBalancingConfig.latencyAwarenessEnabled then cluster.latencyAwarenessBuilder
      else none }

end CassCluster

end CppRsDriver.Session
