import CppRsDriver.Session.Options
import Mathlib.Data.List.DropRight

/-! What sessions are connected with, whatever was called on the cluster before. -/
namespace CppRsDriver.Session

open CppRsDriver.Lib CppRsDriver.LoadBalancing CppRsDriver.Statement CppRsDriver.Uuid

/-- A contact point as it can stand in a list: not empty, without a comma, and without white
space at its ends. -/
structure Plain (item : List Char) : Prop where
  nonempty : item ≠ []
  whole : ',' ∉ item
  starts : ∀ c, item.head? = some c → isWhitespace c = false
  ends : ∀ c, item.getLast? = some c → isWhitespace c = false

theorem trim_eq (item : List Char) :
    trim item = (item.dropWhile isWhitespace).rdropWhile isWhitespace := rfl

theorem trim_plain {item : List Char} (plain : Plain item) : trim item = item := by
  have left : item.dropWhile isWhitespace = item := by
    rw [List.dropWhile_eq_self_iff]
    intro inside
    have starts := plain.starts _ (List.head?_eq_getElem? ▸ List.getElem?_eq_getElem inside)
    simp [starts]
  rw [trim_eq, left, List.rdropWhile_eq_self_iff]
  intro nonempty
  have ends := plain.ends _ (List.getLast?_eq_some_getLast nonempty)
  simp [ends]

theorem plain_trim {item : List Char} (whole : ',' ∉ item) (nonempty : trim item ≠ []) :
    Plain (trim item) := by
  have front : trim item <+: item.dropWhile isWhitespace := List.rdropWhile_prefix _ _
  have inside : trim item ⊆ item :=
    fun c member => (List.dropWhile_sublist _).subset (front.subset member)
  refine ⟨nonempty, fun comma => whole (inside comma), ?_, ?_⟩
  · intro c starts
    obtain ⟨rest, is⟩ := front
    have first : (item.dropWhile isWhitespace).head? = some c := by
      rw [← is, List.head?_append, starts]
      rfl
    have stays := List.head?_dropWhile_not isWhitespace item
    rw [first] at stays
    simpa using stays
  · intro c ends
    have stays := List.rdropWhile_last_not isWhitespace (item.dropWhile isWhitespace) nonempty
    rw [List.getLast?_eq_some_getLast nonempty] at ends
    rw [← Option.some.inj ends]
    exact Bool.eq_false_iff.mpr stays

theorem not_mem_of_splitOn {α : Type} [DecidableEq α] {a : α} {xs part : List α}
    (member : part ∈ xs.splitOn a) : a ∉ part := by
  induction xs generalizing part with
  | nil => simp_all
  | cons x xs ih =>
    rw [List.splitOn_cons_eq_if_modifyHead] at member
    split at member
    · rcases List.mem_cons.mp member with rfl | later
      · simp
      · exact ih later
    · rename_i other
      cases parts : xs.splitOn a with
      | nil => simp [parts] at member
      | cons first rest =>
        simp only [parts, List.modifyHead_cons, List.mem_cons] at member
        rcases member with rfl | later
        · have apart := @ih first (by simp [parts])
          simp_all [Ne.symm]
        · exact ih (by simp [parts, later])

theorem contactPoints_plain {list new : List String} {points : CassStr}
    (plain : ∀ cp ∈ list, Plain cp.toList)
    (updated : updateCommaDelimitedList CassCluster.nonemptyContactPoint list points = .ok new) :
    ∀ cp ∈ new, Plain cp.toList := by
  unfold updateCommaDelimitedList at updated
  split at updated
  · contradiction
  · cases Except.ok.inj updated
    simp
  · split at updated
    · cases Except.ok.inj updated
      simp
    · cases Except.ok.inj updated
      intro cp member
      rcases List.mem_append.mp member with before | now
      · exact plain cp before
      · obtain ⟨item, part, is⟩ := List.mem_filterMap.mp now
        unfold CassCluster.nonemptyContactPoint at is
        split at is
        · contradiction
        · rename_i nonempty
          cases Option.some.inj is
          rw [String.toList_ofList]
          refine plain_trim (not_mem_of_splitOn part) ?_
          intro empty
          simp [empty] at nonempty

/-- The list that a client writes, with a comma between the items. -/
def joined (items : List String) : String :=
  String.ofList ([','].intercalate (items.map String.toList))

theorem contactPoints_joined {list items : List String} (nonempty : items ≠ [])
    (plain : ∀ item ∈ items, Plain item.toList) :
    updateCommaDelimitedList CassCluster.nonemptyContactPoint list (.ok (joined items)) =
      .ok (list ++ items) := by
  have split : (joined items).toList.splitOn ',' = items.map String.toList := by
    rw [joined, String.toList_ofList]
    refine List.splitOn_intercalate ',' ?_ (by simpa using nonempty)
    intro part member
    obtain ⟨item, inside, rfl⟩ := List.mem_map.mp member
    exact (plain item inside).whole
  have given : joined items ≠ "" := by
    intro empty
    rw [empty] at split
    have single : items.map String.toList = [[]] := by simpa using split.symm
    obtain ⟨item, inside⟩ := List.exists_mem_of_ne_nil items nonempty
    have blank : item.toList ∈ items.map String.toList := List.mem_map_of_mem inside
    rw [single, List.mem_singleton] at blank
    exact (plain item inside).nonempty blank
  have kept : (items.map String.toList).filterMap
      (fun item => CassCluster.nonemptyContactPoint (String.ofList (trim item))) = items := by
    rw [List.filterMap_map]
    refine (List.filterMap_congr ?_).trans (List.filterMap_some (l := items))
    intro item inside
    have nonblank : item ≠ "" := by
      rintro rfl
      exact (plain "" inside).nonempty rfl
    simp [CassCluster.nonemptyContactPoint, trim_plain (plain item inside), nonblank]
  simp only [updateCommaDelimitedList, given, if_false, split, kept]

section Requests
variable (fromStr : String → Option IpAddr) (uuidString : StandardUuid → String)

/-- What is always true of an option. -/
def ClusterOption.Holds : (option : ClusterOption) → option.Value → Prop
  | .contactPoints, (points : List String) => ∀ cp ∈ points, Plain cp.toList
  | .credentials, (given : Option String × Option String) => given.1.isSome = given.2.isSome
  | .clientId, (id : Option StandardUuid × Option String) => id.2 = id.1.map uuidString
  | .reconnectPolicy, (policy : ReconnectPolicy) => ∀ baseDelay maxDelay,
    policy = .exponential baseDelay maxDelay → millis 1 < baseDelay ∧ baseDelay ≤ maxDelay
  | .keepaliveInterval, (interval : Option Duration) => interval ≠ some 0
  | .keepaliveTimeout, (timeout : Option Duration) => timeout ≠ some 0
  | .hostnameResolutionTimeout, (timeout : Option Duration) => timeout ≠ some 0
  | .metadataRequestServersideTimeout, (timeout : Option Duration) => timeout ≠ some 0
  | .requestTimeout, (timeout : Option (Option Duration)) =>
    ∃ given, timeout = some given ∧ given ≠ some 0
  | .unset, values => values.1.1 = [] ∧ values.2.1.1 = none
  | _, _ => True

theorem scaled_ne (n : Nat) {unit : Nat} (positive : 0 < unit) :
    (if 0 < n then some (n * unit) else none) ≠ some 0 := by
  split
  · rename_i given
    intro zero
    exact (Nat.mul_pos given positive).ne' (Option.some.inj zero)
  · intro zero
    contradiction

theorem nonzeroMillis_ne (n : Nat) : CassCluster.nonzeroMillis n ≠ some 0 :=
  scaled_ne n (Nat.pow_pos (by decide : 0 < 10))

theorem nonzeroSecs_ne (n : Nat) : CassCluster.nonzeroSecs n ≠ some 0 :=
  scaled_ne n (Nat.pow_pos (by decide : 0 < 10))

theorem call_holds (c : CassCluster) (call : ClusterCall)
    (before : call.concerns.Holds uuidString (c.read call.concerns)) :
    call.concerns.Holds uuidString
      ((call.apply fromStr uuidString c).2.read call.concerns) := by
  cases call with
  | contactPoints points =>
    simp only [ClusterCall.apply, CassCluster.setContactPoints]
    split
    · rename_i list updated
      exact contactPoints_plain before updated
    · exact before
  | credentials username password =>
    cases username with
    | error e => exact before
    | ok username =>
      cases password with
      | error e => exact before
      | ok password => rfl
  | clientId id => rfl
  | constantReconnect waitTimeMs =>
    intro baseDelay maxDelay is
    contradiction
  | exponentialReconnect baseDelayMs maxDelayMs =>
    simp only [ClusterCall.apply, CassCluster.setExponentialReconnect]
    split
    · exact before
    · split
      · exact before
      · split
        · exact before
        · rename_i base max order
          intro baseDelay maxDelay is
          cases is
          simp only [UInt64.le_iff_toNat_le, UInt64.lt_iff_toNat_lt, UInt64.toNat_one] at base order
          exact ⟨Nat.mul_lt_mul_of_pos_right (Nat.not_le.mp base) (by decide),
            Nat.mul_le_mul_right _ (Nat.not_lt.mp order)⟩
  | connectionHeartbeatInterval intervalSecs => exact nonzeroSecs_ne _
  | connectionIdleTimeout timeoutSecs => exact nonzeroSecs_ne _
  | resolveTimeout timeoutMs => exact nonzeroMillis_ne _
  | metadataRequestServersideTimeout timeoutMs => exact nonzeroMillis_ne _
  | requestTimeout timeoutMs => exact ⟨_, rfl, nonzeroMillis_ne _⟩
  | _ => trivial

/-- The Rust driver's own defaults: no nodes, no credentials, and sensible policies. -/
structure SessionConfig.IsNew (rust : SessionConfig) : Prop where
  knownNodes : rust.knownNodes = []
  authenticator : rust.authenticator = none
  reconnectPolicy : rust.reconnectPolicy = .rustDefault
  metadataRequestServersideTimeout : rust.metadataRequestServersideTimeout ≠ some 0

theorem configured_holds {rust : SessionConfig} (isNew : rust.IsNew) (calls : List ClusterCall)
    (option : ClusterOption) :
    option.Holds uuidString ((configureCluster fromStr uuidString rust calls).read option) := by
  refine (calls_confined fromStr uuidString).invariant (call_holds fromStr uuidString) ?_ calls option
  intro option
  cases option with
  | contactPoints =>
    intro cp member
    contradiction
  | reconnectPolicy =>
    intro baseDelay maxDelay is
    rw [show (cassClusterNew rust).read .reconnectPolicy = _ from isNew.reconnectPolicy] at is
    contradiction
  | metadataRequestServersideTimeout => exact isNew.metadataRequestServersideTimeout
  | requestTimeout => exact ⟨_, rfl, by decide⟩
  | unset => exact ⟨isNew.knownNodes, isNew.authenticator⟩
  | keepaliveInterval => exact (by decide : some (secs 30) ≠ some 0)
  | keepaliveTimeout => exact (by decide : some (secs 60) ≠ some 0)
  | hostnameResolutionTimeout => exact (by decide : some (millis 2000) ≠ some 0)
  | credentials => rfl
  | clientId => rfl
  | _ => trivial

def ClusterCall.portGiven : ClusterCall → Option UInt16
  | .port number => CassCluster.tryIntoU16 number.toInt
  | _ => none

theorem port_written (c : CassCluster) (call : ClusterCall) :
    (call.apply fromStr uuidString c).2.port = call.portGiven.getD c.port := by
  by_cases here : .port = call.concerns
  · cases call with
    | port number =>
      simp only [ClusterCall.apply, CassCluster.setPort, ClusterCall.portGiven]
      cases CassCluster.tryIntoU16 number.toInt <;> rfl
    | _ => contradiction
  · refine ((calls_confined fromStr uuidString).frame c call .port here).trans ?_
    cases call with
    | port => exact absurd rfl here
    | _ => rfl

/-- Timeouts that are taken as they are given. A zero does not stand for none. -/
inductive PlainTimeout where
  | connect
  | schemaAgreement
  | schemaAgreementInterval
  | tcpKeepalive
  deriving DecidableEq

namespace PlainTimeout

def option : PlainTimeout → ClusterOption
  | .connect => .connectTimeout
  | .schemaAgreement => .schemaAgreementTimeout
  | .schemaAgreementInterval => .schemaAgreementInterval
  | .tcpKeepalive => .tcpKeepaliveInterval

/-- The ones of a new cluster. -/
def initial : PlainTimeout → Option Duration
  | .connect => some (millis 5000)
  | .schemaAgreement => some (millis 10000)
  | .schemaAgreementInterval => some (millis 200)
  | .tcpKeepalive => some (secs 2)

/-- The one that a call gives. -/
def given : PlainTimeout → ClusterCall → Option (Option Duration)
  | .connect, .connectTimeout timeoutMs => some (some (millis timeoutMs.toNat))
  | .schemaAgreement, .maxSchemaWaitTime waitTimeMs => some (some (millis waitTimeMs.toNat))
  | .schemaAgreementInterval, .schemaAgreementInterval intervalMs =>
    some (some (millis intervalMs.toNat))
  | .tcpKeepalive, .tcpKeepalive enabled delaySecs =>
    some (if enabled ≠ 0 then some (secs delaySecs.toNat) else none)
  | _, _ => none

end PlainTimeout

/-- A pair where both parts are there. -/
def bothGiven (given : Option String × Option String) : Option (String × String) :=
  given.1.bind (fun username => given.2.map (fun password => (username, password)))

theorem connect_config (shuffle : List String → List String) (defaults : ExecutionProfile)
    (cluster : CassCluster) (keyspace : Option String) :
    (cluster.connect shuffle defaults keyspace).config =
      { cluster.sessionBuilder with
        knownNodes := cluster.sessionBuilder.knownNodes ++
          (if cluster.shuffleContactPoints then shuffle else id)
            (cluster.contactPoints.map (fun cp => cp ++ ":" ++ toString cluster.port.toNat))
        authenticator := (bothGiven (cluster.authUsername, cluster.authPassword)).or
          cluster.sessionBuilder.authenticator
        keyspaceToUse := (keyspace.map unquoteKeyspace).or cluster.sessionBuilder.keyspaceToUse
        defaultExecutionProfile := some (ExecutionProfileBuilder.build defaults
          { cluster.defaultExecutionProfileBuilder with
            loadBalancingPolicy := some cluster.loadBalancingConfig.build })
        hostFilter := some cluster.buildHostFilter } := by
  simp only [CassCluster.connect, CassCluster.buildSessionBuilder, bothGiven]
  split
  · rename_i username password hasUsername hasPassword
    simp only [hasUsername, hasPassword, Option.bind_some, Option.map_some, Option.some_or]
    split <;> rfl
  · rename_i missing
    cases hasUsername : cluster.authUsername with
    | none => simp only [Option.bind_none, Option.none_or]; split <;> rfl
    | some username =>
      cases hasPassword : cluster.authPassword with
      | none => simp only [Option.map_none, Option.bind_some, Option.none_or]; split <;> rfl
      | some password => exact absurd hasPassword (missing username password hasUsername)

/-- A new session builder of the Rust driver. -/
def newSessionConfig : SessionConfig where
  knownNodes := []
  identity := {}
  fetchSchemaMetadata := true
  schemaAgreementTimeout := secs 60
  schemaAgreementInterval := millis 200
  tcpNodelay := true
  tcpKeepaliveInterval := none
  connectTimeout := secs 5
  connectionPoolSize := .perShard ⟨1, Nat.one_pos⟩
  enableWriteCoalescing := true
  writeCoalescingDelay := .smallNondeterministic
  keepaliveInterval := some (secs 30)
  keepaliveTimeout := some (secs 30)
  localIpAddress := none
  shardAwareLocalPortRange := .ephemeralPortRange
  timestampGenerator := none
  hostnameResolutionTimeout := some (secs 5)
  reconnectPolicy := .rustDefault
  compression := none
  tlsContext := none
  metadataRequestServersideTimeout := some (secs 2)
  hostListener := none
  authenticator := none
  keyspaceToUse := none
  defaultExecutionProfile := none
  hostFilter := none

theorem newSessionConfig_isNew : newSessionConfig.IsNew := ⟨rfl, rfl, rfl, by decide⟩

def newProfile : ExecutionProfile where
  consistency := .localQuorum
  serialConsistency := some .localSerial
  requestTimeout := some (secs 30)
  retryPolicy := .default
  speculativeExecutionPolicy := none
  loadBalancingPolicy := ({} : LoadBalancingConfig).build

theorem contactPoints_groups (groups : List (List String))
    (plain : ∀ hosts ∈ groups, hosts ≠ [] ∧ ∀ host ∈ hosts, Plain host.toList) (c : CassCluster) :
    ((groups.map (fun hosts => ClusterCall.contactPoints (.ok (joined hosts)))).foldl
      (fun c call => (call.apply fromStr uuidString c).2) c).contactPoints =
        c.contactPoints ++ groups.flatten := by
  induction groups generalizing c with
  | nil => simp
  | cons hosts groups ih =>
    obtain ⟨⟨nonempty, each⟩, others⟩ := List.forall_mem_cons.mp plain
    have first : (ClusterCall.apply fromStr uuidString c
        (.contactPoints (.ok (joined hosts)))).2.contactPoints = c.contactPoints ++ hosts := by
      simp only [ClusterCall.apply, CassCluster.setContactPoints, contactPoints_joined nonempty each]
    simp only [List.map_cons, List.foldl_cons, ih others, first, List.flatten_cons,
      List.append_assoc]

/-- A client that gives its hosts in lists with commas, in as many calls as it likes and among any
other calls, is connected through exactly these hosts, at the port that was set last. -/
theorem known_nodes_given (rust : SessionConfig) (isNew : rust.IsNew) (calls : List ClusterCall)
    (groups : List (List String))
    (plain : ∀ hosts ∈ groups, hosts ≠ [] ∧ ∀ host ∈ hosts, Plain host.toList)
    (given : calls.filter (fun call => call.concerns = .contactPoints) =
      groups.map (fun hosts => .contactPoints (.ok (joined hosts))))
    (shuffle : List String → List String) (shuffles : ∀ nodes, (shuffle nodes).Perm nodes)
    (defaults : ExecutionProfile) (keyspace : Option String) :
    let port := (calls.filterMap ClusterCall.portGiven).getLast?.getD 9042
    (((configureCluster fromStr uuidString rust calls).connect shuffle defaults
      keyspace).config.knownNodes).Perm
        (groups.flatten.map (fun host => host ++ ":" ++ toString port.toNat)) := by
  intro port
  have holds := configured_holds fromStr uuidString isNew calls
  have nodes : (configureCluster fromStr uuidString rust calls).contactPoints = groups.flatten := by
    have own := (calls_confined fromStr uuidString).read_foldl (k := .contactPoints) calls
      (rfl : (cassClusterNew rust).read _ = _)
    rw [given] at own
    exact own.trans (contactPoints_groups fromStr uuidString groups plain (cassClusterNew rust))
  have last : (configureCluster fromStr uuidString rust calls).port = port :=
    foldl_last CassCluster.port (port_written fromStr uuidString) (cassClusterNew rust) calls
  have new : (configureCluster fromStr uuidString rust calls).sessionBuilder.knownNodes = [] :=
    (holds .unset).1
  rw [connect_config]
  simp only [new, nodes, last, List.nil_append]
  split
  · exact shuffles _
  · exact List.Perm.refl _

theorem known_nodes_given_two :
    ((configureCluster (fun _ => none) (fun _ => "") newSessionConfig
      [.contactPoints (.ok (joined ["a", "b"])), .port 9142, .contactPoints (.ok (joined ["c"])),
        .port (-1)]).connect List.reverse newProfile none).config.knownNodes.Perm
          ["a:9142", "b:9142", "c:9142"] := by
  have plain : ∀ hosts ∈ [["a", "b"], ["c"]],
      hosts ≠ [] ∧ ∀ host ∈ hosts, Plain host.toList := by
    have letters : ∀ host ∈ ["a", "b", "c"], Plain host.toList := by
      intro host member
      simp only [List.mem_cons, List.not_mem_nil, or_false] at member
      rcases member with rfl | rfl | rfl <;>
        exact ⟨by simp, by simp, by simp [isWhitespace], by simp [isWhitespace]⟩
    simp_all
  exact known_nodes_given (fun _ => none) (fun _ => "") newSessionConfig newSessionConfig_isNew
    [.contactPoints (.ok (joined ["a", "b"])), .port 9142, .contactPoints (.ok (joined ["c"])),
      .port (-1)]
    [["a", "b"], ["c"]] plain rfl List.reverse List.reverse_perm newProfile none

end Requests

end CppRsDriver.Session
