import CppRsDriver.LoadBalancing.Plan

/-! The settings of an execution profile. The Rust driver's builder cannot forget a
setting; a flag beside it says whether the setting counts, and when the profile is built
every setting that does not count is overwritten with the cluster's. -/
namespace CppRsDriver.Session

open CppRsDriver.LoadBalancing CppRsDriver.Statement

structure SimpleSpeculativeExecutionPolicy where
  maxRetryCount : Nat
  retryInterval : Duration
  deriving DecidableEq, Repr

/-- An execution profile of the Rust driver. -/
structure ExecutionProfile where
  consistency : Consistency
  serialConsistency : Option SerialConsistency
  requestTimeout : Option Duration
  retryPolicy : CassRetryPolicy
  speculativeExecutionPolicy : Option SimpleSpeculativeExecutionPolicy
  loadBalancingPolicy : FilteringLoadBalancingPolicy
  deriving DecidableEq, Repr

/-- Its builder, with what was set. -/
structure ExecutionProfileBuilder where
  consistency : Option Consistency := none
  serialConsistency : Option (Option SerialConsistency) := none
  requestTimeout : Option (Option Duration) := none
  retryPolicy : Option CassRetryPolicy := none
  speculativeExecutionPolicy : Option (Option SimpleSpeculativeExecutionPolicy) := none
  loadBalancingPolicy : Option FilteringLoadBalancingPolicy := none
  deriving DecidableEq, Repr

/- What was not set is as the Rust driver has it by default. -/
def ExecutionProfileBuilder.build (defaults : ExecutionProfile)
    (builder : ExecutionProfileBuilder) : ExecutionProfile where
  consistency := builder.consistency.getD defaults.consistency
  serialConsistency := builder.serialConsistency.getD defaults.serialConsistency
  requestTimeout := builder.requestTimeout.getD defaults.requestTimeout
  retryPolicy := builder.retryPolicy.getD defaults.retryPolicy
  speculativeExecutionPolicy :=
    builder.speculativeExecutionPolicy.getD defaults.speculativeExecutionPolicy
  loadBalancingPolicy := builder.loadBalancingPolicy.getD defaults.loadBalancingPolicy

structure ExecutionProfileOverrides where
  consistency : Bool := false
  serialConsistency : Bool := false
  requestTimeout : Bool := false
  retryPolicy : Bool := false
  speculativeExecutionPolicy : Bool := false
  deriving DecidableEq, Repr

structure CassExecProfile where
  inner : ExecutionProfileBuilder := {}
  overrides : ExecutionProfileOverrides := {}
  loadBalancingConfig : LoadBalancingConfig := {}
  deriving DecidableEq, Repr

/- The builder is taken out, an empty one left in its place, and put back modified. -/
def execProfileBuilderModify (builder : ExecutionProfileBuilder)
    (builderModifier : ExecutionProfileBuilder → ExecutionProfileBuilder) :
    ExecutionProfileBuilder :=
  let (takenBuilder, _) := (builder, ({} : ExecutionProfileBuilder))
  builderModifier takenBuilder

def CassExecProfile.modifyInPlace (profile : CassExecProfile)
    (builderModifier : ExecutionProfileBuilder → ExecutionProfileBuilder) : CassExecProfile :=
  { profile with inner := execProfileBuilderModify profile.inner builderModifier }

/-- `cluster::DEFAULT_CONSISTENCY` -/
def defaultConsistency : Consistency := .localOne

def CassExecProfile.useClusterDefaultsForUnsetSettings (profile : CassExecProfile)
    (defaultProfile : ExecutionProfile) : CassExecProfile :=
  let profile :=
    if !profile.overrides.consistency then
      profile.modifyInPlace (fun builder => { builder with consistency := some defaultConsistency })
    else profile
  let profile :=
    if !profile.overrides.serialConsistency then
      profile.modifyInPlace (fun builder =>
        { builder with serialConsistency := some defaultProfile.serialConsistency })
    else profile
  let profile :=
    if !profile.overrides.requestTimeout then
      profile.modifyInPlace (fun builder =>
        { builder with requestTimeout := some defaultProfile.requestTimeout })
    else profile
  let profile :=
    if !profile.overrides.retryPolicy then
      profile.modifyInPlace (fun builder =>
        { builder with retryPolicy := some defaultProfile.retryPolicy })
    else profile
  if !profile.overrides.speculativeExecutionPolicy then
    profile.modifyInPlace (fun builder =>
      { builder with
        speculativeExecutionPolicy := some defaultProfile.speculativeExecutionPolicy })
  else profile

def CassExecProfile.build (defaults : ExecutionProfile) (profile : CassExecProfile)
    (clusterDefaultProfile : ExecutionProfile) : ExecutionProfile :=
  let profile := profile.useClusterDefaultsForUnsetSettings clusterDefaultProfile
  let loadBalancing := profile.loadBalancingConfig.buildOr clusterDefaultProfile.loadBalancingPolicy
  ExecutionProfileBuilder.build defaults
    { profile.inner with loadBalancingPolicy := some loadBalancing }

/- The largest number is no timeout of its own, and zero stands for none at all. -/
def requestTimeoutFromCValue (timeoutMs : UInt64) : MaybeUnsetConfig (Option Duration) :=
  if timeoutMs.toNat = 2 ^ 64 - 1 then .unset
  else .set (if timeoutMs ≠ 0 then some (timeoutMs.toNat * 10 ^ 6) else none)

/- A null pointer unsets the policy. -/
def retryPolicyFromCValue : Option CassRetryPolicy → MaybeUnsetConfig CassRetryPolicy
  | none => .unset
  | some policy => .set policy

/-- The calls on an execution profile. -/
inductive ProfileCall where
  | consistency (value : CassConsistency)
  | serialConsistency (value : CassConsistency)
  | requestTimeout (timeoutMs : UInt64)
  | retryPolicy (policy : Option CassRetryPolicy)
  | noSpeculativeExecutionPolicy
  | constantSpeculativeExecutionPolicy (constantDelayMs : Int64) (maxSpeculativeExecutions : Int32)
  | loadBalancing (call : LoadBalancingCall)

namespace CassExecProfile

def setConsistency (profile : CassExecProfile) (consistency : CassConsistency) :
    CassError × CassExecProfile :=
  match Consistency.fromCValue consistency with
  | none => (.libBadParams, profile)
  | some .unset =>
    (.ok, { profile with overrides := { profile.overrides with consistency := false } })
  | some (.set consistency) =>
    let profile := profile.modifyInPlace (fun builder =>
      { builder with consistency := some consistency })
    (.ok, { profile with overrides := { profile.overrides with consistency := true } })

def setSerialConsistency (profile : CassExecProfile) (serialConsistency : CassConsistency) :
    CassError × CassExecProfile :=
  match SerialConsistency.fromCValue serialConsistency with
  | none => (.libBadParams, profile)
  | some .unset =>
    (.ok, { profile with overrides := { profile.overrides with serialConsistency := false } })
  | some (.set maybeSerialConsistency) =>
    let profile := profile.modifyInPlace (fun builder =>
      { builder with serialConsistency := some maybeSerialConsistency })
    (.ok, { profile with overrides := { profile.overrides with serialConsistency := true } })

def setRequestTimeout (profile : CassExecProfile) (timeoutMs : UInt64) :
    CassError × CassExecProfile :=
  match requestTimeoutFromCValue timeoutMs with
  | .unset =>
    (.ok, { profile with overrides := { profile.overrides with requestTimeout := false } })
  | .set maybeTimeout =>
    let profile := profile.modifyInPlace (fun builder =>
      { builder with requestTimeout := some maybeTimeout })
    (.ok, { profile with overrides := { profile.overrides with requestTimeout := true } })

def setRetryPolicy (profile : CassExecProfile) (policy : Option CassRetryPolicy) :
    CassError × CassExecProfile :=
  match retryPolicyFromCValue policy with
  | .set retryPolicy =>
    let profile := profile.modifyInPlace (fun builder =>
      { builder with retryPolicy := some retryPolicy })
    (.ok, { profile with overrides := { profile.overrides with retryPolicy := true } })
  | .unset =>
    (.ok, { profile with overrides := { profile.overrides with retryPolicy := false } })

def setNoSpeculativeExecutionPolicy (profile : CassExecProfile) : CassError × CassExecProfile :=
  let profile := profile.modifyInPlace (fun builder =>
    { builder with speculativeExecutionPolicy := some none })
  (.ok, { profile with overrides := { profile.overrides with speculativeExecutionPolicy := true } })

def setConstantSpeculativeExecutionPolicy (profile : CassExecProfile) (constantDelayMs : Int64)
    (maxSpeculativeExecutions : Int32) : CassError × CassExecProfile :=
  if constantDelayMs < 0 ∨ maxSpeculativeExecutions < 0 then (.libBadParams, profile)
  else
    let policy : SimpleSpeculativeExecutionPolicy :=
      { maxRetryCount := maxSpeculativeExecutions.toInt.toNat
        retryInterval := constantDelayMs.toInt.toNat * 10 ^ 6 }
    let profile := profile.modifyInPlace (fun builder =>
      { builder with speculativeExecutionPolicy := some (some policy) })
    (.ok,
      { profile with overrides := { profile.overrides with speculativeExecutionPolicy := true } })

end CassExecProfile

section Calls
variable (fromStr : String → Option IpAddr)

def ProfileCall.apply (profile : CassExecProfile) : ProfileCall → CassError × CassExecProfile
  | .consistency value => profile.setConsistency value
  | .serialConsistency value => profile.setSerialConsistency value
  | .requestTimeout timeoutMs => profile.setRequestTimeout timeoutMs
  | .retryPolicy policy => profile.setRetryPolicy policy
  | .noSpeculativeExecutionPolicy => profile.setNoSpeculativeExecutionPolicy
  | .constantSpeculativeExecutionPolicy constantDelayMs maxSpeculativeExecutions =>
    profile.setConstantSpeculativeExecutionPolicy constantDelayMs maxSpeculativeExecutions
  | .loadBalancing call =>
    let (code, config) := call.apply fromStr profile.loadBalancingConfig
    (code, { profile with loadBalancingConfig := config })

/-- The codes of some calls and the profile they leave. -/
def CassExecProfile.applyAll (profile : CassExecProfile) :
    List ProfileCall → List CassError × CassExecProfile
  | [] => ([], profile)
  | call :: calls =>
    let (code, next) := call.apply fromStr profile
    let (codes, last) := next.applyAll calls
    (code :: codes, last)

end Calls

/- The settings one by one, apart from the builder that holds them. -/

/-- What a call asks for, if it is accepted and on one of the five settings. -/
inductive Asked where
  | consistency (what : MaybeUnsetConfig Consistency)
  | serialConsistency (what : MaybeUnsetConfig (Option SerialConsistency))
  | requestTimeout (what : MaybeUnsetConfig (Option Duration))
  | retryPolicy (what : MaybeUnsetConfig CassRetryPolicy)
  | speculativeExecutionPolicy (what : MaybeUnsetConfig (Option SimpleSpeculativeExecutionPolicy))
  | nothing

def ProfileCall.asked : ProfileCall → Asked
  | .consistency value => (Consistency.fromCValue value).elim .nothing .consistency
  | .serialConsistency value =>
    (SerialConsistency.fromCValue value).elim .nothing .serialConsistency
  | .requestTimeout timeoutMs => .requestTimeout (requestTimeoutFromCValue timeoutMs)
  | .retryPolicy policy => .retryPolicy (retryPolicyFromCValue policy)
  | .noSpeculativeExecutionPolicy => .speculativeExecutionPolicy (.set none)
  | .constantSpeculativeExecutionPolicy constantDelayMs maxSpeculativeExecutions =>
    if constantDelayMs < 0 ∨ maxSpeculativeExecutions < 0 then .nothing
    else .speculativeExecutionPolicy (.set (some
      { maxRetryCount := maxSpeculativeExecutions.toInt.toNat
        retryInterval := constantDelayMs.toInt.toNat * 10 ^ 6 }))
  | .loadBalancing _ => .nothing

/-- A setting of a profile: whether it counts, and what was last put into the builder. -/
abbrev Slot (α : Type) := Bool × Option α

def Slot.record {α : Type} (slot : Slot α) : MaybeUnsetConfig α → Slot α
  | .unset => (false, slot.2)
  | .set v => (true, some v)

/-- What the builder is given for a setting when the profile is built. -/
def Slot.orDefault {α : Type} (slot : Slot α) (default : α) : Option α :=
  if slot.1 then slot.2 else some default

structure Slots where
  consistency : Slot Consistency
  serialConsistency : Slot (Option SerialConsistency)
  requestTimeout : Slot (Option Duration)
  retryPolicy : Slot CassRetryPolicy
  speculativeExecutionPolicy : Slot (Option SimpleSpeculativeExecutionPolicy)

def Slots.record (slots : Slots) : Asked → Slots
  | .consistency what => { slots with consistency := slots.consistency.record what }
  | .serialConsistency what =>
    { slots with serialConsistency := slots.serialConsistency.record what }
  | .requestTimeout what => { slots with requestTimeout := slots.requestTimeout.record what }
  | .retryPolicy what => { slots with retryPolicy := slots.retryPolicy.record what }
  | .speculativeExecutionPolicy what =>
    { slots with speculativeExecutionPolicy := slots.speculativeExecutionPolicy.record what }
  | .nothing => slots

def CassExecProfile.slots (profile : CassExecProfile) : Slots where
  consistency := (profile.overrides.consistency, profile.inner.consistency)
  serialConsistency := (profile.overrides.serialConsistency, profile.inner.serialConsistency)
  requestTimeout := (profile.overrides.requestTimeout, profile.inner.requestTimeout)
  retryPolicy := (profile.overrides.retryPolicy, profile.inner.retryPolicy)
  speculativeExecutionPolicy :=
    (profile.overrides.speculativeExecutionPolicy, profile.inner.speculativeExecutionPolicy)

/-- One of the five settings: its slot, and what was asked for it. -/
structure Setting (α : Type) where
  slot : Slots → Slot α
  asks : Asked → Option (MaybeUnsetConfig α)
  silent : asks .nothing = none
  records : ∀ slots asked,
    slot (slots.record asked) = (asks asked).elim (slot slots) (slot slots).record

namespace Setting

def consistency : Setting Consistency where
  slot := Slots.consistency
  asks
    | .consistency what => some what
    | _ => none
  silent := rfl
  records _ asked := by cases asked <;> rfl

def serialConsistency : Setting (Option SerialConsistency) where
  slot := Slots.serialConsistency
  asks
    | .serialConsistency what => some what
    | _ => none
  silent := rfl
  records _ asked := by cases asked <;> rfl

def requestTimeout : Setting (Option Duration) where
  slot := Slots.requestTimeout
  asks
    | .requestTimeout what => some what
    | _ => none
  silent := rfl
  records _ asked := by cases asked <;> rfl

def retryPolicy : Setting CassRetryPolicy where
  slot := Slots.retryPolicy
  asks
    | .retryPolicy what => some what
    | _ => none
  silent := rfl
  records _ asked := by cases asked <;> rfl

def speculativeExecutionPolicy : Setting (Option SimpleSpeculativeExecutionPolicy) where
  slot := Slots.speculativeExecutionPolicy
  asks
    | .speculativeExecutionPolicy what => some what
    | _ => none
  silent := rfl
  records _ asked := by cases asked <;> rfl

end Setting

section Runs
variable (fromStr : String → Option IpAddr)

/-- A call that is accepted records what it asks for, in its own slot; one that is turned
away asks for nothing. -/
theorem apply_slots (profile : CassExecProfile) (call : ProfileCall) :
    (call.apply fromStr profile).2.slots = profile.slots.record call.asked ∧
      ((call.apply fromStr profile).1 ≠ .ok → call.asked = .nothing) := by
  cases call with
  | consistency value =>
    simp only [ProfileCall.apply, CassExecProfile.setConsistency, ProfileCall.asked]
    cases Consistency.fromCValue value with
    | none => exact ⟨rfl, fun _ => rfl⟩
    | some what => cases what <;> exact ⟨rfl, fun failed => absurd rfl failed⟩
  | serialConsistency value =>
    simp only [ProfileCall.apply, CassExecProfile.setSerialConsistency, ProfileCall.asked]
    cases SerialConsistency.fromCValue value with
    | none => exact ⟨rfl, fun _ => rfl⟩
    | some what => cases what <;> exact ⟨rfl, fun failed => absurd rfl failed⟩
  | requestTimeout timeoutMs =>
    simp only [ProfileCall.apply, CassExecProfile.setRequestTimeout, ProfileCall.asked]
    cases requestTimeoutFromCValue timeoutMs <;> exact ⟨rfl, fun failed => absurd rfl failed⟩
  | retryPolicy policy =>
    simp only [ProfileCall.apply, CassExecProfile.setRetryPolicy, ProfileCall.asked]
    cases retryPolicyFromCValue policy <;> exact ⟨rfl, fun failed => absurd rfl failed⟩
  | noSpeculativeExecutionPolicy => exact ⟨rfl, fun failed => absurd rfl failed⟩
  | constantSpeculativeExecutionPolicy constantDelayMs maxSpeculativeExecutions =>
    simp only [ProfileCall.apply, CassExecProfile.setConstantSpeculativeExecutionPolicy,
      ProfileCall.asked]
    split
    · exact ⟨rfl, fun _ => rfl⟩
    · exact ⟨rfl, fun failed => absurd rfl failed⟩
  | loadBalancing call => exact ⟨rfl, fun _ => rfl⟩

theorem applyAll_cons (profile : CassExecProfile) (call : ProfileCall) (calls : List ProfileCall) :
    profile.applyAll fromStr (call :: calls) =
      ((call.apply fromStr profile).1 :: ((call.apply fromStr profile).2.applyAll fromStr calls).1,
        ((call.apply fromStr profile).2.applyAll fromStr calls).2) := rfl

theorem applyAll_slots (profile : CassExecProfile) (calls : List ProfileCall) :
    (profile.applyAll fromStr calls).2.slots =
      (calls.map ProfileCall.asked).foldl Slots.record profile.slots := by
  induction calls generalizing profile with
  | nil => rfl
  | cons call calls ih =>
    rw [applyAll_cons, ih, (apply_slots fromStr profile call).1]
    rfl

end Runs

/-- What a setting comes to: what the last accepted call set it to, or the default if there
is no such call or it unset the setting. -/
def settled {α : Type} (last : Option (MaybeUnsetConfig α)) (default : α) : α :=
  match last with
  | some (.set v) => v
  | _ => default

namespace Setting
variable {α : Type} (setting : Setting α)

/-- What the accepted calls asked for this setting, in order. -/
def history (calls : List ProfileCall) (codes : List CassError) : List (MaybeUnsetConfig α) :=
  (accepted calls codes).filterMap (fun call => setting.asks call.asked)

theorem slot_foldl (asked : List Asked) (slots : Slots) :
    setting.slot (asked.foldl Slots.record slots) =
      (asked.filterMap setting.asks).foldl Slot.record (setting.slot slots) := by
  induction asked generalizing slots with
  | nil => rfl
  | cons first asked ih =>
    rw [List.foldl_cons, ih, setting.records]
    cases is : setting.asks first with
    | none => rw [List.filterMap_cons_none is, Option.elim_none]
    | some what => rw [List.filterMap_cons_some is, Option.elim_some, List.foldl_cons]

theorem history_eq (fromStr : String → Option IpAddr) (profile : CassExecProfile)
    (calls : List ProfileCall) :
    setting.history calls (profile.applyAll fromStr calls).1 =
      (calls.map ProfileCall.asked).filterMap setting.asks := by
  induction calls generalizing profile with
  | nil => rfl
  | cons call calls ih =>
    have rest := ih (call.apply fromStr profile).2
    rw [history] at rest ⊢
    rw [applyAll_cons, List.map_cons, List.filterMap_cons]
    by_cases ok : (call.apply fromStr profile).1 = .ok
    · rw [ok, accepted_ok, List.filterMap_cons, rest]
    · rw [accepted_refused call calls _ ok, rest, (apply_slots fromStr profile call).2 ok,
        setting.silent]

theorem orDefault_record (asked : List (MaybeUnsetConfig α)) (default : α) :
    (asked.foldl Slot.record (false, none)).orDefault default =
      some (settled asked.getLast? default) := by
  induction asked using List.reverseRecOn with
  | nil => rfl
  | append_singleton asked last ih =>
    rw [List.foldl_append, List.getLast?_concat]
    cases last <;> rfl

theorem orDefault_applyAll (fromStr : String → Option IpAddr) (calls : List ProfileCall)
    (new : setting.slot ({} : CassExecProfile).slots = (false, none)) (default : α) :
    (setting.slot (({} : CassExecProfile).applyAll fromStr calls).2.slots).orDefault default =
      some (settled
        (setting.history calls (({} : CassExecProfile).applyAll fromStr calls).1).getLast?
        default) := by
  rw [applyAll_slots, slot_foldl, new, orDefault_record, history_eq]

end Setting

/-- The five modifications before a profile is built, together. -/
theorem useClusterDefaults_inner (profile : CassExecProfile) (defaultProfile : ExecutionProfile) :
    (profile.useClusterDefaultsForUnsetSettings defaultProfile).inner =
      { profile.inner with
        consistency := profile.slots.consistency.orDefault defaultConsistency
        serialConsistency :=
          profile.slots.serialConsistency.orDefault defaultProfile.serialConsistency
        requestTimeout := profile.slots.requestTimeout.orDefault defaultProfile.requestTimeout
        retryPolicy := profile.slots.retryPolicy.orDefault defaultProfile.retryPolicy
        speculativeExecutionPolicy := profile.slots.speculativeExecutionPolicy.orDefault
          defaultProfile.speculativeExecutionPolicy } := by
  obtain ⟨inner, ⟨consistency, serialConsistency, requestTimeout, retryPolicy,
    speculativeExecutionPolicy⟩, loadBalancingConfig⟩ := profile
  cases consistency <;> cases serialConsistency <;> cases requestTimeout <;>
    cases retryPolicy <;> cases speculativeExecutionPolicy <;> rfl

/-- Each setting of a built profile is what the last accepted call on it set it to, or the
cluster's; the consistency falls back to the driver's own default. -/
theorem built_profile_last_write_wins (fromStr : String → Option IpAddr)
    (calls : List ProfileCall) (defaults clusterDefaultProfile : ExecutionProfile) :
    let (codes, profile) := ({} : CassExecProfile).applyAll fromStr calls
    let built := profile.build defaults clusterDefaultProfile
    built.consistency =
      settled (Setting.consistency.history calls codes).getLast? defaultConsistency ∧
    built.serialConsistency =
      settled (Setting.serialConsistency.history calls codes).getLast?
        clusterDefaultProfile.serialConsistency ∧
    built.requestTimeout =
      settled (Setting.requestTimeout.history calls codes).getLast?
        clusterDefaultProfile.requestTimeout ∧
    built.retryPolicy =
      settled (Setting.retryPolicy.history calls codes).getLast?
        clusterDefaultProfile.retryPolicy ∧
    built.speculativeExecutionPolicy =
      settled (Setting.speculativeExecutionPolicy.history calls codes).getLast?
        clusterDefaultProfile.speculativeExecutionPolicy := by
  dsimp only [CassExecProfile.build, ExecutionProfileBuilder.build]
  rw [useClusterDefaults_inner]
  refine ⟨?_, ?_, ?_, ?_, ?_⟩
  · exact congrArg (Option.getD · _) (Setting.consistency.orDefault_applyAll fromStr calls rfl _)
  · exact congrArg (Option.getD · _)
      (Setting.serialConsistency.orDefault_applyAll fromStr calls rfl _)
  · exact congrArg (Option.getD · _) (Setting.requestTimeout.orDefault_applyAll fromStr calls rfl _)
  · exact congrArg (Option.getD · _) (Setting.retryPolicy.orDefault_applyAll fromStr calls rfl _)
  · exact congrArg (Option.getD · _)
      (Setting.speculativeExecutionPolicy.orDefault_applyAll fromStr calls rfl _)

end CppRsDriver.Session
