import CppRsDriver.Basic
import Mathlib.Data.List.Basic

/-! Load balancing configurations and the filtering rules built from them.
A missing datacenter is read as the empty string, as the driver does; an empty
white- or blacklist is no rule at all. -/
namespace CppRsDriver.LoadBalancing

/-- Whether the policy may contact hosts of remote datacenters. -/
inductive DcRestriction where
  | none
  | local (dc : String)
  deriving DecidableEq, Repr

structure FilteringConfig where
  whitelistHosts : List IpAddr := []
  blacklistHosts : List IpAddr := []
  whitelistDc : List String := []
  blacklistDc : List String := []
  dcRestriction : DcRestriction := .none
  deriving DecidableEq, Repr

inductive AllowedDcs where
  | all
  | whitelist (dcs : List String)
  deriving DecidableEq, Repr

structure FilteringInfo where
  whitelistHosts : Option (List IpAddr)
  blacklistHosts : Option (List IpAddr)
  whitelistDc : Option (List String)
  blacklistDc : Option (List String)
  allowedDcs : AllowedDcs
  deriving DecidableEq, Repr

/-- `(!list.is_empty()).then_some(list)`. -/
def thenSomeNonempty {α : Type} (list : List α) : Option (List α) :=
  if list.isEmpty then none else some list

def FilteringConfig.intoFilteringInfo (config : FilteringConfig) : FilteringInfo where
  whitelistHosts := thenSomeNonempty config.whitelistHosts
  blacklistHosts := thenSomeNonempty config.blacklistHosts
  whitelistDc := thenSomeNonempty config.whitelistDc
  blacklistDc := thenSomeNonempty config.blacklistDc
  allowedDcs :=
    match config.dcRestriction with
    | .none => .all
    | .local localDc => .whitelist [localDc]

def FilteringInfo.isHostAllowed (info : FilteringInfo) (ip : IpAddr) (dc : Option String) : Bool :=
  let dc := dc.getD ""
  let outsideAllowedDcs :=
    match info.allowedDcs with
    | .all => false
    | .whitelist allowedDcs => !allowedDcs.any (fun allowedDc => allowedDc == dc)
  if outsideAllowedDcs then false
  else if info.whitelistHosts.any (fun wl => !wl.contains ip) then false
  else if info.blacklistHosts.any (fun bl => bl.contains ip) then false
  else if info.whitelistDc.any (fun wl => !wl.any (fun wlDc => wlDc == dc)) then false
  else if info.blacklistDc.any (fun bl => bl.any (fun blDc => blDc == dc)) then false
  else true

inductive LoadBalancingKind where
  | roundRobin
  | dcAware (localDc : String) (permitDcFailover allowRemoteDcsForLocalCl : Bool)
  | rackAware (localDc localRack : String)
  deriving DecidableEq, Repr

structure LoadBalancingConfig where
  tokenAwarenessEnabled : Bool := true
  tokenAwareShufflingReplicasEnabled : Bool := true
  loadBalancingKind : Option LoadBalancingKind := none
  latencyAwarenessEnabled : Bool := false
  filtering : FilteringConfig := {}
  deriving DecidableEq, Repr

/-- Whether remote datacenters may be contacted at a local consistency level. -/
inductive DcLocalConsistencyAllowance where
  | allowAll
  | disallowRemotes (localDc : String)
  deriving DecidableEq, Repr

/-- The settings handed to the `DefaultPolicyBuilder` of the scylla crate. -/
structure ChildPolicy where
  tokenAware : Bool
  shufflingReplicas : Option Bool
  preferredDatacenter : Option String
  preferredRack : Option String
  permitDcFailover : Option Bool
  latencyAwareness : Bool
  deriving DecidableEq, Repr

structure FilteringLoadBalancingPolicy where
  filtering : FilteringInfo
  dcLocalClAllowance : DcLocalConsistencyAllowance
  childPolicy : ChildPolicy
  deriving DecidableEq, Repr

def LoadBalancingConfig.build (config : LoadBalancingConfig) : FilteringLoadBalancingPolicy :=
  let builder : ChildPolicy :=
    { tokenAware := config.tokenAwarenessEnabled
      shufflingReplicas :=
        if config.tokenAwarenessEnabled then some config.tokenAwareShufflingReplicasEnabled else none
      preferredDatacenter := none
      preferredRack := none
      permitDcFailover := none
      latencyAwareness := config.latencyAwarenessEnabled }
  match config.loadBalancingKind.getD .roundRobin with
  | .dcAware localDc permitDcFailover allowRemoteDcsForLocalCl =>
    { filtering := config.filtering.intoFilteringInfo
      dcLocalClAllowance :=
        if allowRemoteDcsForLocalCl then .allowAll else .disallowRemotes localDc
      childPolicy :=
        { builder with
          preferredDatacenter := some localDc
          permitDcFailover := some permitDcFailover } }
  | .rackAware localDc localRack =>
    { filtering := config.filtering.intoFilteringInfo
      dcLocalClAllowance := .allowAll
      childPolicy :=
        { builder with
          preferredDatacenter := some localDc
          preferredRack := some localRack
          permitDcFailover := some true } }
  | .roundRobin =>
    { filtering := config.filtering.intoFilteringInfo
      dcLocalClAllowance := .allowAll
      childPolicy := builder }

/- The rules of a filter, kind by kind. The code runs them in a row and never
names them; a kind says which of its tests turned a host away. -/

inductive RuleKind where
  | allowedDcs
  | whitelistHosts
  | blacklistHosts
  | whitelistDc
  | blacklistDc
  deriving DecidableEq, Repr

def FilteringInfo.rejectsBy (info : FilteringInfo) (ip : IpAddr) (dc : Option String) :
    RuleKind → Bool
  | .allowedDcs =>
    match info.allowedDcs with
    | .all => false
    | .whitelist allowedDcs => !allowedDcs.contains (dc.getD "")
  | .whitelistHosts => info.whitelistHosts.any (fun wl => !wl.contains ip)
  | .blacklistHosts => info.blacklistHosts.any (fun bl => bl.contains ip)
  | .whitelistDc => info.whitelistDc.any (fun wl => !wl.contains (dc.getD ""))
  | .blacklistDc => info.blacklistDc.any (fun bl => bl.contains (dc.getD ""))

theorem any_beq_eq_contains (dcs : List String) (dc : String) :
    dcs.any (fun d => d == dc) = dcs.contains dc := by
  induction dcs with
  | nil => rfl
  | cons d rest ih => rw [List.any_cons, List.contains_cons, ih, Bool.beq_comm]

theorem isHostAllowed_eq (info : FilteringInfo) (ip : IpAddr) (dc : Option String) :
    info.isHostAllowed ip dc =
      !(info.rejectsBy ip dc .allowedDcs || info.rejectsBy ip dc .whitelistHosts ||
        info.rejectsBy ip dc .blacklistHosts || info.rejectsBy ip dc .whitelistDc ||
        info.rejectsBy ip dc .blacklistDc) := by
  simp only [FilteringInfo.isHostAllowed, any_beq_eq_contains]
  change (if info.rejectsBy ip dc .allowedDcs = true then false
    else if info.rejectsBy ip dc .whitelistHosts = true then false
    else if info.rejectsBy ip dc .blacklistHosts = true then false
    else if info.rejectsBy ip dc .whitelistDc = true then false
    else if info.rejectsBy ip dc .blacklistDc = true then false else true) = _
  cases info.rejectsBy ip dc .allowedDcs <;> cases info.rejectsBy ip dc .whitelistHosts <;>
    cases info.rejectsBy ip dc .blacklistHosts <;> cases info.rejectsBy ip dc .whitelistDc <;>
    cases info.rejectsBy ip dc .blacklistDc <;> rfl

theorem rejected_iff_rule (info : FilteringInfo) (ip : IpAddr) (dc : Option String) :
    info.isHostAllowed ip dc = false ↔ ∃ kind, info.rejectsBy ip dc kind = true := by
  simp only [isHostAllowed_eq, Bool.not_eq_false', Bool.or_eq_true]
  constructor
  · rintro ((((h | h) | h) | h) | h)
    · exact ⟨.allowedDcs, h⟩
    · exact ⟨.whitelistHosts, h⟩
    · exact ⟨.blacklistHosts, h⟩
    · exact ⟨.whitelistDc, h⟩
    · exact ⟨.blacklistDc, h⟩
  · rintro ⟨kind, rejects⟩
    cases kind <;> simp only [rejects, true_or, or_true]

theorem allowed_iff_no_rule (info : FilteringInfo) (ip : IpAddr) (dc : Option String) :
    info.isHostAllowed ip dc = true ↔ ∀ kind, info.rejectsBy ip dc kind = false := by
  have rejected := rejected_iff_rule info ip dc
  rw [← not_iff_not, Bool.not_eq_true, rejected]
  simp only [not_forall, Bool.not_eq_false]

end CppRsDriver.LoadBalancing
