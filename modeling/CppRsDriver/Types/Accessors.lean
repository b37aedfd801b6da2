import CppRsDriver.Types.Contents

/-! What the getters of a data type say after any calls of its setters. -/
namespace CppRsDriver.Types

open CppRsDriver.Lib

namespace CassDataTypeInner
variable {D : Type}

def typeName : CassDataTypeInner D → Except CassError String
  | .udt u => .ok u.name
  | _ => .error .libInvalidValueType

-- the name of the type, not its keyspace, is what the source hands out
def keyspace : CassDataTypeInner D → Except CassError String
  | .udt u => .ok u.name
  | _ => .error .libInvalidValueType

def className : CassDataTypeInner D → Except CassError String
  | .custom name => .ok name
  | _ => .error .libInvalidValueType

def subTypeCount : CassDataTypeInner D → Nat
  | .value _ => 0
  | .udt u => u.fieldTypes.length
  | .list typ _ | .set typ _ => if typ.isSome then 1 else 0
  | .map .untyped _ => 0
  | .map (.key _) _ => 1
  | .map (.keyAndValue _ _) _ => 2
  | .tuple types => types.length
  | .vector _ _ => 1
  | .custom _ => 0

def subTypeName (inner : CassDataTypeInner D) (index : Nat) : Except CassError String :=
  match inner with
  | .udt u =>
    match u.fieldTypes[index]? with
    | none => .error .libIndexOutOfBounds
    | some (fieldName, _) => .ok fieldName
  | _ => .error .libInvalidValueType

/- A null pointer is no data type. -/
def subDataTypeByName (inner : CassDataTypeInner D) (name : CassStr) : Option D :=
  match name, inner with
  | .ok name, .udt u => (u.fieldTypes.find? (fun field => field.1 == name)).map Prod.snd
  | _, _ => none

/- What the data type stores, to compare the getters with. -/

def storedKeyspace : CassDataTypeInner D → Except CassError String
  | .udt u => .ok u.keyspace
  | _ => .error .libInvalidValueType

def fields : CassDataTypeInner D → Except CassError (List (String × D))
  | .udt u => .ok u.fieldTypes
  | _ => .error .libInvalidValueType

theorem subTypeCount_eq (inner : CassDataTypeInner D) : inner.subTypeCount = inner.children.length := by
  cases inner with
  | list typ | set typ => cases typ <;> rfl
  | map typ => cases typ <;> rfl
  | udt u => exact (List.length_map _).symm
  | _ => rfl

theorem getSubDataType_eq (inner : CassDataTypeInner D) (index : Nat) :
    inner.getSubDataType index = inner.children[index]? := by
  cases inner with
  | value | custom => rfl
  | udt u => exact List.getElem?_map.symm
  | tuple types => rfl
  | list typ | set typ => cases typ <;> cases index <;> rfl
  | map typ =>
    cases typ with
    | untyped => rfl
    | key k => cases index <;> rfl
    | keyAndValue k v =>
      match index with
      | 0 | 1 => rfl
      | _ + 2 => rfl
  | vector typ => cases index <;> rfl

end CassDataTypeInner

/-- The calls that change a data type, with what the caller's pointers are read as. -/
inductive TypeCall where
  | setTypeName (name : CassStr)
  | setKeyspace (keyspace : CassStr)
  | setClassName (className : CassStr)
  | addSubType (sub : Option Nat)
  | addSubTypeByName (name : CassStr) (sub : Option Nat)

/- A null pointer or a name that is no UTF-8 is rejected. -/
def withStr (name : CassStr) (next : String → Except CassError (CassDataTypeInner Nat)) :
    Except CassError (CassDataTypeInner Nat) :=
  match name with
  | .ok name => next name
  | .error _ => .error .libBadParams

def withType (sub : Option Nat) (next : Nat → Except CassError (CassDataTypeInner Nat)) :
    Except CassError (CassDataTypeInner Nat) :=
  match sub with
  | some sub => next sub
  | none => .error .libBadParams

namespace TypeCall

def apply (inner : CassDataTypeInner Nat) : TypeCall → Except CassError (CassDataTypeInner Nat)
  | .setTypeName name => withStr name (Types.setTypeName inner)
  | .setKeyspace keyspace => withStr keyspace (Types.setKeyspace inner)
  | .setClassName className => withStr className (Types.setClassName inner)
  | .addSubType sub => withType sub inner.addSubDataType
  | .addSubTypeByName name sub =>
    withType sub (fun sub => withStr name (fun name => Types.addSubTypeByName inner name sub))

/-- The data type after all the calls, and the calls that were accepted. -/
def applyAll (inner : CassDataTypeInner Nat) : List TypeCall → CassDataTypeInner Nat × List TypeCall
  | [] => (inner, [])
  | call :: rest =>
    match call.apply inner with
    | .ok next => ((applyAll next rest).1, call :: (applyAll next rest).2)
    | .error _ => applyAll inner rest

/- What a call gives to a data type that accepts it. -/

def givenTypeName : TypeCall → Option String
  | .setTypeName (.ok name) => some name
  | _ => none

def givenKeyspace : TypeCall → Option String
  | .setKeyspace (.ok keyspace) => some keyspace
  | _ => none

def givenClassName : TypeCall → Option String
  | .setClassName (.ok className) => some className
  | _ => none

def addedSubType : TypeCall → Option Nat
  | .addSubType sub | .addSubTypeByName _ sub => sub
  | _ => none

def addedField : TypeCall → Option (String × Nat)
  | .addSubTypeByName (.ok name) (some sub) => some (name, sub)
  | _ => none

variable {inner next : CassDataTypeInner Nat}

theorem withStr_ok {name : CassStr} {f : String → Except CassError (CassDataTypeInner Nat)}
    (accepted : withStr name f = .ok next) : ∃ str, name = .ok str ∧ f str = .ok next := by
  cases name with
  | ok str => exact ⟨str, rfl, accepted⟩
  | error e => cases accepted

theorem withType_ok {sub : Option Nat} {f : Nat → Except CassError (CassDataTypeInner Nat)}
    (accepted : withType sub f = .ok next) : ∃ d, sub = some d ∧ f d = .ok next := by
  cases sub with
  | some d => exact ⟨d, rfl, accepted⟩
  | none => cases accepted

/-- What an accepted call changes: what it gives, and nothing else. -/
structure Accepted (inner : CassDataTypeInner Nat) (call : TypeCall) (next : CassDataTypeInner Nat) :
    Prop where
  typeName : next.typeName = inner.typeName.map (call.givenTypeName.getD ·)
  keyspace : next.storedKeyspace = inner.storedKeyspace.map (call.givenKeyspace.getD ·)
  className : next.className = inner.className.map (call.givenClassName.getD ·)
  children : next.children = inner.children ++ call.addedSubType.toList
  fields : next.fields = inner.fields.map (· ++ call.addedField.toList)

theorem apply_accepted {call : TypeCall} (accepted : call.apply inner = .ok next) :
    Accepted inner call next := by
  cases call with
  | setTypeName name =>
    obtain ⟨str, rfl, changed⟩ := withStr_ok accepted
    obtain ⟨u, rfl, rfl⟩ := onUdt_ok changed
    exact ⟨rfl, rfl, rfl, (List.append_nil _).symm, congrArg _ (List.append_nil _).symm⟩
  | setKeyspace keyspace =>
    obtain ⟨str, rfl, changed⟩ := withStr_ok accepted
    obtain ⟨u, rfl, rfl⟩ := onUdt_ok changed
    exact ⟨rfl, rfl, rfl, (List.append_nil _).symm, congrArg _ (List.append_nil _).symm⟩
  | setClassName className =>
    obtain ⟨str, rfl, changed⟩ := withStr_ok accepted
    cases inner with
    | custom old =>
      cases changed
      exact ⟨rfl, rfl, rfl, rfl, rfl⟩
    | _ => cases changed
  | addSubType sub =>
    obtain ⟨d, rfl, added⟩ := withType_ok accepted
    unfold CassDataTypeInner.addSubDataType at added
    split at added
    all_goals cases added
    all_goals exact ⟨rfl, rfl, rfl, rfl, rfl⟩
  | addSubTypeByName name sub =>
    obtain ⟨d, rfl, accepted⟩ := withType_ok accepted
    obtain ⟨str, rfl, added⟩ := withStr_ok accepted
    obtain ⟨u, rfl, rfl⟩ := onUdt_ok added
    exact ⟨rfl, rfl, rfl, List.map_append, rfl⟩

/-- What a data type stores after the accepted calls: the last name each setter was given
and all that was added, in order. -/
structure Stores (inner : CassDataTypeInner Nat) (history : List TypeCall)
    (after : CassDataTypeInner Nat) : Prop where
  typeName : after.typeName = inner.typeName.map ((history.filterMap givenTypeName).getLastD ·)
  keyspace : after.storedKeyspace =
    inner.storedKeyspace.map ((history.filterMap givenKeyspace).getLastD ·)
  className : after.className = inner.className.map ((history.filterMap givenClassName).getLastD ·)
  children : after.children = inner.children ++ history.filterMap addedSubType
  fields : after.fields = inner.fields.map (· ++ history.filterMap addedField)

theorem applyAll_stores (inner : CassDataTypeInner Nat) (calls : List TypeCall) :
    Stores inner (applyAll inner calls).2 (applyAll inner calls).1 := by
  induction calls generalizing inner with
  | nil =>
    have same : ∀ {α : Type} (e : Except CassError α), e = e.map (fun x => x) := by
      intro α e
      cases e <;> rfl
    refine ⟨same _, same _, same _, (List.append_nil _).symm, ?_⟩
    simp only [applyAll, List.filterMap_nil, List.append_nil]
    exact same _
  | cons call rest ih =>
    cases applied : call.apply inner with
    | error e =>
      simp only [applyAll, applied]
      exact ih inner
    | ok next =>
      have step := apply_accepted applied
      have later := ih next
      simp only [applyAll, applied]
      refine ⟨?_, ?_, ?_, ?_, ?_⟩
      · simp only [later.typeName, step.typeName, map_map, getLastD_filterMap_cons]
      · simp only [later.keyspace, step.keyspace, map_map, getLastD_filterMap_cons]
      · simp only [later.className, step.className, map_map, getLastD_filterMap_cons]
      · rw [later.children, step.children, append_filterMap_cons]
      · simp only [later.fields, step.fields, map_map, append_filterMap_cons]

/- Every name given to a user-defined type is accepted. -/
theorem applyAll_udt (u : UdtDataType Nat) (calls : List TypeCall) :
    (applyAll (.udt u) calls).2.filterMap givenTypeName = calls.filterMap givenTypeName ∧
      (applyAll (.udt u) calls).2.filterMap givenKeyspace = calls.filterMap givenKeyspace := by
  induction calls generalizing u with
  | nil => exact ⟨rfl, rfl⟩
  | cons call rest ih =>
    cases applied : call.apply (.udt u) with
    | error e =>
      have nothing : call.givenTypeName = none ∧ call.givenKeyspace = none := by
        cases call with
        | setTypeName name | setKeyspace name =>
          cases name with
          | ok str => cases applied
          | error e => exact ⟨rfl, rfl⟩
        | _ => exact ⟨rfl, rfl⟩
      rw [List.filterMap_cons_none nothing.1, List.filterMap_cons_none nothing.2]
      simp only [applyAll, applied]
      exact ih u
    | ok next =>
      have step := apply_accepted applied
      obtain ⟨v, rfl⟩ : ∃ v, next = .udt v := by
        cases next with
        | udt v => exact ⟨v, rfl⟩
        | _ => cases step.typeName
      obtain ⟨names, keyspaces⟩ := ih v
      simp only [applyAll, applied, List.filterMap_cons, names, keyspaces, and_self]

end TypeCall

/- The name of the field at an index, and nothing beyond the last one. -/
def nameAt {D : Type} (fields : List (String × D)) (index : Nat) : Except CassError String :=
  (fields[index]?.map (fun field => Except.ok field.1)).getD (.error .libIndexOutOfBounds)

/-- The getters tell what the accepted calls have given to the data type. -/
structure Reflects (initial : CassDataTypeInner Nat) (history : List TypeCall)
    (after : CassDataTypeInner Nat) : Prop where
  typeName : after.typeName =
    initial.typeName.map ((history.filterMap TypeCall.givenTypeName).getLastD ·)
  keyspace : after.keyspace =
    initial.storedKeyspace.map ((history.filterMap TypeCall.givenKeyspace).getLastD ·)
  className : after.className =
    initial.className.map ((history.filterMap TypeCall.givenClassName).getLastD ·)
  subTypeCount : after.subTypeCount =
    initial.subTypeCount + (history.filterMap TypeCall.addedSubType).length
  subDataType : ∀ index, after.getSubDataType index =
    (initial.children ++ history.filterMap TypeCall.addedSubType)[index]?
  subTypeName : ∀ index, after.subTypeName index = initial.fields.bind (fun fields =>
    nameAt (fields ++ history.filterMap TypeCall.addedField) index)
  subDataTypeByName : ∀ name : String, after.subDataTypeByName (.ok name) =
    (initial.fields.toOption.bind (fun fields =>
      (fields ++ history.filterMap TypeCall.addedField).find? (fun field => field.1 == name))).map Prod.snd

section Getters
variable {D : Type} (inner : CassDataTypeInner D)

theorem keyspace_eq_typeName : inner.keyspace = inner.typeName := by
  cases inner <;> rfl

theorem subTypeName_eq (index : Nat) :
    inner.subTypeName index = inner.fields.bind (fun fields => nameAt fields index) := by
  cases inner with
  | udt u =>
    simp only [CassDataTypeInner.subTypeName, CassDataTypeInner.fields, Except.bind, nameAt]
    cases u.fieldTypes[index]? <;> rfl
  | _ => rfl

theorem subDataTypeByName_eq (name : String) : inner.subDataTypeByName (.ok name) =
    (inner.fields.toOption.bind (fun fields =>
      fields.find? (fun field => field.1 == name))).map Prod.snd := by
  cases inner <;> rfl

end Getters

/-- The getters tell the history of a data type unless it is a user-defined type whose
keyspace and type name differ: the getter of the keyspace hands out the type name. -/
theorem accessors_reflect_history_iff (initial : CassDataTypeInner Nat) (calls : List TypeCall) :
    Reflects initial (TypeCall.applyAll initial calls).2 (TypeCall.applyAll initial calls).1 ↔
      ∀ u, initial = .udt u →
        (calls.filterMap TypeCall.givenTypeName).getLastD u.name =
          (calls.filterMap TypeCall.givenKeyspace).getLastD u.keyspace := by
  have stores := TypeCall.applyAll_stores initial calls
  constructor
  · rintro reflects u rfl
    obtain ⟨names, keyspaces⟩ := TypeCall.applyAll_udt u calls
    have same := reflects.keyspace
    rw [keyspace_eq_typeName, stores.typeName, names, keyspaces] at same
    exact Except.ok.inj same
  · intro equal
    refine ⟨stores.typeName, ?_, stores.className, ?_, ?_, ?_, ?_⟩
    · rw [keyspace_eq_typeName, stores.typeName]
      cases initial with
      | udt u =>
        obtain ⟨names, keyspaces⟩ := TypeCall.applyAll_udt u calls
        rw [names, keyspaces]
        exact congrArg _ (equal u rfl)
      | _ => rfl
    · rw [CassDataTypeInner.subTypeCount_eq, CassDataTypeInner.subTypeCount_eq, stores.children,
        List.length_append]
    · intro index
      rw [CassDataTypeInner.getSubDataType_eq, stores.children]
    · intro index
      rw [subTypeName_eq, stores.fields]
      cases initial.fields <;> rfl
    · intro name
      rw [subDataTypeByName_eq, stores.fields]
      cases initial.fields <;> rfl

/- A new type named in a keyspace: its name comes back as the keyspace. -/
theorem keyspace_returns_type_name :
    ∃ after, TypeCall.applyAll (.udt {}) [.setTypeName (.ok "address"), .setKeyspace (.ok "shop")] =
        (after, [.setTypeName (.ok "address"), .setKeyspace (.ok "shop")]) ∧
      after.keyspace = .ok "address" ∧
      ¬ Reflects (.udt {}) [.setTypeName (.ok "address"), .setKeyspace (.ok "shop")] after := by
  refine ⟨.udt { name := "address", keyspace := "shop" }, rfl, rfl, fun reflects => ?_⟩
  have same : "address" = "shop" := Except.ok.inj reflects.keyspace
  exact absurd same (by decide)

end CppRsDriver.Types
