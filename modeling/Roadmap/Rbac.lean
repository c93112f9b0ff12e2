import Roadmap.Base.Except
import Roadmap.Base.Json
import Roadmap.Inventory

/-! RBAC v1 permissions and the host groups they allow. An empty set of groups is the
code for unrestricted access, and None stands for the ungrouped group. -/
namespace Roadmap.Rbac
open Sql

abbrev Permission := List (String × Json)

def inventoryAccessPerms : List String :=
  ["inventory:*:*","inventory:*:read","inventory:hosts:read","inventory:hosts:*"]

/-- `UUID(text)` accepts the text. -/
def isUuid (text : String) : Bool :=
  let hex := Text.replaceChar '-' [] (Text.strip ['{','}']
    (Text.replace "uuid:" "" (Text.replace "urn:" "" text.toList)))
  hex.length = 32 && match Text.intOf 16 hex with
    | some value => decide (0 ≤ value ∧ value < 2 ^ 128)
    | none => false

def invalidKey : PyError :=
  .httpException 501 "Invalid value for attributeFilter.key in RBAC response."

def invalidOperation : PyError :=
  .httpException 501 "Invalid value for attributeFilter.operation in RBAC response."

def notList : PyError :=
  .httpException 501 "Did not receive a list for attributeFilter.value in RBAC response."

def notStr : PyError :=
  .httpException 501 "Did not receive a str for attributeFilter.value in RBAC response."

def invalidUuids : PyError :=
  .httpException 501 "Received invalid UUIDs for attributeFilter.value in RBAC response."

def noAttributeFilter : PyError :=
  .httpException 501 "RBAC resourceDefinition had no attributeFilter."

def notAuthorized : PyError := .httpException 403 "Not authorized to access host inventory"

/-- Validates one value of the filter. `UUID` of a value that is not a text fails with
an AttributeError, which the handler does not catch. -/
def checkGid : Json → Except PyError (Option String)
  | .null => .ok none
  | .str text => if isUuid text then .ok (some text) else .error invalidUuids
  | _ => .error .attributeError

def filterValues (op val : Json) : Except PyError (List Json) :=
  if op.isText "in" then
    match val with
    | .arr values => .ok values
    | _ => .error notList
  else
    match val with
    | .str text => .ok [.str text]
    | _ => .error notStr

def attributeFilterGroups (attributeFilter : Json) : Except PyError (List (Option String)) := do
  let key ← attributeFilter.get "key"
  if key.isText "group.id" then
    let op ← attributeFilter.get "operation"
    if op.isText "in" || op.isText "equal" then
      let values ← filterValues op (← attributeFilter.get "value")
      values.mapM checkGid
    else .error invalidOperation
  else .error invalidKey

def getGroupListFromResourceDefinition (resourceDefinition : Json) :
    Except PyError (List (Option String)) := do
  let attributeFilter ← resourceDefinition.get "attributeFilter"
  if attributeFilter.truthy then attributeFilterGroups attributeFilter
  else .error noAttributeFilter

def hostPermissions : List Permission → Except PyError (List Permission)
  | [] => .ok []
  | perm :: rest => do
    let isHost ← ((perm.lookup "permission").getD .null).memberOf inventoryAccessPerms
    let others ← hostPermissions rest
    return if isHost then perm :: others else others

def updateAllowed : List Json → Finset (Option String) → Except PyError (Finset (Option String))
  | [],allowed => .ok allowed
  | definition :: rest,allowed => do
    let groupList ← getGroupListFromResourceDefinition definition
    updateAllowed rest (allowed ∪ groupList.toFinset)

def collectAllowed : List Permission → Finset (Option String) → Except PyError (Finset (Option String))
  | [],allowed => .ok allowed
  | perm :: rest,allowed => do
    let definitions ← Json.subscript (.obj perm) "resourceDefinitions"
    -- Any record with an empty resourceDefinition means unrestricted access.
    if definitions.truthy then
      let updated ← updateAllowed (← definitions.elements) allowed
      collectAllowed rest updated
    else .ok ∅

def allowedHostGroupsV1 (permissions : List Permission) : Except PyError (Finset (Option String)) := do
  let accepted ← hostPermissions permissions
  if accepted.isEmpty then .error notAuthorized else collectAllowed accepted ∅

/-! What the permissions say, and that the allowed groups say the same. -/

def ReadsHosts (perm : Permission) : Prop :=
  ∃ name ∈ inventoryAccessPerms, perm.lookup "permission" = some (.str name)

/-- An empty resourceDefinitions: no restriction to groups. -/
def Unrestricted (perm : Permission) : Prop :=
  ∃ definitions, perm.lookup "resourceDefinitions" = some definitions ∧ definitions.truthy = false

def groupValue : Option String → Json
  | none => .null
  | some id => .str id

def FilterNames (attributeFilter : List (String × Json)) (group : Option String) : Prop :=
  (attributeFilter.lookup "operation" = some (.str "equal") ∧ group ≠ none ∧
    attributeFilter.lookup "value" = some (groupValue group)) ∨
  (attributeFilter.lookup "operation" = some (.str "in") ∧
    ∃ values, attributeFilter.lookup "value" = some (.arr values) ∧ groupValue group ∈ values)

def DefinitionNames (definition : Json) (group : Option String) : Prop :=
  ∃ fields attributeFilter, definition = .obj fields ∧
    fields.lookup "attributeFilter" = some (.obj attributeFilter) ∧ FilterNames attributeFilter group

def Names (perm : Permission) (group : Option String) : Prop :=
  ∃ definitions, perm.lookup "resourceDefinitions" = some (.arr definitions) ∧
    ∃ definition ∈ definitions, DefinitionNames definition group

/-- What the permissions say about a host, whatever order they come in. -/
def Granted (permissions : List Permission) (host : HostRecord) : Prop :=
  ∃ perm ∈ permissions, ReadsHosts perm ∧ (Unrestricted perm ∨
    (∃ group ∈ host.groups, ∃ id, group.id = some id ∧ Names perm (some id)) ∨
    (Names perm none ∧ ∃ group ∈ host.groups, group.ungrouped = some true))

theorem get_ok {value : Json} {key : String} {item : Json} (ok : value.get key = .ok item) :
    ∃ fields, value = .obj fields ∧ item = (fields.lookup key).getD .null := by
  cases value <;> simp_all [Json.get,eq_comm]

theorem isText_iff (value : Json) (text : String) : value.isText text = true ↔ value = .str text := by
  cases value <;> simp [Json.isText]

private theorem checkGid_ok {value : Json} {group : Option String} (ok : checkGid value = .ok group) :
    value = groupValue group := by
  cases value with
  | null => cases ok; rfl
  | str gid =>
    simp only [checkGid] at ok
    split at ok
    · cases ok; rfl
    · cases ok
  | _ => cases ok

private theorem groupValue_inj {left right : Option String} (same : groupValue left = groupValue right) :
    left = right := by
  cases left <;> cases right <;> simp_all [groupValue]

private theorem mem_checked {values : List Json} {groups : List (Option String)}
    (ok : values.mapM checkGid = .ok groups) (group : Option String) :
    group ∈ groups ↔ groupValue group ∈ values := by
  constructor
  · intro member
    obtain ⟨value,listed,checked⟩ := Except.mapM_source ok member
    exact checkGid_ok checked ▸ listed
  · intro listed
    obtain ⟨checked,member,same⟩ := Except.mapM_image ok listed
    exact groupValue_inj (checkGid_ok same) ▸ member

private theorem filterValues_ok {attributeFilter : List (String × Json)} {op val : Json}
    {values : List Json} (operation : attributeFilter.lookup "operation" = some op)
    (value : attributeFilter.lookup "value" = some val)
    (known : op = .str "in" ∨ op = .str "equal") (ok : filterValues op val = .ok values)
    (group : Option String) : groupValue group ∈ values ↔ FilterNames attributeFilter group := by
  unfold filterValues at ok
  rcases known with rfl | rfl
  · rw [if_pos ((isText_iff _ _).mpr rfl)] at ok
    split at ok
    next listed => cases ok; simp [FilterNames,operation,value]
    next => contradiction
  · rw [if_neg (by simp [isText_iff])] at ok
    split at ok
    next text =>
      cases ok
      cases group <;> simp [FilterNames,operation,value,groupValue,eq_comm]
    next => contradiction

theorem lookup_of_getD {fields : List (String × Json)} {key : String} {value : Json}
    (same : (fields.lookup key).getD .null = value) (present : value ≠ .null) :
    fields.lookup key = some value := by
  cases found : fields.lookup key <;> simp_all

/-- A validated filter yields the values it names, and it yields no value but these. -/
theorem attributeFilter_groups {attributeFilter : Json} {groups : List (Option String)}
    (ok : attributeFilterGroups attributeFilter = .ok groups) :
    ∃ fields, attributeFilter = .obj fields ∧ ∀ group, group ∈ groups ↔ FilterNames fields group := by
  obtain ⟨key,held,ok⟩ := Except.bind_ok.mp ok
  obtain ⟨fields,rfl,-⟩ := get_ok held
  refine ⟨fields,rfl,fun group => ?_⟩
  split at ok
  · obtain ⟨op,opHeld,ok⟩ := Except.bind_ok.mp ok
    split at ok
    next known =>
      obtain ⟨val,valHeld,ok⟩ := Except.bind_ok.mp ok
      obtain ⟨values,read,checked⟩ := Except.bind_ok.mp ok
      simp only [Bool.or_eq_true,isText_iff] at known
      simp only [Json.get,Except.ok.injEq] at opHeld valHeld
      have operation := lookup_of_getD opHeld (by rcases known with rfl | rfl <;> simp)
      have value := lookup_of_getD valHeld (by
        rintro rfl
        simp only [filterValues] at read
        split at read <;> contradiction)
      rw [mem_checked checked,filterValues_ok operation value known read]
    next => contradiction
  · contradiction

theorem definition_groups {definition : Json} {groups : List (Option String)}
    (ok : getGroupListFromResourceDefinition definition = .ok groups) (group : Option String) :
    group ∈ groups ↔ DefinitionNames definition group := by
  obtain ⟨attributeFilter,held,accepted⟩ := Except.bind_ok.mp ok
  obtain ⟨fields,rfl,same⟩ := get_ok held
  split at accepted
  · obtain ⟨inner,equal,named⟩ := attributeFilter_groups accepted
    have found := lookup_of_getD (same.symm.trans equal) (by simp)
    simp [named,DefinitionNames,found]
  · contradiction

theorem update_allowed {definitions : List Json} {allowed result : Finset (Option String)}
    (ok : updateAllowed definitions allowed = .ok result) (group : Option String) :
    group ∈ result ↔ group ∈ allowed ∨ ∃ definition ∈ definitions, DefinitionNames definition group := by
  induction definitions generalizing allowed with
  | nil => cases ok; simp
  | cons definition rest ih =>
    obtain ⟨groups,read,ok⟩ := Except.bind_ok.mp ok
    rw [ih ok]
    simp [definition_groups read,or_assoc]

private theorem elements_list {definitions : Json} {items : List Json}
    (truthy : definitions.truthy = true) (listed : definitions.elements = .ok items)
    {allowed result : Finset (Option String)} (ok : updateAllowed items allowed = .ok result) :
    definitions = .arr items := by
  cases definitions with
  | arr values => cases listed; rfl
  | str text =>
    cases listed
    cases chars : text.toList with
    | nil => simp [String.toList_eq_nil_iff.mp chars,Json.truthy] at truthy
    | cons char rest => rw [chars] at ok; cases ok
  | obj fields =>
    cases listed
    cases fields with
    | nil => simp [Json.truthy] at truthy
    | cons field rest => cases ok
  | _ => cases listed

/-- The loop returns the empty set at the first permission without restriction; else it
gathers the values that the permissions name. -/
theorem collect_allowed {permissions : List Permission} {allowed result : Finset (Option String)}
    (ok : collectAllowed permissions allowed = .ok result) :
    (∃ perm ∈ permissions, Unrestricted perm) ∧ result = ∅ ∨
    (∀ perm ∈ permissions, ¬ Unrestricted perm) ∧
      ∀ group, group ∈ result ↔ group ∈ allowed ∨ ∃ perm ∈ permissions, Names perm group := by
  induction permissions generalizing allowed with
  | nil => cases ok; simp
  | cons perm rest ih =>
    obtain ⟨definitions,held,ok⟩ := Except.bind_ok.mp ok
    have found : perm.lookup "resourceDefinitions" = some definitions := by
      simp only [Json.subscript] at held
      split at held
      · cases held; assumption
      · contradiction
    split at ok
    next truthy =>
      obtain ⟨items,listed,updates⟩ := Except.bind_ok.mp ok
      obtain ⟨updated,read,continued⟩ := Except.bind_ok.mp updates
      have list := elements_list truthy listed read
      subst list
      have restricted : ¬ Unrestricted perm := by simp [Unrestricted,found,truthy]
      have names : ∀ group, Names perm group ↔ ∃ definition ∈ items, DefinitionNames definition group := by
        simp [Names,found]
      rcases ih continued with ⟨⟨free,member,unrestricted⟩,empty⟩ | ⟨closed,gathered⟩
      · exact Or.inl ⟨⟨free,by simp [member],unrestricted⟩,empty⟩
      · refine Or.inr ⟨by simpa [restricted] using closed,fun group => ?_⟩
        rw [gathered,update_allowed read]
        simp [names,or_assoc]
    next falsy =>
      cases ok
      exact Or.inl ⟨⟨perm,by simp,definitions,found,by simpa using falsy⟩,rfl⟩

theorem host_permissions {permissions accepted : List Permission}
    (ok : hostPermissions permissions = .ok accepted) (perm : Permission) :
    perm ∈ accepted ↔ perm ∈ permissions ∧ ReadsHosts perm := by
  induction permissions generalizing accepted with
  | nil => cases ok; simp
  | cons head rest ih =>
    obtain ⟨isHost,tested,ok⟩ := Except.bind_ok.mp ok
    obtain ⟨others,kept,ok⟩ := Except.bind_ok.mp ok
    cases ok
    have reads : isHost = true ↔ ReadsHosts head := by
      unfold ReadsHosts
      cases found : head.lookup "permission" with
      | none => rw [found] at tested; cases tested; simp
      | some value =>
        rw [found] at tested
        cases value <;> cases tested <;> simp
    cases isHost <;> simp only [Bool.false_eq_true,false_iff,true_iff,if_false,if_true] at reads ⊢
    · rw [ih kept]
      constructor
      · exact fun ⟨member,host⟩ => ⟨by simp [member],host⟩
      · rintro ⟨member,host⟩
        rcases List.mem_cons.mp member with rfl | inside
        · exact absurd host reads
        · exact ⟨inside,host⟩
    · rw [List.mem_cons,ih kept,List.mem_cons]
      constructor
      · rintro (rfl | ⟨member,host⟩)
        · exact ⟨Or.inl rfl,reads⟩
        · exact ⟨Or.inr member,host⟩
      · rintro ⟨rfl | member,host⟩
        · exact Or.inl rfl
        · exact Or.inr ⟨member,host⟩

/-- The filter built from the allowed groups keeps the granted hosts, and no restriction
is lifted without a permission that says so. -/
def FilterMatchesPermissions (permissions : List Permission) (allowed : Finset (Option String)) : Prop :=
  (∀ (params : Params) (row : Joined), params.hostGroups = allowed →
    (Holds (hostGroupsFilter allowed params row) ↔ Granted permissions row.h)) ∧
  (allowed = ∅ → ∃ perm ∈ permissions, ReadsHosts perm ∧ Unrestricted perm)

/-- The result of a successful call is the unrestricted code, or exactly the values that
the host permissions name. -/
theorem allowed_host_groups {permissions : List Permission} {allowed : Finset (Option String)}
    (ok : allowedHostGroupsV1 permissions = .ok allowed) :
    (∃ perm ∈ permissions, ReadsHosts perm ∧ Unrestricted perm) ∧ allowed = ∅ ∨
    (∀ perm ∈ permissions, ReadsHosts perm → ¬ Unrestricted perm) ∧
      ∀ group, group ∈ allowed ↔ ∃ perm ∈ permissions, ReadsHosts perm ∧ Names perm group := by
  obtain ⟨accepted,kept,collected⟩ := Except.bind_ok.mp ok
  have members := host_permissions kept
  split at collected
  · contradiction
  rcases collect_allowed collected with ⟨⟨perm,member,free⟩,empty⟩ | ⟨closed,gathered⟩
  · obtain ⟨inside,reads⟩ := (members perm).mp member
    exact Or.inl ⟨⟨perm,inside,reads,free⟩,empty⟩
  · refine Or.inr ⟨fun perm inside reads => closed perm ((members perm).mpr ⟨inside,reads⟩),?_⟩
    intro group
    simp [gathered,members,and_assoc]

theorem visible_granted {permissions : List Permission} {allowed : Finset (Option String)}
    (closed : ∀ perm ∈ permissions, ReadsHosts perm → ¬ Unrestricted perm)
    (gathered : ∀ group, group ∈ allowed ↔ ∃ perm ∈ permissions, ReadsHosts perm ∧ Names perm group)
    (host : HostRecord) : Visible allowed host ↔ Granted permissions host := by
  constructor
  · rintro (⟨group,member,id,same,inside⟩ | ⟨special,group,member,ungrouped⟩)
    · obtain ⟨perm,present,reads,named⟩ := (gathered _).mp inside
      exact ⟨perm,present,reads,Or.inr (Or.inl ⟨group,member,id,same,named⟩)⟩
    · obtain ⟨perm,present,reads,named⟩ := (gathered _).mp special
      exact ⟨perm,present,reads,Or.inr (Or.inr ⟨named,group,member,ungrouped⟩)⟩
  · rintro ⟨perm,present,reads,free | ⟨group,member,id,same,named⟩ | ⟨named,group,member,ungrouped⟩⟩
    · exact absurd free (closed perm present reads)
    · exact Or.inl ⟨group,member,id,same,(gathered _).mpr ⟨perm,present,reads,named⟩⟩
    · exact Or.inr ⟨(gathered _).mpr ⟨perm,present,reads,named⟩,group,member,ungrouped⟩

/-- The groups say what the permissions say exactly when some host permission is
unrestricted or lists a value: filters whose lists are all empty name no group and yield
the code for unrestricted. -/
theorem filter_matches_permissions {permissions : List Permission} {allowed : Finset (Option String)}
    (ok : allowedHostGroupsV1 permissions = .ok allowed) :
    FilterMatchesPermissions permissions allowed ↔
      ∃ perm ∈ permissions, ReadsHosts perm ∧ (Unrestricted perm ∨ ∃ group, Names perm group) := by
  rcases allowed_host_groups ok with ⟨⟨perm,member,reads,free⟩,rfl⟩ | ⟨closed,gathered⟩
  · refine ⟨fun _ => ⟨perm,member,reads,Or.inl free⟩,fun _ => ⟨fun params row bound => ?_,?_⟩⟩
    · rw [holds_hostGroupsFilter ∅ params row bound]
      exact ⟨fun _ => ⟨perm,member,reads,Or.inl free⟩,fun _ => Or.inl rfl⟩
    · exact fun _ => ⟨perm,member,reads,free⟩
  · constructor
    · rintro ⟨-,lifted⟩
      by_cases empty : allowed = ∅
      · obtain ⟨perm,member,reads,free⟩ := lifted empty
        exact ⟨perm,member,reads,Or.inl free⟩
      · obtain ⟨group,inside⟩ := Finset.nonempty_iff_ne_empty.mpr empty
        obtain ⟨perm,member,reads,named⟩ := (gathered group).mp inside
        exact ⟨perm,member,reads,Or.inr ⟨group,named⟩⟩
    · rintro ⟨perm,member,reads,free | ⟨group,named⟩⟩
      · exact absurd free (closed perm member reads)
      · have nonempty : allowed ≠ ∅ :=
          Finset.ne_empty_of_mem ((gathered group).mpr ⟨perm,member,reads,named⟩)
        refine ⟨fun params row bound => ?_,fun empty => absurd empty nonempty⟩
        rw [holds_hostGroupsFilter allowed params row bound,or_iff_right nonempty]
        exact visible_granted closed gathered row.h

/-- A custom role whose group filter lists no group. -/
def emptyFilter : List Permission := [[("permission",.str "inventory:hosts:read"),
  ("resourceDefinitions",.arr [.obj [("attributeFilter",.obj [("key",.str "group.id"),
    ("operation",.str "in"),("value",.arr [])])]])]]

theorem empty_filter_unrestricted : allowedHostGroupsV1 emptyFilter = .ok ∅ ∧
    ¬ FilterMatchesPermissions emptyFilter ∅ := by
  refine ⟨rfl,fun ⟨_,lifted⟩ => ?_⟩
  obtain ⟨perm,member,-,definitions,found,falsy⟩ := lifted rfl
  simp only [emptyFilter,List.mem_singleton] at member
  subst member
  cases found
  contradiction

/-- A permission for one group and for the ungrouped hosts. -/
def twoGroups : List Permission := [[("permission",.str "inventory:*:read"),
  ("resourceDefinitions",.arr [.obj [("attributeFilter",.obj [("key",.str "group.id"),
    ("operation",.str "in"),
    ("value",.arr [.null,.str "dd90e4ee-1f1c-4d29-8a5b-1d1c1a3a2c5e"])])]])]]

theorem two_groups_match : FilterMatchesPermissions twoGroups
    {none,some "dd90e4ee-1f1c-4d29-8a5b-1d1c1a3a2c5e"} := by
  have accepted : allowedHostGroupsV1 twoGroups =
      .ok {none,some "dd90e4ee-1f1c-4d29-8a5b-1d1c1a3a2c5e"} := rfl
  apply (filter_matches_permissions accepted).mpr
  refine ⟨_,List.mem_singleton.mpr rfl,⟨"inventory:*:read",by decide,rfl⟩,Or.inr ⟨none,_,rfl,_,
    List.mem_singleton.mpr rfl,_,_,rfl,rfl,Or.inr ⟨rfl,_,rfl,?_⟩⟩⟩
  exact List.mem_cons_self

end Roadmap.Rbac
