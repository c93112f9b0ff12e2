import Roadmap.Rbac.Definitions

/-! Whether the order in which RBAC lists the permissions matters: the loop over them returns
at an unrestricted one and raises at a malformed one, whichever comes first. -/
namespace Roadmap.Rbac

def definitionsOf (perm : Permission) : Option Json := perm.lookup "resourceDefinitions"

/-- The permission has a definition that is not accepted. -/
def Failing (perm : Permission) : Prop :=
  ∃ definitions, definitionsOf perm = some (.arr definitions) ∧
    ∃ definition ∈ definitions, ¬ Accepted definition

/-- Its first definition that is not accepted ends in an exception that nothing handles. -/
def Crashing (perm : Permission) : Prop :=
  ∃ before definition after, definitionsOf perm = some (.arr (before ++ definition :: after)) ∧
    (∀ other ∈ before, Accepted other) ∧ Crashes definition

def Raises (perm : Permission) (error : PyError) : Prop :=
  ∃ definitions, definitionsOf perm = some (.arr definitions) ∧
    definitions.mapM getGroupListFromResourceDefinition = .error error

/-- Only lists and objects cannot be members of a set. -/
def Hashable : Json → Prop
  | .arr _ | .obj _ => False
  | _ => True

def nameOf (perm : Permission) : Json := (perm.lookup "permission").getD .null

theorem raises_failing {perm : Permission} : (∃ error, Raises perm error) ↔ Failing perm := by
  constructor
  · rintro ⟨error,definitions,found,failed⟩
    obtain ⟨before,definition,after,rfl,_,raised⟩ := Except.mapM_error.mp failed
    refine ⟨_,found,definition,by simp,fun accepted => ?_⟩
    obtain ⟨groups,ok⟩ := definition_ok.mpr accepted
    rw [ok] at raised
    contradiction
  · rintro ⟨definitions,found,definition,member,refused⟩
    cases answer : definitions.mapM getGroupListFromResourceDefinition with
    | ok groups =>
      obtain ⟨group,_,ok⟩ := Except.mapM_image answer member
      exact absurd (definition_ok.mp ⟨group,ok⟩) refused
    | error error => exact ⟨error,definitions,found,answer⟩

theorem raises_crashing {perm : Permission} : Raises perm .attributeError ↔ Crashing perm := by
  simp only [Raises,Except.mapM_error,definition_ok,definition_attributeError]
  constructor
  · rintro ⟨_,found,before,definition,after,rfl,accepted,crashes⟩
    exact ⟨before,definition,after,found,accepted,crashes⟩
  · rintro ⟨before,definition,after,found,accepted,crashes⟩
    exact ⟨_,found,before,definition,after,rfl,accepted,crashes⟩

theorem Raises.cases {perm : Permission} {error : PyError} (raised : Raises perm error) :
    error = .attributeError ∨ Rejection error := by
  obtain ⟨definitions,_,failed⟩ := raised
  obtain ⟨_,definition,_,_,_,last⟩ := Except.mapM_error.mp failed
  exact definition_error last

/-! The loop over the host permissions. -/

theorem update_error {definitions : List Json} {allowed : Finset (Option String)} {error : PyError} :
    updateAllowed definitions allowed = .error error ↔
      definitions.mapM getGroupListFromResourceDefinition = .error error := by
  induction definitions generalizing allowed with
  | nil => simp [updateAllowed,pure,Except.pure]
  | cons definition rest ih =>
    rw [updateAllowed,List.mapM_cons]
    cases getGroupListFromResourceDefinition definition with
    | error raised => simp [Except.error_bind]
    | ok groups =>
      rw [Except.ok_bind,Except.ok_bind,ih]
      cases rest.mapM getGroupListFromResourceDefinition <;> simp [bind,Except.bind,pure,Except.pure]

theorem collect_cons {perm : Permission} {definitions : List Json}
    (found : definitionsOf perm = some (.arr definitions)) (rest : List Permission)
    (allowed : Finset (Option String)) : collectAllowed (perm :: rest) allowed =
      if definitions = [] then .ok ∅ else updateAllowed definitions allowed >>= collectAllowed rest := by
  have held : Json.subscript (.obj perm) "resourceDefinitions" = .ok (.arr definitions) := by
    rw [definitionsOf] at found
    simp only [Json.subscript,found]
  rw [collectAllowed,held]
  cases definitions <;> simp [Except.ok_bind,Json.truthy,Json.elements]

theorem unrestricted_first {perm : Permission} {definitions : List Json}
    (found : definitionsOf perm = some (.arr definitions)) (free : Unrestricted perm) (rest : List Permission)
    (allowed : Finset (Option String)) : collectAllowed (perm :: rest) allowed = .ok ∅ := by
  obtain ⟨other,held,falsy⟩ := free
  cases found.symm.trans held
  rw [collect_cons found,if_pos (by simpa [Json.truthy] using falsy)]

theorem raises_first {perm : Permission} {error : PyError} (raised : Raises perm error)
    (rest : List Permission) (allowed : Finset (Option String)) :
    collectAllowed (perm :: rest) allowed = .error error := by
  obtain ⟨definitions,found,failed⟩ := raised
  have nonempty : definitions ≠ [] := by
    rintro rfl
    cases failed
  rw [collect_cons found,if_neg nonempty,update_error.mpr failed,Except.error_bind]

/-- Every permission carries a list of definitions. -/
def Carried (permissions : List Permission) : Prop :=
  ∀ perm ∈ permissions, ∃ definitions, definitionsOf perm = some (.arr definitions)

theorem collect_error {permissions : List Permission} (carried : Carried permissions)
    {allowed : Finset (Option String)} {error : PyError}
    (failed : collectAllowed permissions allowed = .error error) : ∃ perm ∈ permissions, Raises perm error := by
  induction permissions generalizing allowed with
  | nil => cases failed
  | cons perm rest ih =>
    obtain ⟨⟨definitions,found⟩,others⟩ := List.forall_mem_cons.mp carried
    rw [collect_cons found] at failed
    split at failed
    · contradiction
    cases updated : updateAllowed definitions allowed with
    | error raised =>
      rw [updated,Except.error_bind] at failed
      cases failed
      exact ⟨perm,List.mem_cons_self,definitions,found,update_error.mp updated⟩
    | ok next =>
      rw [updated,Except.ok_bind] at failed
      obtain ⟨other,member,raises⟩ := ih others failed
      exact ⟨other,List.mem_cons_of_mem _ member,raises⟩

theorem collect_ok {permissions : List Permission} (carried : Carried permissions)
    {allowed result : Finset (Option String)} (ok : collectAllowed permissions allowed = .ok result) :
    (∃ perm ∈ permissions, Unrestricted perm) ∨ ∀ perm ∈ permissions, ¬ Failing perm := by
  induction permissions generalizing allowed with
  | nil => exact Or.inr nofun
  | cons perm rest ih =>
    obtain ⟨⟨definitions,found⟩,others⟩ := List.forall_mem_cons.mp carried
    by_cases failing : Failing perm
    · obtain ⟨error,raises⟩ := raises_failing.mpr failing
      rw [raises_first raises] at ok
      contradiction
    rw [collect_cons found] at ok
    split at ok
    next empty => exact Or.inl ⟨perm,List.mem_cons_self,_,found,by simp [empty,Json.truthy]⟩
    next =>
      obtain ⟨next,_,continued⟩ := Except.bind_ok.mp ok
      rcases ih others continued with ⟨other,member,free⟩ | fine
      · exact Or.inl ⟨other,List.mem_cons_of_mem _ member,free⟩
      · exact Or.inr (List.forall_mem_cons.mpr ⟨failing,fine⟩)

/-! The host permissions of a list in some order. -/

theorem hashable_iff (value : Json) (texts : List String) :
    (∃ member, value.memberOf texts = .ok member) ↔ Hashable value := by
  cases value <;> simp [Json.memberOf,Hashable]

theorem hostPermissions_error {permissions : List Permission} {error : PyError}
    (failed : hostPermissions permissions = .error error) : error = .typeError := by
  induction permissions with
  | nil => cases failed
  | cons perm rest ih =>
    rw [hostPermissions] at failed
    cases tested : Json.memberOf ((perm.lookup "permission").getD .null) inventoryAccessPerms with
    | error raised =>
      rw [tested,Except.error_bind] at failed
      cases failed
      unfold Json.memberOf at tested
      split at tested <;> cases tested <;> rfl
    | ok isHost =>
      rw [tested,Except.ok_bind] at failed
      cases kept : hostPermissions rest with
      | error raised =>
        rw [kept,Except.error_bind] at failed
        cases failed
        exact ih kept
      | ok others =>
        rw [kept] at failed
        contradiction

theorem hostPermissions_ok {permissions : List Permission} :
    (∃ accepted, hostPermissions permissions = .ok accepted) ↔ ∀ perm ∈ permissions, Hashable (nameOf perm) := by
  induction permissions with
  | nil => simp [hostPermissions]
  | cons perm rest ih =>
    rw [List.forall_mem_cons,← ih,← hashable_iff _ inventoryAccessPerms,nameOf]
    constructor
    · rintro ⟨accepted,ok⟩
      obtain ⟨isHost,tested,ok⟩ := Except.bind_ok.mp ok
      obtain ⟨others,kept,_⟩ := Except.bind_ok.mp ok
      exact ⟨⟨isHost,tested⟩,others,kept⟩
    · rintro ⟨⟨isHost,tested⟩,others,kept⟩
      exact ⟨_,Except.bind_ok.mpr ⟨isHost,tested,Except.bind_ok.mpr ⟨others,kept,rfl⟩⟩⟩

/-- A host permission can be the first one that the loop meets. -/
theorem exists_first {permissions : List Permission} (hashable : ∀ perm ∈ permissions, Hashable (nameOf perm))
    {perm : Permission} (member : perm ∈ permissions) (reads : ReadsHosts perm) :
    ∃ reordered others, permissions.Perm reordered ∧ hostPermissions reordered = .ok (perm :: others) := by
  obtain ⟨before,after,rfl⟩ := List.append_of_mem member
  have moved : (before ++ perm :: after).Perm (perm :: (before ++ after)) := List.perm_middle
  obtain ⟨others,kept⟩ := hostPermissions_ok.mpr
    (fun other inside => hashable other (moved.mem_iff.mpr (List.mem_cons_of_mem _ inside)))
  refine ⟨_,others,moved,?_⟩
  obtain ⟨name,known,found⟩ := reads
  have tested : Json.memberOf ((perm.lookup "permission").getD .null) inventoryAccessPerms = .ok true := by
    simp [found,Json.memberOf,known]
  rw [hostPermissions,tested,Except.ok_bind,kept]
  rfl

/-- Each host permission carries a list of definitions. -/
def HostsCarried (permissions : List Permission) : Prop :=
  ∀ perm ∈ permissions, ReadsHosts perm → ∃ definitions, definitionsOf perm = some (.arr definitions)

theorem HostsCarried.accepted {permissions accepted : List Permission} (carried : HostsCarried permissions)
    (kept : hostPermissions permissions = .ok accepted) : Carried accepted := by
  intro perm member
  obtain ⟨inside,reads⟩ := (host_permissions kept perm).mp member
  exact carried perm inside reads

theorem allowed_error {permissions : List Permission} (carried : HostsCarried permissions)
    (hashable : ∀ perm ∈ permissions, Hashable (nameOf perm)) {error : PyError}
    (failed : allowedHostGroupsV1 permissions = .error error) :
    error = notAuthorized ∧ (∀ perm ∈ permissions, ¬ ReadsHosts perm) ∨
      ∃ perm ∈ permissions, ReadsHosts perm ∧ Raises perm error := by
  obtain ⟨accepted,kept⟩ := hostPermissions_ok.mpr hashable
  have members := host_permissions kept
  rw [allowedHostGroupsV1,kept,Except.ok_bind] at failed
  split at failed
  next empty =>
    cases failed
    refine Or.inl ⟨rfl,fun perm member reads => ?_⟩
    have inside := (members perm).mpr ⟨member,reads⟩
    rw [List.isEmpty_iff.mp empty] at inside
    exact List.not_mem_nil inside
  next =>
    obtain ⟨perm,member,raises⟩ := collect_error (carried.accepted kept) failed
    obtain ⟨inside,reads⟩ := (members perm).mp member
    exact Or.inr ⟨perm,inside,reads,raises⟩

theorem allowed_ok {permissions : List Permission} (carried : HostsCarried permissions)
    {allowed : Finset (Option String)} (ok : allowedHostGroupsV1 permissions = .ok allowed) :
    (∃ perm ∈ permissions, ReadsHosts perm) ∧ ((∃ perm ∈ permissions, ReadsHosts perm ∧ Unrestricted perm) ∨
      ∀ perm ∈ permissions, ReadsHosts perm → ¬ Failing perm) := by
  obtain ⟨accepted,kept,collected⟩ := Except.bind_ok.mp ok
  have members := host_permissions kept
  split at collected
  · contradiction
  next filled =>
    obtain ⟨chosen,others,rfl⟩ := List.exists_cons_of_ne_nil (fun empty => filled (List.isEmpty_iff.mpr empty))
    refine ⟨⟨chosen,(members chosen).mp List.mem_cons_self⟩,?_⟩
    rcases collect_ok (carried.accepted kept) collected with ⟨perm,member,free⟩ | fine
    · obtain ⟨inside,reads⟩ := (members perm).mp member
      exact Or.inl ⟨perm,inside,reads,free⟩
    · exact Or.inr (fun perm member reads => fine perm ((members perm).mpr ⟨member,reads⟩))

/-! Two orders of the same permissions. -/

/-- The same set of groups, or an HTTPException with the same status. -/
def SameOutcome : (left right : Except PyError (Finset (Option String))) → Prop
  | .ok allowed,.ok other => allowed = other
  | .error (.httpException status _),.error (.httpException other _) => status = other
  | _,_ => False

theorem SameOutcome.not_crash {outcome : Except PyError (Finset (Option String))} :
    ¬ SameOutcome outcome (.error .attributeError) := by
  cases outcome with
  | ok allowed => exact id
  | error error => cases error <;> exact id

theorem SameOutcome.not_both {outcome : Except PyError (Finset (Option String))}
    {allowed : Finset (Option String)} {error : PyError} (granted : SameOutcome outcome (.ok allowed))
    (failed : SameOutcome outcome (.error error)) : False := by
  cases outcome with
  | ok other => exact failed
  | error other => cases other <;> exact granted

/-- No definition of a host permission is malformed, or the malformed ones are all rejected
with status 501 and no host permission is unrestricted. -/
def Orderless (permissions : List Permission) : Prop :=
  (∀ perm ∈ permissions, ReadsHosts perm → ¬ Failing perm) ∨
    ∀ perm ∈ permissions, ReadsHosts perm → ¬ Unrestricted perm ∧ ¬ Crashing perm

theorem same_groups {permissions reordered : List Permission} (same : permissions.Perm reordered)
    {allowed other : Finset (Option String)} (ok : allowedHostGroupsV1 permissions = .ok allowed)
    (otherOk : allowedHostGroupsV1 reordered = .ok other) : allowed = other := by
  have first := allowed_host_groups ok
  have second := allowed_host_groups otherOk
  simp only [← same.mem_iff] at second
  rcases first with ⟨⟨perm,member,reads,free⟩,rfl⟩ | ⟨closed,gathered⟩
  · rcases second with ⟨_,rfl⟩ | ⟨closed,_⟩
    · rfl
    · exact absurd free (closed perm member reads)
  · rcases second with ⟨⟨perm,member,reads,free⟩,_⟩ | ⟨_,alike⟩
    · exact absurd free (closed perm member reads)
    · ext group
      rw [gathered,alike]

theorem reordered_error {permissions reordered : List Permission} (carried : HostsCarried permissions)
    (hashable : ∀ perm ∈ permissions, Hashable (nameOf perm)) (same : permissions.Perm reordered)
    {error : PyError} (failed : allowedHostGroupsV1 reordered = .error error) :
    error = notAuthorized ∧ (∀ perm ∈ permissions, ¬ ReadsHosts perm) ∨
      ∃ perm ∈ permissions, ReadsHosts perm ∧ Raises perm error := by
  simp only [same.mem_iff]
  exact allowed_error (fun perm member => carried perm (same.mem_iff.mpr member))
    (fun perm member => hashable perm (same.mem_iff.mpr member)) failed

theorem reordered_ok {permissions reordered : List Permission} (carried : HostsCarried permissions)
    (same : permissions.Perm reordered) {allowed : Finset (Option String)}
    (ok : allowedHostGroupsV1 reordered = .ok allowed) : (∃ perm ∈ permissions, ReadsHosts perm) ∧
      ((∃ perm ∈ permissions, ReadsHosts perm ∧ Unrestricted perm) ∨
        ∀ perm ∈ permissions, ReadsHosts perm → ¬ Failing perm) := by
  simp only [same.mem_iff]
  exact allowed_ok (fun perm member => carried perm (same.mem_iff.mpr member)) ok

/-- One order cannot succeed where another one raises. -/
theorem no_split {permissions : List Permission} (carried : HostsCarried permissions)
    (hashable : ∀ perm ∈ permissions, Hashable (nameOf perm)) (orderless : Orderless permissions)
    {first second : List Permission} (one : permissions.Perm first) (two : permissions.Perm second)
    {allowed : Finset (Option String)} {error : PyError} (ok : allowedHostGroupsV1 first = .ok allowed)
    (failed : allowedHostGroupsV1 second = .error error) : False := by
  obtain ⟨⟨chosen,present,host⟩,outcome⟩ := reordered_ok carried one ok
  rcases reordered_error carried hashable two failed with ⟨_,unread⟩ | ⟨perm,member,reads,raises⟩
  · exact unread chosen present host
  have failing := raises_failing.mp ⟨error,raises⟩
  rcases orderless with fine | restricted
  · exact fine perm member reads failing
  · rcases outcome with ⟨free,memberFree,readsFree,unrestricted⟩ | fine
    · exact (restricted free memberFree readsFree).1 unrestricted
    · exact fine perm member reads failing

/-- Where every order raises, it raises with the same status. -/
theorem same_status {permissions : List Permission} (carried : HostsCarried permissions)
    (hashable : ∀ perm ∈ permissions, Hashable (nameOf perm)) (orderless : Orderless permissions)
    {first second : List Permission} (one : permissions.Perm first) (two : permissions.Perm second)
    {error other : PyError} (failed : allowedHostGroupsV1 first = .error error)
    (failedToo : allowedHostGroupsV1 second = .error other) :
    SameOutcome (.error error) (.error other) := by
  have rejected : ∀ {perm : Permission} {error : PyError}, perm ∈ permissions → ReadsHosts perm →
      Raises perm error → Rejection error := by
    intro perm error member reads raises
    rcases orderless with fine | restricted
    · exact absurd (raises_failing.mp ⟨error,raises⟩) (fine perm member reads)
    · refine raises.cases.resolve_left (fun crash => ?_)
      exact (restricted perm member reads).2 (raises_crashing.mp (crash ▸ raises))
  rcases reordered_error carried hashable one failed with ⟨rfl,unread⟩ | ⟨perm,member,reads,raises⟩
  · rcases reordered_error carried hashable two failedToo with ⟨rfl,_⟩ | ⟨perm,member,reads,_⟩
    · exact rfl
    · exact absurd reads (unread perm member)
  · rcases reordered_error carried hashable two failedToo with ⟨_,unread⟩ | ⟨another,inside,host,raisesToo⟩
    · exact absurd reads (unread perm member)
    · obtain ⟨_,rfl⟩ := rejected member reads raises
      obtain ⟨_,rfl⟩ := rejected inside host raisesToo
      exact rfl

theorem orderless_same {permissions reordered : List Permission} (carried : HostsCarried permissions)
    (hashable : ∀ perm ∈ permissions, Hashable (nameOf perm)) (orderless : Orderless permissions)
    (same : permissions.Perm reordered) :
    SameOutcome (allowedHostGroupsV1 permissions) (allowedHostGroupsV1 reordered) := by
  cases first : allowedHostGroupsV1 permissions with
  | ok allowed =>
    cases second : allowedHostGroupsV1 reordered with
    | ok other => exact same_groups same first second
    | error error => exact (no_split carried hashable orderless (.refl _) same first second).elim
  | error error =>
    cases second : allowedHostGroupsV1 reordered with
    | ok other => exact (no_split carried hashable orderless same (.refl _) second first).elim
    | error other => exact same_status carried hashable orderless (.refl _) same first second

/-- The outcome is the same for every order exactly when each permission has a hashable name
and no unrestricted host permission stands beside a malformed one, nor does one crash. -/
theorem order_irrelevant {permissions : List Permission} (carried : HostsCarried permissions) :
    (∀ reordered, permissions.Perm reordered →
      SameOutcome (allowedHostGroupsV1 permissions) (allowedHostGroupsV1 reordered)) ↔
    (∀ perm ∈ permissions, Hashable (nameOf perm)) ∧ Orderless permissions := by
  constructor
  · intro alike
    have hashable : ∀ perm ∈ permissions, Hashable (nameOf perm) := by
      rw [← hostPermissions_ok]
      cases kept : hostPermissions permissions with
      | ok accepted => exact ⟨accepted,rfl⟩
      | error error =>
        have itself := alike permissions (.refl _)
        rw [allowedHostGroupsV1,kept,hostPermissions_error kept] at itself
        exact itself.elim
    refine ⟨hashable,or_iff_not_imp_left.mpr (fun mixed => ?_)⟩
    obtain ⟨bad,present,reads,failing⟩ : ∃ perm ∈ permissions, ReadsHosts perm ∧ Failing perm := by
      simpa using mixed
    have first : ∀ {perm : Permission}, perm ∈ permissions → ReadsHosts perm → ∀ {outcome},
        (∀ rest, collectAllowed (perm :: rest) ∅ = outcome) →
          SameOutcome (allowedHostGroupsV1 permissions) outcome := by
      intro perm member reads outcome decides
      obtain ⟨reordered,others,same,kept⟩ := exists_first hashable member reads
      have answered := alike reordered same
      rw [allowedHostGroupsV1.eq_def reordered,kept,Except.ok_bind] at answered
      simpa [decides] using answered
    obtain ⟨error,raises⟩ := raises_failing.mpr failing
    have failed := first present reads (fun rest => raises_first raises rest ∅)
    refine fun perm member readsPerm => ⟨fun free => ?_,fun crashing => ?_⟩
    · obtain ⟨definitions,found⟩ := carried perm member readsPerm
      exact (first member readsPerm (fun rest => unrestricted_first found free rest ∅)).not_both failed
    · exact (first member readsPerm
        (fun rest => raises_first (raises_crashing.mpr crashing) rest ∅)).not_crash
  · rintro ⟨hashable,orderless⟩ reordered same
    exact orderless_same carried hashable orderless same

def unrestricted : Permission :=
  [("permission",.str "inventory:hosts:read"),("resourceDefinitions",.arr [])]

/-- A definition without a filter. -/
def malformed : Permission :=
  [("permission",.str "inventory:*:read"),("resourceDefinitions",.arr [.obj []])]

theorem order_irrelevant_rejected : SameOutcome (allowedHostGroupsV1 (malformed :: emptyFilter))
    (allowedHostGroupsV1 (emptyFilter ++ [malformed])) := by
  have carried : HostsCarried (malformed :: emptyFilter) := by
    intro perm member _
    rcases List.mem_cons.mp member with rfl | member
    · exact ⟨_,rfl⟩
    · rw [List.mem_singleton.mp member]
      exact ⟨_,rfl⟩
  have hashable : ∀ perm ∈ malformed :: emptyFilter, Hashable (nameOf perm) := by
    simp [nameOf,malformed,emptyFilter,Hashable]
  have restricted : ∀ perm ∈ malformed :: emptyFilter, ¬ Unrestricted perm ∧ ¬ Crashing perm := by
    intro perm member
    rw [← raises_crashing]
    rcases List.mem_cons.mp member with rfl | member
    · refine ⟨?_,?_⟩ <;> rintro ⟨definitions,found,failed⟩ <;> cases found <;> cases failed
    · rw [List.mem_singleton.mp member]
      refine ⟨?_,?_⟩ <;> rintro ⟨definitions,found,failed⟩ <;> cases found <;> cases failed
  exact (order_irrelevant carried).mpr ⟨hashable,Or.inr (fun perm member _ => restricted perm member)⟩
    (emptyFilter ++ [malformed]) (List.perm_append_singleton malformed emptyFilter).symm

theorem order_decides : allowedHostGroupsV1 [unrestricted,malformed] = .ok ∅ ∧
    allowedHostGroupsV1 [malformed,unrestricted] = .error noAttributeFilter ∧
    ¬ ∀ reordered, [unrestricted,malformed].Perm reordered →
      SameOutcome (allowedHostGroupsV1 [unrestricted,malformed]) (allowedHostGroupsV1 reordered) :=
  ⟨rfl,rfl,fun alike => alike [malformed,unrestricted] (.swap _ _ _)⟩

end Roadmap.Rbac
