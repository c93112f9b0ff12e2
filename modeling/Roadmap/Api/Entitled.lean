import Roadmap.Api.Access

/-! Who may read a host, said without the code's set of host groups: in dev mode the fixture org,
with Kessel the viewers of one of its workspaces, with RBAC v1 those whom a permission grants it.
The answers are those of an unrestricted reader over these hosts. -/
namespace Roadmap

theorem hostPermissionsOf_ok {items : List Json} {accepted : List Rbac.Permission}
    (ok : hostPermissionsOf items = .ok accepted) :
    ∃ permissions : List Rbac.Permission, items = permissions.map .obj ∧
      Rbac.hostPermissions permissions = .ok accepted := by
  induction items generalizing accepted with
  | nil => exact ⟨[],rfl,ok⟩
  | cons item rest ih =>
    cases item with
    | obj perm =>
      obtain ⟨isHost,tested,ok⟩ := Except.bind_ok.mp ok
      obtain ⟨others,kept,ok⟩ := Except.bind_ok.mp ok
      obtain ⟨permissions,same,listed⟩ := ih kept
      refine ⟨perm :: permissions,by rw [same,List.map_cons],?_⟩
      exact Except.bind_ok.mpr ⟨isHost,tested,Except.bind_ok.mpr ⟨others,listed,ok⟩⟩
    | _ => cases ok

/-- Groups come from a list of permission objects; no other response is accepted. -/
theorem allowedHostGroupsRbac_ok {response : Json} {hostGroups : Finset (Option String)}
    (ok : allowedHostGroupsRbac response = .ok hostGroups) :
    ∃ permissions : List Rbac.Permission, response = .arr (permissions.map .obj) ∧
      Rbac.allowedHostGroupsV1 permissions = .ok hostGroups := by
  obtain ⟨items,listed,accepts⟩ := Except.bind_ok.mp ok
  obtain ⟨accepted,kept,collected⟩ := Except.bind_ok.mp accepts
  obtain ⟨permissions,same,read⟩ := hostPermissionsOf_ok kept
  refine ⟨permissions,?_,Except.bind_ok.mpr ⟨accepted,read,collected⟩⟩
  cases permissions with
  | nil => cases read; cases collected
  | cons perm rest =>
    have head : Json.obj perm ∈ items := same ▸ List.mem_cons_self
    cases response with
    | arr others => exact congrArg Json.arr ((Except.ok.inj listed).trans same)
    | str text =>
      cases listed
      obtain ⟨_,_,char⟩ := List.mem_map.mp head
      cases char
    | obj fields =>
      cases listed
      obtain ⟨_,_,key⟩ := List.mem_map.mp head
      cases key
    | _ => cases listed

/-- Where some host permission is unrestricted or lists a value, the groups say what the
permissions say. -/
theorem groups_say {permissions : List Rbac.Permission} {hostGroups : Finset (Option String)}
    (ok : Rbac.allowedHostGroupsV1 permissions = .ok hostGroups)
    (named : ∃ perm ∈ permissions, Rbac.ReadsHosts perm ∧
      (Rbac.Unrestricted perm ∨ ∃ group, Rbac.Names perm group)) (host : HostRecord) :
    Rbac.Granted permissions host ↔ hostGroups = ∅ ∨ Visible hostGroups host := by
  rcases Rbac.allowed_host_groups ok with ⟨⟨perm,member,reads,free⟩,empty⟩ | ⟨closed,gathered⟩
  · exact ⟨fun _ => Or.inl empty,fun _ => ⟨perm,member,reads,Or.inl free⟩⟩
  · obtain ⟨perm,member,reads,either⟩ := named
    obtain ⟨group,names⟩ := either.resolve_left (closed perm member reads)
    have nonempty : hostGroups ≠ ∅ := Finset.ne_empty_of_mem ((gathered group).mpr ⟨perm,member,reads,names⟩)
    rw [or_iff_right nonempty,Rbac.visible_granted closed gathered]

/-- Else the code takes the caller for unrestricted. -/
theorem nothing_named {permissions : List Rbac.Permission} {hostGroups : Finset (Option String)}
    (ok : Rbac.allowedHostGroupsV1 permissions = .ok hostGroups)
    (nothing : ¬ ∃ perm ∈ permissions, Rbac.ReadsHosts perm ∧
      (Rbac.Unrestricted perm ∨ ∃ group, Rbac.Names perm group)) : hostGroups = ∅ := by
  rcases Rbac.allowed_host_groups ok with ⟨-,empty⟩ | ⟨-,gathered⟩
  · exact empty
  · refine Finset.eq_empty_of_forall_notMem (fun group inside => nothing ?_)
    obtain ⟨perm,member,reads,names⟩ := (gathered group).mp inside
    exact ⟨perm,member,reads,Or.inr ⟨group,names⟩⟩

namespace Service

variable (service : Service) (platform : Platform) (xRhIdentity : Option String)

def KesselViews (host : HostRecord) : Prop :=
  ∃ identity subject ids, decodeIdentity platform xRhIdentity = .ok identity ∧
    subjectFromIdentity identity service.settings.kesselPrincipalDomain = .ok subject ∧
    platform.kessel subject = .workspaces ids ∧ ∃ group ∈ host.groups, ∃ id ∈ ids, group.id = some id

def RbacLists (permissions : List Rbac.Permission) : Prop :=
  queryRbac platform service.settings xRhIdentity = .ok (.arr (permissions.map .obj))

def Entitled (host : HostRecord) : Prop :=
  if service.dev then host.orgId = "1234"
  else decodeHeader platform xRhIdentity = .ok (.str host.orgId) ∧
    if service.settings.kesselEnabled then service.KesselViews platform xRhIdentity host
    else ∃ permissions, service.RbacLists platform xRhIdentity permissions ∧ Rbac.Granted permissions host

/-- RBAC v1 was asked, and none of its host permissions is unrestricted or lists a value. -/
def NothingNamed : Prop :=
  service.dev = false ∧ service.settings.kesselEnabled = false ∧
    ∃ permissions, service.RbacLists platform xRhIdentity permissions ∧
      ∀ perm ∈ permissions, Rbac.ReadsHosts perm → ¬ Rbac.Unrestricted perm ∧ ∀ group, ¬ Rbac.Names perm group

open Classical in
noncomputable def entitled (hosts : List HostRecord) : List HostRecord :=
  hosts.filter (fun host => decide (service.Entitled platform xRhIdentity host))

theorem mem_entitled (hosts : List HostRecord) {host : HostRecord} :
    host ∈ service.entitled platform xRhIdentity hosts ↔
      host ∈ hosts ∧ service.Entitled platform xRhIdentity host := by
  simp [entitled]

/-- The header or the authorization fails, or the header gives an org that cannot be compared
with a text. -/
def Refused (error : PyError) : Prop :=
  decodeHeader platform xRhIdentity = .error error ∨
  ∃ org, decodeHeader platform xRhIdentity = .ok org ∧
    (getAllowedHostGroups platform service.settings xRhIdentity = .error error ∨
      (∃ hostGroups, getAllowedHostGroups platform service.settings xRhIdentity = .ok hostGroups) ∧
        service.dev = false ∧ org ≠ .null ∧ (∀ orgId, org ≠ .str orgId) ∧ error = queryFailed)

/-- Every answer is that of an unrestricted reader of the org over a part of the hosts. -/
def Answers (orgId : String) (part : List HostRecord → List HostRecord) : Prop :=
  ∀ hosts request, service.handle platform xRhIdentity hosts request =
    service.answer ⟨orgId,∅⟩ (part hosts) request

theorem answer_entitled {caller : Caller}
    (same : ∀ host, service.Sees caller host ↔ service.Entitled platform xRhIdentity host)
    (hosts : List HostRecord) (request : InventoryRequest) : service.answer caller hosts request =
      service.answer ⟨caller.orgId,∅⟩ (service.entitled platform xRhIdentity hosts) request := by
  have part : service.visible caller hosts = service.entitled platform xRhIdentity hosts :=
    List.filter_congr (fun host _ => decide_eq_decide.mpr (same host))
  rw [answer_visible,part]
  rfl

theorem sees_kessel {ids : List String} (orgId : String) (host : HostRecord) :
    Statements.VisibleTo orgId (ids.toFinset.image some) host ↔ host.orgId = orgId ∧
      (ids.toFinset = ∅ ∨ ∃ group ∈ host.groups, ∃ id ∈ ids, group.id = some id) := by
  simp only [Statements.VisibleTo,Visible,Finset.image_eq_empty,Finset.mem_image,List.mem_toFinset,
    Option.some.injEq,exists_eq_right,reduceCtorEq,and_false,exists_false,false_and,or_false]
  refine and_congr_right (fun _ => or_congr_right (exists_congr (fun group => and_congr_right (fun _ => ?_))))
  exact exists_congr (fun id => and_comm)

theorem kessel_granted {hostGroups : Finset (Option String)} (outside : service.dev = false)
    (enabled : service.settings.kesselEnabled = true)
    (ok : getAllowedHostGroups platform service.settings xRhIdentity = .ok hostGroups) {orgId : String}
    (org : decodeHeader platform xRhIdentity = .ok (.str orgId)) (host : HostRecord) :
    service.Sees ⟨orgId,hostGroups⟩ host ↔ service.Entitled platform xRhIdentity host := by
  have dev : service.settings.dev = false := outside
  rw [getAllowedHostGroups,if_pos enabled,allowedHostGroupsKessel,dev] at ok
  obtain ⟨identity,decoded,ok⟩ := Except.bind_ok.mp ok
  obtain ⟨subject,built,ok⟩ := Except.bind_ok.mp ok
  split at ok
  · cases ok
  · cases ok
  next ids listed =>
    split at ok
    · cases ok
    next nonempty =>
      cases ok
      have views : service.KesselViews platform xRhIdentity host ↔
          ∃ group ∈ host.groups, ∃ id ∈ ids, group.id = some id := by
        constructor
        · rintro ⟨other,principal,others,read,same,reply,found⟩
          cases decoded.symm.trans read
          cases built.symm.trans same
          cases listed.symm.trans reply
          exact found
        · exact fun found => ⟨identity,subject,ids,decoded,built,listed,found⟩
      simp only [Sees,queriedOrg,Entitled,outside,sees_kessel,enabled,views,org]
      simp [nonempty,eq_comm]

theorem rbac_granted {hostGroups : Finset (Option String)} (outside : service.dev = false)
    (disabled : service.settings.kesselEnabled = false)
    (ok : getAllowedHostGroups platform service.settings xRhIdentity = .ok hostGroups) :
    (∀ orgId, decodeHeader platform xRhIdentity = .ok (.str orgId) → ∀ host,
      service.Sees ⟨orgId,hostGroups⟩ host ↔ service.Entitled platform xRhIdentity host) ∨
    service.NothingNamed platform xRhIdentity ∧ hostGroups = ∅ := by
  rw [getAllowedHostGroups,if_neg (by simp [disabled])] at ok
  obtain ⟨response,asked,ok⟩ := Except.bind_ok.mp ok
  obtain ⟨permissions,rfl,read⟩ := allowedHostGroupsRbac_ok ok
  have only : ∀ others, service.RbacLists platform xRhIdentity others → others = permissions := by
    intro others lists
    have same := Json.arr.inj (Except.ok.inj (lists.symm.trans asked))
    exact List.map_injective_iff.mpr (fun _ _ => Json.obj.inj) same
  by_cases named : ∃ perm ∈ permissions, Rbac.ReadsHosts perm ∧
      (Rbac.Unrestricted perm ∨ ∃ group, Rbac.Names perm group)
  · refine Or.inl (fun orgId org host => ?_)
    have granted : (∃ others, service.RbacLists platform xRhIdentity others ∧ Rbac.Granted others host) ↔
        hostGroups = ∅ ∨ Visible hostGroups host := by
      rw [← groups_say read named host]
      constructor
      · rintro ⟨others,lists,grants⟩
        exact only others lists ▸ grants
      · exact fun grants => ⟨permissions,asked,grants⟩
    simp only [Sees,queriedOrg,Entitled,outside,disabled,granted,org,Statements.VisibleTo]
    simp [eq_comm]
  · refine Or.inr ⟨⟨outside,disabled,permissions,asked,fun perm member reads => ⟨?_,?_⟩⟩,
      nothing_named read named⟩
    · exact fun free => named ⟨perm,member,reads,Or.inl free⟩
    · exact fun group names => named ⟨perm,member,reads,Or.inr ⟨group,names⟩⟩

/-- The groups of an accepted call, outside dev mode. -/
theorem groups_granted {hostGroups : Finset (Option String)} (outside : service.dev = false)
    (ok : getAllowedHostGroups platform service.settings xRhIdentity = .ok hostGroups) :
    (∀ orgId, decodeHeader platform xRhIdentity = .ok (.str orgId) → ∀ host,
      service.Sees ⟨orgId,hostGroups⟩ host ↔ service.Entitled platform xRhIdentity host) ∨
    service.NothingNamed platform xRhIdentity ∧ hostGroups = ∅ := by
  cases enabled : service.settings.kesselEnabled with
  | true => exact Or.inl (fun orgId => service.kessel_granted platform xRhIdentity outside enabled ok)
  | false => exact service.rbac_granted platform xRhIdentity outside enabled ok

theorem groups_dev {hostGroups : Finset (Option String)} (dev : service.dev = true)
    (ok : getAllowedHostGroups platform service.settings xRhIdentity = .ok hostGroups) : hostGroups = ∅ := by
  have fixture : service.settings.dev = true := dev
  cases enabled : service.settings.kesselEnabled with
  | true =>
    rw [getAllowedHostGroups,if_pos enabled,allowedHostGroupsKessel,if_pos fixture] at ok
    exact (Except.ok.inj ok).symm
  | false =>
    rw [getAllowedHostGroups,if_neg (by simp [enabled]),queryRbac,if_pos fixture] at ok
    exact (Except.ok.inj ok).symm

theorem fixture_answers {org : Json} {hostGroups : Finset (Option String)} (dev : service.dev = true)
    (allowed : getAllowedHostGroups platform service.settings xRhIdentity = .ok hostGroups)
    (answered : ∀ hosts request, service.handle platform xRhIdentity hosts request =
      service.answerFor org hostGroups hosts request) :
    ∃ orgId, service.Answers platform xRhIdentity orgId (service.entitled platform xRhIdentity) := by
  have free := service.groups_dev platform xRhIdentity dev allowed
  have same : ∀ orgId host, service.Sees ⟨orgId,hostGroups⟩ host ↔ service.Entitled platform xRhIdentity host := by
    intro orgId host
    simp [Sees,Statements.VisibleTo,Entitled,queriedOrg,dev,free]
  have whole : ∃ orgId, ∀ hosts request, service.answerFor org hostGroups hosts request =
      service.answer ⟨orgId,hostGroups⟩ hosts request := by
    cases org with
    | str orgId => exact ⟨orgId,fun _ _ => rfl⟩
    | _ => exact ⟨"",fun _ _ => by simp only [answerFor,dev,if_true]⟩
  obtain ⟨orgId,bound⟩ := whole
  refine ⟨orgId,fun hosts request => ?_⟩
  rw [answered,bound]
  exact service.answer_entitled platform xRhIdentity (same orgId) hosts request

end Service

end Roadmap
