import Roadmap.Rhel.Drilldown
import Roadmap.Data.Systems

/-! The drill-down against the RHEL list: totals and pages over the same snapshot. -/
namespace Roadmap
open Sql

section Agreement

variable (collation : Collation) (today : Date) (table : LifecycleTable) (related : Bool) (dev : Bool)
  (orgId : String) (hostGroups : Finset (Option String)) (major minor : Int) (lifecycle : LifecycleType)
  (hosts : List HostRecord)

def rhelList : RelevantSystemsResponse :=
  relevantSystems today table related
    (queryHostInventoryWithoutPackages dev orgId hostGroups none none hosts)

def rhelPage (limit index : Nat) : Except PyError PaginatedSystemsResponse :=
  queryRhelSystems collation dev orgId hostGroups major minor lifecycle (index * limit) limit none hosts

/-- Every page reports the total of the list's rows, and any number of pages that is
enough for it lists their hosts, each once. -/
def DrilldownAgrees : Prop :=
  let response := rhelList today table related dev orgId hostGroups hosts
  ∀ limit count, 0 < limit → drilldownTotal major minor lifecycle response ≤ count * limit →
    ∃ pages, (List.range count).mapM
        (rhelPage collation dev orgId hostGroups major minor lifecycle hosts limit) = .ok pages ∧
      (∀ page ∈ pages, page.metaData.total = drilldownTotal major minor lifecycle response) ∧
      ((pages.flatMap (·.data)).map (·.id)).Nodup ∧
      ∀ info, info ∈ pages.flatMap (·.data) ↔
        ∃ row ∈ drilldownRows major minor lifecycle response, info ∈ row.systemsDetail

/-! The list's rows of one version and lifecycle type. -/

private theorem wanted_listed (rows : List Joined) :
    ((countedHosts (rows.map hostsQueryWithoutPackages)).filter (fun host =>
      decide (host.1.systemIdKey = (versionKey major (some minor),lifecycle)))).length =
        (rows.filter (fun row => decide (Listed major minor lifecycle row))).length := by
  induction rows with
  | nil => rfl
  | cons row rest ih =>
    have head : (∃ host, counted (hostsQueryWithoutPackages row) = some host ∧
        host.1.systemIdKey = (versionKey major (some minor),lifecycle)) ↔
          Listed major minor lifecycle row := by
      constructor
      · rintro ⟨host,found⟩
        exact ((counted_listed major minor lifecycle row host).mp found).1
      · intro listed
        obtain ⟨name,named⟩ := Option.ne_none_iff_exists'.mp listed.1
        exact ⟨(⟨name,major,some minor,lifecycle⟩,⟨row.h.id,row.h.displayName,major,some minor⟩),
          (counted_listed major minor lifecycle row _).mpr ⟨listed,named,rfl,rfl⟩⟩
    unfold countedHosts at *
    rw [List.map_cons,List.filterMap_cons]
    cases found : counted (hostsQueryWithoutPackages row) with
    | none =>
      have absent : ¬ Listed major minor lifecycle row := by simpa [found] using head
      simpa [absent] using ih
    | some host =>
      by_cases listed : Listed major minor lifecycle row
      · have key : host.1.systemIdKey = (versionKey major (some minor),lifecycle) := by
          simpa [found,listed] using head
        simpa [listed,key] using ih
      · have key : ¬ host.1.systemIdKey = (versionKey major (some minor),lifecycle) := by
          simpa [found,listed] using head
        simpa [listed,key] using ih

theorem drilldown_total : drilldownTotal major minor lifecycle
      (rhelList today table related dev orgId hostGroups hosts) =
    ((permitted dev orgId hostGroups hosts).filter
      (fun row => decide (Listed major minor lifecycle row))).length := by
  have same : (fun row : System => decide (row.major = major ∧ row.minor = some minor ∧
      row.lifecycleType = lifecycle)) = fun row => decide (row.rowKey.systemIdKey =
        (versionKey major (some minor),lifecycle)) := by
    funext row
    simp only [System.rowKey,HostCount.systemIdKey,HostCount.key,Prod.mk.injEq,versionKey_inj,and_assoc]
  rw [drilldownTotal,drilldownRows,same,rhelList,installed_sum today table related _
    (fun key => decide (key.systemIdKey = (versionKey major (some minor),lifecycle)))]
  exact wanted_listed major minor lifecycle (permitted dev orgId hostGroups hosts)

theorem mem_drilldown (info : SystemInfo) :
    (∃ row ∈ drilldownRows major minor lifecycle
      (rhelList today table related dev orgId hostGroups hosts), info ∈ row.systemsDetail) ↔
        ∃ row ∈ permitted dev orgId hostGroups hosts, Listed major minor lifecycle row ∧
          info = ⟨row.h.id,row.h.displayName,major,some minor⟩ := by
  have hosts_of : ∀ host, host ∈ countedHosts ((permitted dev orgId hostGroups hosts).map
      hostsQueryWithoutPackages) ↔ ∃ row ∈ permitted dev orgId hostGroups hosts,
        counted (hostsQueryWithoutPackages row) = some host := by
    intro host
    simp [countedHosts]
  constructor
  · rintro ⟨row,member,inside⟩
    obtain ⟨listed,chosen⟩ := List.mem_filter.mp member
    obtain ⟨countKey,_,rfl⟩ := (mem_installed today table related _ row).mp listed
    obtain ⟨host,counted,same,rfl⟩ := (mem_systemsDetail _ _ info).mp inside
    obtain ⟨joined,present,found⟩ := (hosts_of host).mp counted
    have key : host.1.systemIdKey = (versionKey major (some minor),lifecycle) := by
      obtain ⟨one,two,three⟩ := of_decide_eq_true chosen
      exact same.trans (congrArg₂ Prod.mk (congrArg₂ versionKey one two) three)
    obtain ⟨isListed,_,_,equal⟩ := (counted_listed major minor lifecycle joined host).mp ⟨found,key⟩
    exact ⟨joined,present,isListed,equal⟩
  · rintro ⟨row,present,listed,rfl⟩
    obtain ⟨name,named⟩ := Option.ne_none_iff_exists'.mp listed.1
    have found := (counted_listed major minor lifecycle row
      (⟨name,major,some minor,lifecycle⟩,⟨row.h.id,row.h.displayName,major,some minor⟩)).mpr
        ⟨listed,named,rfl,rfl⟩
    have member := (hosts_of _).mpr ⟨row,present,found.1⟩
    have nonempty := List.ne_nil_of_mem ((mem_hostsCounted _ _ _).mpr member)
    refine ⟨_,List.mem_filter.mpr ⟨(mem_installed today table related _ _).mpr ⟨_,nonempty,rfl⟩,?_⟩,
      (mem_systemsDetail _ _ _).mpr ⟨_,member,rfl,rfl⟩⟩
    exact decide_eq_true ⟨rfl,rfl,rfl⟩

/-! The statement's rows of the same version and lifecycle type. -/

private def sortedRows : List Joined :=
  ((permitted dev orgId hostGroups hosts).filter
    (fun row => decide (Matches major minor lifecycle row))).mergeSort (displayOrder collation)

private theorem mem_sortedRows (row : Joined) :
    row ∈ sortedRows collation dev orgId hostGroups major minor lifecycle hosts ↔
      row ∈ permitted dev orgId hostGroups hosts ∧ Matches major minor lifecycle row := by
  rw [sortedRows,(List.mergeSort_perm _ _).mem_iff,List.mem_filter,decide_eq_true_eq]

private theorem rhelPage_ok (limit index : Nat) (response : PaginatedSystemsResponse) :
    rhelPage collation dev orgId hostGroups major minor lifecycle hosts limit index = .ok response ↔
      ∃ systems, (sortedRows collation dev orgId hostGroups major minor lifecycle hosts).mapM
          systemInfoOf = .ok systems ∧
        response = ⟨⟨(page (index * limit) limit systems).length,
          (sortedRows collation dev orgId hostGroups major minor lifecycle hosts).length⟩,
            page (index * limit) limit systems⟩ := by
  have rows := query_rows dev orgId hostGroups major minor lifecycle hosts
    {orgId := queriedOrg dev orgId,major := toString major,minor := toString minor
     hostGroups := hostGroups,searchPattern := searchPattern ""} rfl rfl rfl rfl
  simp only [rhelPage,queryRhelSystems,searched,Bool.false_eq_true,if_false,Option.getD_none,rows,
    Except.bind_ok,sortedRows,List.length_mergeSort]
  refine exists_congr (fun systems => and_congr_right (fun _ => ?_))
  exact ⟨fun same => (Except.ok.inj same).symm,fun same => congrArg Except.ok same.symm⟩

/-- Reading every page: each cast succeeds, and the pages join to the whole list. -/
private theorem pages_ok (limit count : Nat) (systems : List SystemInfo)
    (read : (sortedRows collation dev orgId hostGroups major minor lifecycle hosts).mapM
      systemInfoOf = .ok systems) (enough : systems.length ≤ count * limit) :
    ∃ pages, (List.range count).mapM
        (rhelPage collation dev orgId hostGroups major minor lifecycle hosts limit) = .ok pages ∧
      (∀ page ∈ pages, page.metaData.total = systems.length) ∧ pages.flatMap (·.data) = systems := by
  have size := (Except.mapM_ok.mp read).length_eq
  refine ⟨_,Except.mapM_total _ (fun index _ => (rhelPage_ok collation dev orgId hostGroups major minor
    lifecycle hosts limit index _).mpr ⟨systems,read,rfl⟩),?_,?_⟩
  · intro response member
    obtain ⟨index,_,rfl⟩ := List.mem_map.mp member
    exact size
  · rw [List.flatMap_map]
    exact pages_all limit count systems enough

private theorem permitted_ids (distinct : (hosts.map (·.id)).Nodup) :
    ((permitted dev orgId hostGroups hosts).map (·.h.id)).Nodup := by
  have joined : ((hosts.filterMap join).map (·.h.id)).Nodup := by
    apply List.Nodup.sublist _ distinct
    clear distinct
    induction hosts with
    | nil => exact .slnil
    | cons host rest ih =>
      rw [List.filterMap_cons]
      cases found : join host with
      | none => exact ih.cons host.id
      | some row =>
        rw [List.map_cons,join_host found]
        exact ih.cons_cons host.id
  exact joined.sublist (List.filter_sublist.map _)

/-- Where pages and list agree, the statement reports exactly the hosts of the list. -/
private theorem agreement_members
    (agrees : DrilldownAgrees collation today table related dev orgId hostGroups major minor lifecycle hosts) :
    ∃ systems, (sortedRows collation dev orgId hostGroups major minor lifecycle hosts).mapM
        systemInfoOf = .ok systems ∧
      ∀ info, info ∈ systems ↔ ∃ row ∈ permitted dev orgId hostGroups hosts,
        Listed major minor lifecycle row ∧ info = ⟨row.h.id,row.h.displayName,major,some minor⟩ := by
  obtain ⟨pages,read,totals,-,members⟩ := agrees 1 (drilldownTotal major minor lifecycle
    (rhelList today table related dev orgId hostGroups hosts) + 1) (by decide) (by omega)
  obtain ⟨first,inFirst,queried⟩ := Except.mapM_image read (List.mem_range.mpr (Nat.succ_pos _))
  obtain ⟨systems,casts,same⟩ := (rhelPage_ok collation dev orgId hostGroups major minor lifecycle hosts
    1 0 first).mp queried
  have size : systems.length = drilldownTotal major minor lifecycle
      (rhelList today table related dev orgId hostGroups hosts) := by
    rw [← (Except.mapM_ok.mp casts).length_eq,← totals first inFirst,same]
  have enough : systems.length ≤ (drilldownTotal major minor lifecycle
      (rhelList today table related dev orgId hostGroups hosts) + 1) * 1 := by omega
  obtain ⟨pages',read',-,joined⟩ := pages_ok collation dev orgId hostGroups major minor lifecycle hosts 1 _
    systems casts enough
  cases read.symm.trans read'
  rw [joined] at members
  exact ⟨systems,casts,fun info => (members info).trans
    (mem_drilldown today table related dev orgId hostGroups major minor lifecycle hosts info)⟩

/-- Where pages and list agree, both sides read the version of every host alike. -/
theorem agreement_releases (distinct : (hosts.map (·.id)).Nodup)
    (agrees : DrilldownAgrees collation today table related dev orgId hostGroups major minor lifecycle hosts) :
    ∀ row ∈ permitted dev orgId hostGroups hosts, ReleaseAgrees major minor lifecycle row := by
  have ids := permitted_ids dev orgId hostGroups hosts distinct
  obtain ⟨systems,casts,members⟩ := agreement_members collation today table related dev orgId hostGroups
    major minor lifecycle hosts agrees
  -- A row of one side has the id of a row of the other, so it is that row.
  have unique : ∀ one ∈ permitted dev orgId hostGroups hosts, ∀ two ∈ permitted dev orgId hostGroups hosts,
      one.h.id = two.h.id → one = two := fun one inOne two inTwo => List.inj_on_of_nodup_map ids inOne inTwo
  intro row present named absent type osRelease found either
  have matched : Matches major minor lifecycle row := by
    rcases either with parts | version
    · exact (matches_release major minor lifecycle absent).mpr ⟨⟨named,type⟩,osRelease,found,parts⟩
    · have listed := (listed_release major minor lifecycle absent).mpr
        ⟨⟨named,type⟩,osRelease,found,version⟩
      have inside := (members _).mpr ⟨row,present,listed,rfl⟩
      obtain ⟨other,inOther,reported⟩ := Except.mapM_source casts inside
      obtain ⟨presentOther,matchedOther⟩ := (mem_sortedRows collation dev orgId hostGroups major minor
        lifecycle hosts other).mp inOther
      have info := ((systemInfo_matches major minor lifecycle matchedOther _).mp reported).2
      rw [unique row present other presentOther (congrArg SystemInfo.id info)]
      exact matchedOther
  obtain ⟨info,inside,reported⟩ := Except.mapM_image casts ((mem_sortedRows collation dev orgId hostGroups
    major minor lifecycle hosts row).mpr ⟨present,matched⟩)
  obtain ⟨ranges,rfl⟩ := (systemInfo_matches major minor lifecycle matched info).mp reported
  obtain ⟨other,presentOther,listedOther,equal⟩ := (members _).mp inside
  have sameRow := unique row present other presentOther (congrArg SystemInfo.id equal)
  rw [← sameRow] at listedOther
  obtain ⟨_,_,foundParts,parts⟩ := (matches_release major minor lifecycle absent).mp matched
  obtain ⟨_,_,foundVersion,version⟩ := (listed_release major minor lifecycle absent).mp listedOther
  cases found.symm.trans foundParts
  cases found.symm.trans foundVersion
  have minors : row.osMinor.getD minor = minor := Option.some.inj (congrArg SystemInfo.osMinor equal)
  refine ⟨parts,version,?_,(ranges absent).1,?_⟩
  · cases present' : row.osMinor with
    | none => exact Or.inl rfl
    | some known => rw [present'] at minors; exact Or.inr (congrArg some minors)
  · cases present' : row.osMinor with
    | none => exact (ranges absent).2 present'
    | some known => rw [present'] at minors; exact minors ▸ minor_range present'

/-- The drill-down agrees with the RHEL list exactly when every permitted host without
operating_system.major has its os_release read alike by the statement and by `int()`. -/
theorem drilldown_agrees (distinct : (hosts.map (·.id)).Nodup) :
    DrilldownAgrees collation today table related dev orgId hostGroups major minor lifecycle hosts ↔
      ∀ row ∈ permitted dev orgId hostGroups hosts, ReleaseAgrees major minor lifecycle row := by
  refine ⟨agreement_releases collation today table related dev orgId hostGroups major minor lifecycle hosts
    distinct,fun releases limit count _ enough => ?_⟩
  have same : ∀ row ∈ permitted dev orgId hostGroups hosts,
      (Matches major minor lifecycle row ↔ Listed major minor lifecycle row) :=
    fun row present => matches_listed major minor lifecycle (releases row present)
  have reports : ∀ row ∈ sortedRows collation dev orgId hostGroups major minor lifecycle hosts,
      systemInfoOf row = .ok ⟨row.h.id,row.h.displayName,major,some minor⟩ := by
    intro row member
    obtain ⟨present,matched⟩ := (mem_sortedRows collation dev orgId hostGroups major minor lifecycle hosts
      row).mp member
    exact systemInfo_read major minor lifecycle (releases row present) matched
  have read := Except.mapM_total _ reports
  have size : (sortedRows collation dev orgId hostGroups major minor lifecycle hosts).length =
      drilldownTotal major minor lifecycle (rhelList today table related dev orgId hostGroups hosts) := by
    rw [drilldown_total,sortedRows,List.length_mergeSort]
    exact congrArg List.length (List.filter_congr (fun row present => decide_eq_decide.mpr (same row present)))
  obtain ⟨pages,queried,totals,joined⟩ := pages_ok collation dev orgId hostGroups major minor lifecycle hosts
    limit count _ read (by rw [List.length_map,size]; exact enough)
  refine ⟨pages,queried,fun page member => ?_,?_,fun info => ?_⟩
  · rw [totals page member,List.length_map,size]
  · have ids := permitted_ids dev orgId hostGroups hosts distinct
    rw [joined,List.map_map]
    exact ((List.mergeSort_perm _ _).map _).nodup_iff.mpr (ids.sublist (List.filter_sublist.map _))
  · rw [joined,mem_drilldown,List.mem_map]
    constructor
    · rintro ⟨row,member,rfl⟩
      obtain ⟨present,matched⟩ := (mem_sortedRows collation dev orgId hostGroups major minor lifecycle hosts
        row).mp member
      exact ⟨row,present,(same row present).mp matched,rfl⟩
    · rintro ⟨row,present,listed,rfl⟩
      exact ⟨row,(mem_sortedRows collation dev orgId hostGroups major minor lifecycle hosts row).mpr
        ⟨present,(same row present).mpr listed⟩,rfl⟩

end Agreement

private def codePointOrder : Collation := ⟨fun first second => decide (first ≤ second),Char.toLower⟩

private def releaseHost (osRelease : String) (operatingSystem : OperatingSystem) : HostRecord :=
  ⟨⟨1⟩,"1234","host",[],some ⟨"1234",some operatingSystem,some osRelease,none⟩,none⟩

/-- The statement counts a host whose third part is no integer; the list skips it. -/
theorem third_part_counted : ¬ DrilldownAgrees codePointOrder (.mk 2025 6 1) osLifecycleDates false false "1234"
    ∅ 9 2 .mainline [releaseHost "9.2.beta" ⟨some "RHEL",none,none⟩] := by
  intro agrees
  have releases := agreement_releases codePointOrder (.mk 2025 6 1) osLifecycleDates false false "1234" ∅ 9 2
    .mainline [releaseHost "9.2.beta" ⟨some "RHEL",none,none⟩] (by decide) agrees
  have read := releases ⟨releaseHost "9.2.beta" ⟨some "RHEL",none,none⟩,_,none⟩ (List.mem_cons_self)
    (by decide) rfl (by decide) "9.2.beta" rfl (Or.inl (by decide))
  have unread : releaseVersion "9.2.beta" = none := by decide
  cases unread.symm.trans read.2.1

theorem drilldown_agrees_release : DrilldownAgrees codePointOrder (.mk 2025 6 1) osLifecycleDates false false
    "1234" ∅ 9 2 .mainline [releaseHost "9.2" ⟨some "RHEL",none,none⟩] := by
  refine (drilldown_agrees codePointOrder (.mk 2025 6 1) osLifecycleDates false false "1234" ∅ 9 2 .mainline _
    (by decide)).mpr ?_
  intro row present
  have only : row = ⟨releaseHost "9.2" ⟨some "RHEL",none,none⟩,_,none⟩ := List.mem_singleton.mp present
  rw [only]
  intro _ _ _ osRelease found _
  cases found
  exact ⟨⟨by decide,by decide⟩,by decide,Or.inl rfl,by decide,by decide⟩

end Roadmap
