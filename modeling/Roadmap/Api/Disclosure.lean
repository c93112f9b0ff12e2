import Roadmap.Api.Isolation
import Roadmap.AppStreams.Kept

/-! The hosts that a response tells about: each one is a host that the caller may see and, where
the request lists ids, asked for. -/
namespace Roadmap
open Sql

namespace InventoryResponse

/-- The host details in a response. -/
def Details (response : InventoryResponse) (info : SystemInfo) : Prop :=
  match response with
  | .relevantSystems response => ∃ row ∈ response.data, info ∈ row.systemsDetail
  | .relevantAppStreams response => ∃ row ∈ response.data, info ∈ row.systemsDetail
  | .upcoming response => ∃ row ∈ response.data, info ∈ row.details.potentiallyAffectedSystemsDetail
  | .systems response => info ∈ response.data
  | .hostUuids _ => False

/-- The host ids that a response lists without details. -/
def Ids (response : InventoryResponse) (id : UUID) : Prop :=
  match response with
  | .relevantSystems response => ∃ row ∈ response.data, id ∈ row.systems
  | .relevantAppStreams response => ∃ row ∈ response.data, id ∈ row.systems
  | .upcoming response => ∃ row ∈ response.data, id ∈ row.details.potentiallyAffectedSystems
  | .systems _ => False
  | .hostUuids response => id ∈ response.data

end InventoryResponse

/-- A row's details and ids are of the hosts that were read. -/
def TellsOf (systems : List HostRow) (detail : Finset SystemInfo) (ids : Finset UUID) : Prop :=
  (∀ info ∈ detail, ∃ system ∈ systems, info.id = system.id ∧ info.displayName = system.displayName) ∧
    ids ⊆ getSystemUuids detail

section Rows

variable {systems : List HostRow}

theorem tells_nothing : TellsOf systems ∅ ∅ := ⟨by simp,by simp⟩

theorem tells_uuids {detail : Finset SystemInfo}
    (told : ∀ info ∈ detail, ∃ system ∈ systems, info.id = system.id ∧ info.displayName = system.displayName) :
    TellsOf systems detail (getSystemUuids detail) := ⟨told,subset_rfl⟩

theorem counted_host {host : HostCount × SystemInfo} (member : host ∈ countedHosts systems) :
    ∃ system ∈ systems, host.2.id = system.id ∧ host.2.displayName = system.displayName := by
  obtain ⟨system,inside,read⟩ := List.mem_filterMap.mp member
  refine ⟨system,inside,?_⟩
  unfold counted at read
  split at read
  · rw [← Option.some.inj read]
    exact ⟨rfl,rfl⟩
  · contradiction

theorem relevantSystems_tells (today : Date) (table : LifecycleTable) (related : Bool) {row : System}
    (listed : row ∈ (relevantSystems today table related systems).data) :
    TellsOf systems row.systemsDetail row.systems := by
  let installed := (countSystems systems).systemCounts.items.map
    (installedSystem today table (countSystems systems))
  have either : row ∈ installed ∨ ∃ os, row = relatedSystem today os := by
    have member := List.mem_mergeSort.mp listed
    split at member
    · rcases List.mem_append.mp member with inside | added
      · exact Or.inl inside
      · obtain ⟨os,-,rfl⟩ := List.mem_map.mp added
        exact Or.inr ⟨os.2,rfl⟩
    · exact Or.inl member
  rcases either with inside | ⟨os,rfl⟩
  · obtain ⟨entry,-,rfl⟩ := List.mem_map.mp inside
    refine tells_uuids (fun info held => ?_)
    obtain ⟨host,member,-,rfl⟩ := (mem_systemsDetail systems _ info).mp held
    exact counted_host member
  · exact tells_nothing

end Rows

section Packages

variable {systems : List HostRowWithPackages}

theorem hostInfo_host {system : HostRowWithPackages} {info : SystemInfo} (read : hostInfo system = some info) :
    info.id = system.id ∧ info.displayName = system.displayName := by
  obtain ⟨version,-,rfl⟩ := Option.map_eq_some_iff.mp read
  exact ⟨rfl,rfl⟩

theorem stream_host {casing : Casing} {catalogue : Catalogue} {mapping : SystemsByStream}
    (passed : systemsByAppStream casing catalogue systems = .ok mapping)
    {entry : AppStreamKey × Finset SystemInfo} (listed : entry ∈ mapping.items) {info : SystemInfo}
    (held : info ∈ entry.2) : ∃ system ∈ systems.map (·.toHostRow),
      info.id = system.id ∧ info.displayName = system.displayName := by
  obtain ⟨-,rfl⟩ := systemsByAppStream_ok casing catalogue passed
  have inside : info ∈ (mappingOf casing catalogue systems).heldAt entry.1 := by
    rw [Dict.heldAt,Dict.mem_items_get? _ entry listed]
    exact held
  obtain ⟨system,member,recorded,-⟩ := (mem_mappingOf casing catalogue systems entry.1 info).mp inside
  exact ⟨system.toHostRow,List.mem_map_of_mem member,hostInfo_host recorded⟩

theorem relevantAppStreams_tells {casing : Casing} {today : Date} {catalogue : Catalogue} {related : Bool}
    {response : RelevantAppStreamsResponse}
    (answered : getRelevantAppStreamsForHosts casing today catalogue related systems = .ok response)
    {row : RelevantAppStream} (listed : row ∈ response.data) :
    TellsOf (systems.map (·.toHostRow)) row.systemsDetail row.systems := by
  obtain ⟨mapping,passed,built⟩ := Except.bind_ok.mp answered
  rw [buildRelevantAppStreams,sortedByAttrs] at built
  split at built
  · rw [← Except.ok.inj built] at listed
    have member := List.mem_mergeSort.mp listed
    have either : row ∈ mapping.items.filterMap (installedRow today) ∨
        ∃ key, relatedRow today key = some row := by
      unfold relevantRows at member
      split at member
      · rcases List.mem_append.mp member with inside | added
        · exact Or.inl inside
        · obtain ⟨key,-,shown⟩ := List.mem_filterMap.mp added
          exact Or.inr ⟨key,shown⟩
      · exact Or.inl member
    rcases either with inside | ⟨key,shown⟩
    · obtain ⟨entry,held,shown⟩ := List.mem_filterMap.mp inside
      rw [installedRow] at shown
      split at shown
      · contradiction
      · rw [← Option.some.inj shown]
        exact tells_uuids (fun info => stream_host passed held)
    · rw [relatedRow] at shown
      split at shown
      · contradiction
      · rw [← Option.some.inj shown]
        exact tells_nothing
  · contradiction

theorem packagesOfSystem_keys {system : HostRowWithPackages} {packages next : PackagesBySystem}
    (read : packagesOfSystem packages system = .ok next) {info : SystemInfo} (listed : info ∈ next.keys) :
    info ∈ packages.keys ∨ info.id = system.id ∧ info.displayName = system.displayName := by
  rw [packagesOfSystem] at read
  split at read
  · cases read
    exact Or.inl listed
  split at read
  · cases read
    exact Or.inl listed
  · obtain ⟨names,-,rfl⟩ := Except.map_ok.mp read
    rw [Dict.mem_keys,Dict.get?_set] at listed
    split at listed
    next same =>
      rw [← eq_of_beq same]
      exact Or.inr ⟨rfl,rfl⟩
    next => exact Or.inl ((Dict.mem_keys packages info).mpr listed)

theorem packages_host {packages : PackagesBySystem} (read : packagesBySystem systems = .ok packages)
    {info : SystemInfo} (listed : info ∈ packages.keys) : ∃ system ∈ systems.map (·.toHostRow),
      info.id = system.id ∧ info.displayName = system.displayName := by
  have general : ∀ start, systems.foldlM packagesOfSystem start = .ok packages → info ∈ start.keys ∨
      ∃ system ∈ systems.map (·.toHostRow), info.id = system.id ∧ info.displayName = system.displayName := by
    clear read
    induction systems with
    | nil =>
      intro start ran
      cases ran
      exact Or.inl listed
    | cons system rest ih =>
      intro start ran
      rw [List.foldlM_cons] at ran
      obtain ⟨next,stepped,ran⟩ := Except.bind_ok.mp ran
      rw [List.map_cons,List.exists_mem_cons_iff]
      rcases ih next ran with inside | later
      · exact (packagesOfSystem_keys stepped inside).imp_right Or.inl
      · exact Or.inr (Or.inr later)
  exact (general .empty read).resolve_left (by simp [Dict.keys,Dict.empty])

theorem upcoming_tells {file : List UpcomingInput} {all : Bool} {packages : PackagesBySystem}
    (read : packagesBySystem systems = .ok packages) {row : UpcomingOutput}
    (listed : row ∈ (getUpcomingRelevant (getUpcomingDataWithHosts packages file all) all).data) :
    TellsOf (systems.map (·.toHostRow)) row.details.potentiallyAffectedSystemsDetail
      row.details.potentiallyAffectedSystems := by
  obtain ⟨item,-,-,rfl⟩ := (mem_upcoming_rows packages file all row).mp listed
  refine tells_uuids (fun info held => ?_)
  obtain ⟨host,member,-,rfl⟩ := (mem_affected packages item info).mp held
  exact packages_host read (List.mem_map_of_mem member)

theorem mem_page {α : Type} {offset limit : Nat} {items : List α} {item : α}
    (listed : item ∈ page offset limit items) : item ∈ items :=
  List.mem_of_mem_drop (List.mem_of_mem_take listed)

theorem mem_paginate {casing : Casing} {order : SetOrder SystemInfo} {matching : Finset SystemInfo}
    {offset limit : Nat} {search : Option String} {info : SystemInfo}
    (listed : info ∈ (paginate casing order matching offset limit search).data) : info ∈ matching := by
  have found := List.mem_of_mem_filter (mem_page listed)
  exact (Sorted.mem_sortBy_set info).mp found

end Packages

def InventoryRequest.hostIds : InventoryRequest → Option (List UUID)
  | .relevantRhelForHosts hostIds _ => some hostIds
  | .relevantAppStreamsForHosts hostIds _ => some hostIds
  | .relevantUpcomingForHosts hostIds _ => some hostIds
  | _ => none

namespace Service

variable (service : Service) (caller : Caller) (hosts : List HostRecord)

/-- A host of the table that the caller may see, among the requested ones. -/
def Shown (hostIds : Option (List UUID)) (host : HostRecord) : Prop :=
  host ∈ hosts ∧ service.Sees caller host ∧ Statements.Requested hostIds host

theorem inventoryRows_shown {includePackages : Bool} {major minor : Option Int}
    {hostIds : Option (List UUID)} {rows : List Joined}
    (read : Statements.inventoryRows service.collation service.dev caller.orgId caller.hostGroups hosts
      includePackages major minor hostIds = some rows) {row : Joined} (member : row ∈ rows) :
    service.Shown caller hosts hostIds row.h := by
  have chosen := Statements.inventory_hosts service.collation service.dev caller.orgId caller.hostGroups hosts
    includePackages major minor hostIds
  rw [read,Option.map_some,Option.some.injEq] at chosen
  have inside : row.h ∈ rows.map (·.h) := List.mem_map_of_mem member
  rw [chosen,List.mem_filter,decide_eq_true_eq] at inside
  exact ⟨inside.1,inside.2.1,inside.2.2.1⟩

/-- Every row read is of a host that is shown. -/
def RowsShown (hostIds : Option (List UUID)) (systems : List HostRow) : Prop :=
  ∀ system ∈ systems, ∃ host, service.Shown caller hosts hostIds host ∧
    system.id = host.id ∧ system.displayName = host.displayName

theorem stream_ok {α : Type} {rows : Option (List α)} {result : List α} (ok : stream rows = .ok result) :
    rows = some result := by
  cases rows with
  | some rows => exact congrArg some (Except.ok.inj ok)
  | none => contradiction

theorem rows_shown {hostIds : Option (List UUID)} {rows : List Joined}
    (shown : ∀ row ∈ rows, service.Shown caller hosts hostIds row.h) {view : Joined → HostRow}
    (kept : ∀ row, (view row).id = row.h.id ∧ (view row).displayName = row.h.displayName) :
    service.RowsShown caller hosts hostIds (rows.map view) := by
  intro system member
  obtain ⟨row,present,rfl⟩ := List.mem_map.mp member
  exact ⟨row.h,shown row present,kept row⟩

theorem hostInventory_shown {version : Version} {systems : List HostRowWithPackages}
    (read : service.hostInventory caller hosts version = .ok systems) :
    service.RowsShown caller hosts none (systems.map (·.toHostRow)) := by
  obtain ⟨rows,streamed,rfl⟩ := Except.map_ok.mp read
  rw [List.map_map]
  apply service.rows_shown caller hosts
  · exact fun row => service.inventoryRows_shown caller hosts (stream_ok streamed)
  · exact fun row => ⟨rfl,rfl⟩

theorem hostInventoryWithoutPackages_shown {version : Version} {systems : List HostRow}
    (read : service.hostInventoryWithoutPackages caller hosts version = .ok systems) :
    service.RowsShown caller hosts none systems := by
  obtain ⟨rows,streamed,rfl⟩ := Except.map_ok.mp read
  apply service.rows_shown caller hosts
  · exact fun row => service.inventoryRows_shown caller hosts (stream_ok streamed)
  · exact fun row => ⟨rfl,rfl⟩

theorem requested_eraseDups {hostIds : List UUID} {host : HostRecord}
    (shown : service.Shown caller hosts (some hostIds.eraseDups) host) :
    service.Shown caller hosts (some hostIds) host := by
  refine ⟨shown.1,shown.2.1,?_⟩
  simpa [Statements.Requested] using shown.2.2

theorem hostInventoryByIds_shown {hostIds : List UUID} {systems : List HostRowWithPackages}
    (read : service.hostInventoryByIds caller hosts hostIds = .ok systems) :
    service.RowsShown caller hosts (some hostIds) (systems.map (·.toHostRow)) := by
  obtain ⟨rows,streamed,rfl⟩ := Option.map_eq_some_iff.mp (stream_ok read)
  rw [List.map_map]
  apply service.rows_shown caller hosts
  · intro row present
    exact service.requested_eraseDups caller hosts (service.inventoryRows_shown caller hosts streamed present)
  · exact fun row => ⟨rfl,rfl⟩

theorem hostInventoryByIdsWithoutPackages_shown {hostIds : List UUID} {systems : List HostRow}
    (read : service.hostInventoryByIdsWithoutPackages caller hosts hostIds = .ok systems) :
    service.RowsShown caller hosts (some hostIds) systems := by
  obtain ⟨rows,streamed,rfl⟩ := Option.map_eq_some_iff.mp (stream_ok read)
  apply service.rows_shown caller hosts
  · intro row present
    exact service.requested_eraseDups caller hosts (service.inventoryRows_shown caller hosts streamed present)
  · exact fun row => ⟨rfl,rfl⟩

theorem rhelSystems_shown {major minor : Int} {lifecycleType : LifecycleType} {offset limit : Nat}
    {search : Option String} {response : PaginatedSystemsResponse}
    (answered : queryRhelSystems service.collation service.dev caller.orgId caller.hostGroups major minor
      lifecycleType offset limit search hosts = .ok response) {info : SystemInfo}
    (listed : info ∈ response.data) : ∃ host, service.Shown caller hosts none host ∧
      info.id = host.id ∧ info.displayName = host.displayName := by
  obtain ⟨systems,read,built⟩ := Except.bind_ok.mp answered
  cases built
  obtain ⟨row,sorted,made⟩ := Except.mapM_source read (mem_page listed)
  have text := Statements.rhelSystemsRows_runQuery service.collation service.dev caller.orgId caller.hostGroups
    hosts major minor lifecycleType search
  have chosen := Statements.rhelSystems_hosts service.collation service.dev caller.orgId caller.hostGroups hosts
    major minor lifecycleType search
  rw [text,Option.map_some,Option.some.injEq] at chosen
  have inside := @List.mem_map_of_mem _ _ _ row Joined.h (List.mem_mergeSort.mp sorted)
  rw [chosen,List.mem_filter,decide_eq_true_eq] at inside
  refine ⟨row.h,⟨inside.1,inside.2.1,by simp [Statements.Requested]⟩,?_⟩
  unfold systemInfoOf at made
  obtain ⟨osMajor,-,made⟩ := Except.bind_ok.mp made
  obtain ⟨osMinor,-,made⟩ := Except.bind_ok.mp made
  cases osMajor with
  | some major => cases made; exact ⟨rfl,rfl⟩
  | none => contradiction

theorem hostUuids_shown {response : AccessibleHostUuidsResponse}
    (answered : service.accessibleHostUuids caller hosts = .ok response) {id : UUID}
    (listed : id ∈ response.data) : ∃ host, service.Shown caller hosts none host ∧ id = host.id := by
  rw [accessibleHostUuids,Statements.accessible_uuids] at answered
  cases answered
  obtain ⟨host,sorted,rfl⟩ := List.mem_map.mp listed
  have inside := List.mem_mergeSort.mp sorted
  rw [List.mem_filter,decide_eq_true_eq] at inside
  exact ⟨host,⟨inside.1,inside.2,by simp [Statements.Requested]⟩,rfl⟩

/-- What a response tells is about hosts that are shown. -/
def Discloses (hostIds : Option (List UUID)) (response : InventoryResponse) : Prop :=
  (∀ info, response.Details info → ∃ host, service.Shown caller hosts hostIds host ∧
    info.id = host.id ∧ info.displayName = host.displayName) ∧
  ∀ id, response.Ids id → ∃ host, service.Shown caller hosts hostIds host ∧ id = host.id

theorem shown_of_rows {hostIds : Option (List UUID)} {systems : List HostRow}
    (shown : service.RowsShown caller hosts hostIds systems) {info : SystemInfo}
    (told : ∃ system ∈ systems, info.id = system.id ∧ info.displayName = system.displayName) :
    ∃ host, service.Shown caller hosts hostIds host ∧ info.id = host.id ∧ info.displayName = host.displayName := by
  obtain ⟨system,member,id,name⟩ := told
  obtain ⟨host,seen,sameId,sameName⟩ := shown system member
  exact ⟨host,seen,id.trans sameId,name.trans sameName⟩

theorem discloses_of_rows {ρ : Type} {hostIds : Option (List UUID)} {systems : List HostRow}
    (shown : service.RowsShown caller hosts hostIds systems) {data : List ρ}
    {detail : ρ → Finset SystemInfo} {ids : ρ → Finset UUID}
    (tells : ∀ row ∈ data, TellsOf systems (detail row) (ids row)) :
    (∀ info, (∃ row ∈ data, info ∈ detail row) → ∃ host, service.Shown caller hosts hostIds host ∧
      info.id = host.id ∧ info.displayName = host.displayName) ∧
    ∀ id, (∃ row ∈ data, id ∈ ids row) → ∃ host, service.Shown caller hosts hostIds host ∧ id = host.id := by
  constructor
  · rintro info ⟨row,listed,held⟩
    exact service.shown_of_rows caller hosts shown ((tells row listed).1 info held)
  · rintro id ⟨row,listed,held⟩
    obtain ⟨info,inside,rfl⟩ := Finset.mem_image.mp ((tells row listed).2 held)
    obtain ⟨host,seen,same,-⟩ := service.shown_of_rows caller hosts shown ((tells row listed).1 info inside)
    exact ⟨host,seen,same⟩

/-- Whatever is asked, each host that a successful response tells about, by its details or its id,
is one of the table that the caller may see and that the request does not leave out. -/
theorem answer_discloses {request : InventoryRequest} {response : InventoryResponse}
    (answered : service.answer caller hosts request = .ok response) :
    service.Discloses caller hosts request.hostIds response := by
  cases request with
  | relevantSystems version related =>
    obtain ⟨systems,read,built⟩ := Except.bind_ok.mp answered
    cases built
    exact service.discloses_of_rows caller hosts (service.hostInventoryWithoutPackages_shown caller hosts read)
      (fun row => relevantSystems_tells _ _ _)
  | relevantSystemsV2 version related =>
    obtain ⟨systems,read,built⟩ := Except.bind_ok.mp answered
    cases built
    refine service.discloses_of_rows caller hosts (service.hostInventory_shown caller hosts read)
      (fun row listed => ?_)
    obtain ⟨full,-,rfl⟩ := List.mem_map.mp listed
    exact tells_nothing
  | rhelSystemsV2 major minor lifecycleType paging =>
    obtain ⟨page,read,built⟩ := Except.bind_ok.mp answered
    cases built
    exact ⟨fun info => service.rhelSystems_shown caller hosts read,fun _ => nofun⟩
  | relevantRhelForHosts hostIds related =>
    obtain ⟨systems,read,built⟩ := Except.bind_ok.mp answered
    cases built
    exact service.discloses_of_rows caller hosts
      (service.hostInventoryByIdsWithoutPackages_shown caller hosts read) (fun row => relevantSystems_tells _ _ _)
  | relevantAppStreams version related =>
    obtain ⟨systems,read,built⟩ := Except.bind_ok.mp answered
    obtain ⟨rows,counted,built⟩ := Except.bind_ok.mp built
    cases built
    exact service.discloses_of_rows caller hosts (service.hostInventory_shown caller hosts read)
      (fun row => relevantAppStreams_tells counted)
  | relevantAppStreamsV2 version related =>
    obtain ⟨systems,read,built⟩ := Except.bind_ok.mp answered
    obtain ⟨rows,counted,built⟩ := Except.bind_ok.mp built
    cases built
    refine service.discloses_of_rows caller hosts (service.hostInventory_shown caller hosts read)
      (fun row listed => ?_)
    obtain ⟨full,-,rfl⟩ := List.mem_map.mp listed
    exact tells_nothing
  | appStreamsSystemsV2 version name osMajor osMinor paging =>
    obtain ⟨systems,read,built⟩ := Except.bind_ok.mp answered
    obtain ⟨mapping,passed,built⟩ := Except.bind_ok.mp built
    cases built
    refine ⟨fun info listed => ?_,fun _ => nofun⟩
    obtain ⟨entry,member,-,held⟩ := (mem_matchingSystems _ _ _ _ _ _).mp (mem_paginate listed)
    exact service.shown_of_rows caller hosts (service.hostInventory_shown caller hosts read)
      (stream_host passed member held)
  | relevantAppStreamsForHosts hostIds related =>
    obtain ⟨systems,read,built⟩ := Except.bind_ok.mp answered
    obtain ⟨rows,counted,built⟩ := Except.bind_ok.mp built
    cases built
    exact service.discloses_of_rows caller hosts (service.hostInventoryByIds_shown caller hosts read)
      (fun row => relevantAppStreams_tells counted)
  | upcomingRelevant version all =>
    obtain ⟨systems,read,built⟩ := Except.bind_ok.mp answered
    obtain ⟨rows,affected,built⟩ := Except.bind_ok.mp built
    obtain ⟨packages,mapped,rfl⟩ := Except.map_ok.mp affected
    cases built
    exact service.discloses_of_rows caller hosts (service.hostInventory_shown caller hosts read)
      (fun row => upcoming_tells mapped)
  | upcomingRelevantV2 version all =>
    obtain ⟨systems,read,built⟩ := Except.bind_ok.mp answered
    obtain ⟨packages,mapped,built⟩ := Except.bind_ok.mp built
    cases built
    refine service.discloses_of_rows caller hosts (service.hostInventory_shown caller hosts read)
      (fun row listed => ?_)
    obtain ⟨full,-,rfl⟩ := List.mem_map.mp listed
    exact tells_nothing
  | upcomingSystemsV2 version name release paging =>
    obtain ⟨systems,read,built⟩ := Except.bind_ok.mp answered
    obtain ⟨packages,mapped,built⟩ := Except.bind_ok.mp built
    cases built
    refine ⟨fun info listed => ?_,fun _ => nofun⟩
    have listed : info ∈ (getUpcomingSystemsV2 _ _ _ _ _ _ _ _ _).data := listed
    rw [getUpcomingSystemsV2] at listed
    split at listed
    · contradiction
    next target found =>
      obtain ⟨host,member,-,rfl⟩ := (mem_affected packages target info).mp (mem_paginate listed)
      exact service.shown_of_rows caller hosts (service.hostInventory_shown caller hosts read)
        (packages_host mapped (List.mem_map_of_mem member))
  | relevantUpcomingForHosts hostIds all =>
    obtain ⟨systems,read,built⟩ := Except.bind_ok.mp answered
    obtain ⟨rows,affected,built⟩ := Except.bind_ok.mp built
    obtain ⟨packages,mapped,rfl⟩ := Except.map_ok.mp affected
    cases built
    exact service.discloses_of_rows caller hosts (service.hostInventoryByIds_shown caller hosts read)
      (fun row => upcoming_tells mapped)
  | accessibleHostUuids =>
    obtain ⟨uuids,read,built⟩ := Except.bind_ok.mp answered
    cases built
    exact ⟨fun _ => nofun,fun id => service.hostUuids_shown caller hosts read⟩

end Service

private def orgHost (id : Nat) (orgId : String) : HostRecord :=
  ⟨⟨id⟩,orgId,"host",[⟨some "web",none⟩],none,none⟩

/-- Of two orgs with a host each in a group of the same id, a caller learns of its own. -/
theorem answer_discloses_uuids : ∃ order : SetOrder SystemInfo, ∃ response : InventoryResponse,
    (emptyService order).answer ⟨"1",{some "web"}⟩ [orgHost 7 "1",orgHost 8 "2"] .accessibleHostUuids =
      .ok response ∧ response.Ids ⟨7⟩ ∧
    (emptyService order).Discloses ⟨"1",{some "web"}⟩ [orgHost 7 "1",orgHost 8 "2"] none response := by
  obtain ⟨order⟩ : Nonempty (SetOrder SystemInfo) := SetOrder.nonempty
  have answered : (emptyService order).answer ⟨"1",{some "web"}⟩ [orgHost 7 "1",orgHost 8 "2"]
      .accessibleHostUuids = .ok (.hostUuids ⟨⟨1,1⟩,[⟨7⟩]⟩) := by
    have own : ([orgHost 7 "1",orgHost 8 "2"].filter (fun host =>
        decide (Statements.VisibleTo "1" {some "web"} host))) = [orgHost 7 "1"] := by decide
    rw [Service.answer,Service.accessibleHostUuids,Statements.accessible_uuids]
    change (Except.map _ (Service.stream (some (((List.filter (fun host =>
      decide (Statements.VisibleTo "1" {some "web"} host)) _).mergeSort _).map _))) >>= _) = _
    rw [own,List.mergeSort_singleton]
    rfl
  exact ⟨order,_,answered,by simp [InventoryResponse.Ids],
    (emptyService order).answer_discloses ⟨"1",{some "web"}⟩ [orgHost 7 "1",orgHost 8 "2"] answered⟩

end Roadmap
