import Roadmap.Api.Isolation
import Roadmap.Data.Systems
import Roadmap.Rhel.ManyBatches
import Roadmap.Upcoming.ManyBatches

/-! The documented way to work in batches: list the ids of the accessible hosts, cut the list,
request each part and merge the responses. -/
namespace Roadmap
open Batches (chosen)

namespace Service

variable (service : Service) (caller : Caller) (hosts : List HostRecord)

/-- `(org_id, id)` is the primary key of the hosts table. -/
def Keyed : Prop := (hosts.map (fun host => (host.orgId,host.id))).Nodup

instance : Decidable (Keyed hosts) := inferInstanceAs (Decidable (List.Nodup _))

variable {hosts} in
theorem Keyed.visible_ids (keyed : Keyed hosts) : ((service.visible caller hosts).map (·.id)).Nodup := by
  have pairs : ((service.visible caller hosts).map (fun host => (host.orgId,host.id))).Nodup :=
    keyed.sublist (List.filter_sublist.map _)
  refine List.Nodup.map_on ?_ pairs.of_map
  intro first inFirst second inSecond same
  have one := of_decide_eq_true (List.mem_filter.mp inFirst).2
  have two := of_decide_eq_true (List.mem_filter.mp inSecond).2
  exact List.inj_on_of_nodup_map pairs inFirst inSecond (Prod.ext (one.1.trans two.1.symm) same)

/-- A client has listed the ids and cut the list into batches, in any order. -/
structure Cut (batches : List (List UUID)) : Prop where
  keyed : Keyed hosts
  listed : ∃ uuids, service.accessibleHostUuids caller hosts = .ok uuids ∧ batches.flatten.Perm uuids.data

variable {hosts} {batches : List (List UUID)} (cut : service.Cut caller hosts batches)

include cut

theorem Cut.ids : batches.flatten.Perm ((service.visible caller hosts).map (·.id)) := by
  obtain ⟨uuids,listed,perm⟩ := cut.listed
  cases (service.accessibleHostUuids_eq caller hosts).symm.trans listed
  exact perm.trans ((List.mergeSort_perm _ _).map _)

omit cut in
theorem Cut.of_ids (keyed : Keyed hosts)
    (ids : batches.flatten.Perm ((service.visible caller hosts).map (·.id))) :
    service.Cut caller hosts batches := by
  exact ⟨keyed,_,service.accessibleHostUuids_eq caller hosts,
    ids.trans ((List.mergeSort_perm _ Statements.hostUuidsOrder).map _).symm⟩

/-- The rows of the whole inventory are those of the batches. -/
theorem Cut.rows (includePackages : Bool) : ∃ rows : List Joined,
    Statements.inventoryRows service.collation service.dev caller.orgId caller.hostGroups hosts includePackages
      none none none = some rows ∧
    (∀ hostIds : List UUID, Statements.inventoryRows service.collation service.dev caller.orgId
      caller.hostGroups hosts includePackages none none (some hostIds.eraseDups) =
        some (chosen (·.h.id) rows hostIds)) ∧
    (batches.flatMap (chosen (·.h.id) rows)).Perm rows ∧ (rows.map (·.h.id)).Nodup := by
  have read := Statements.inventoryRows_eq service.collation service.dev caller.orgId caller.hostGroups hosts
    includePackages none none none
  refine ⟨_,read,fun hostIds => ?_,?_,?_⟩
  · rw [Statements.ids_narrow,read,Option.map_some]
    simp only [List.mem_eraseDups]
    rfl
  · have distinct : batches.flatten.Nodup :=
      (cut.ids service caller).nodup_iff.mpr (cut.keyed.visible_ids service caller)
    refine (Batches.chosen_flatten _ _ distinct).trans (List.Perm.of_eq (Batches.chosen_all _ ?_))
    intro row member
    obtain ⟨joined,org,-,-,groups,-⟩ := List.mem_filter.mp member |>.imp_right of_decide_eq_true
    obtain ⟨host,present,made⟩ := List.mem_filterMap.mp joined
    have same := join_host made
    refine (cut.ids service caller).mem_iff.mpr (List.mem_map.mpr ⟨host,?_,congrArg HostRecord.id same.symm⟩)
    exact List.mem_filter.mpr ⟨present,decide_eq_true ⟨same ▸ org,same ▸ groups⟩⟩
  · have chosen := Statements.inventory_hosts service.collation service.dev caller.orgId caller.hostGroups hosts
      includePackages none none none
    rw [read,Option.map_some,Option.some.injEq] at chosen
    have ids := congrArg (List.map HostRecord.id) chosen
    rw [List.map_map] at ids
    refine (congrArg List.Nodup ids).mpr ((cut.keyed.visible_ids service caller).sublist (List.Sublist.map _ ?_))
    exact List.monotone_filter_right hosts (fun host inside => decide_eq_true (of_decide_eq_true inside).1)

omit cut in
/-- The batches' rows, in the shape that a reader gives them, are those of the whole inventory. -/
theorem flatten_batches {rows : List Joined} (perm : (batches.flatMap (chosen (·.h.id) rows)).Perm rows)
    {α : Type} (view : Joined → α) :
    (batches.map (fun hostIds => (chosen (·.h.id) rows hostIds).map view)).flatten.Perm (rows.map view) := by
  have split : (batches.map (fun hostIds => (chosen (·.h.id) rows hostIds).map view)).flatten =
      (batches.flatMap (chosen (·.h.id) rows)).map view := by
    rw [List.map_flatMap,List.flatMap]
  rw [split]
  exact perm.map view

omit cut in
/-- The responses of a list of requests, one each. -/
def Respond {α : Type} (respond : α → Except PyError InventoryResponse) {ρ : Type}
    (response : ρ → InventoryResponse) (batches : List α) (parts : List ρ) : Prop :=
  List.Forall₂ (fun batch part => respond batch = .ok (response part)) batches parts

/-- Merged one after the other, the responses for the batches are the response for all accessible
hosts, apart from the hosts that its rows list. -/
theorem rhel_host_batches : ∃ whole parts,
    service.answer caller hosts (.relevantSystems {} true) = .ok (.relevantSystems whole) ∧
    Respond (fun batch => service.answer caller hosts (.relevantRhelForHosts batch true)) .relevantSystems
      batches parts ∧
    (whole.data.map (·.withoutSystems)).Perm
      ((RelevantSystemsResponse.mergeAll parts).data.map (·.withoutSystems)) ∧
    whole.metaData = (RelevantSystemsResponse.mergeAll parts).metaData := by
  obtain ⟨rows,read,part,perm,-⟩ := cut.rows service caller false
  let systemsOf := fun hostIds : List UUID => (chosen (·.h.id) rows hostIds).map hostsQueryWithoutPackages
  have flat : (batches.map systemsOf).flatten.Perm (rows.map hostsQueryWithoutPackages) :=
    flatten_batches perm hostsQueryWithoutPackages
  have stands := standsFor_batches service.today service.osLifecycleDates flat
  refine ⟨service.relevantSystems true (rows.map hostsQueryWithoutPackages),
    (batches.map systemsOf).map (service.relevantSystems true),?_,?_,stands.data,stands.metaData.symm⟩
  · rw [answer,hostInventoryWithoutPackages,read]
    rfl
  · rw [Respond,List.map_map,List.forall₂_map_right_iff]
    refine List.forall₂_same.mpr (fun batch _ => ?_)
    rw [answer,hostInventoryByIdsWithoutPackages,Statements.queryHostInventoryByIdsWithoutPackages,part]
    rfl

/-- The same of the upcoming changes, unless every item is asked for and there is no batch. The
package strings that are read parse. -/
theorem upcoming_host_batches (all : Bool) (nonempty : all = true → batches ≠ [])
    (records : Roadmap.Keyed.Distinct UpcomingInput.record service.upcomingFile)
    (formed : ∀ systems, service.hostInventory caller hosts {} = .ok systems →
      ∀ system ∈ systems, WellFormedPackages system) : ∃ whole parts,
    service.answer caller hosts (.upcomingRelevant {} all) = .ok (.upcoming whole) ∧
    Respond (fun batch => service.answer caller hosts (.relevantUpcomingForHosts batch all)) .upcoming
      batches parts ∧
    whole.data.Perm (WrappedUpcomingOutput.mergeAll all parts).data ∧
    whole.metaData = (WrappedUpcomingOutput.mergeAll all parts).metaData := by
  obtain ⟨rows,read,narrow,perm,ids⟩ := cut.rows service caller true
  let systemsOf := fun hostIds : List UUID => (chosen (·.h.id) rows hostIds).map hostsQuery
  have inventory : service.hostInventory caller hosts {} = .ok (rows.map hostsQuery) := by
    rw [hostInventory,read]
    rfl
  have flat : (batches.map systemsOf).flatten.Perm (rows.map hostsQuery) := flatten_batches perm hostsQuery
  have distinct : ((rows.map hostsQuery).map (·.id)).Nodup := by
    rw [List.map_map]
    exact ids
  have parsed : ∀ batch, ∀ system ∈ systemsOf batch, WellFormedPackages system := by
    intro batch system member
    obtain ⟨row,chosen,rfl⟩ := List.mem_map.mp member
    exact formed _ inventory _ (List.mem_map_of_mem (List.mem_of_mem_filter chosen))
  obtain ⟨whole,answered,data,size⟩ := upcoming_answer service.upcomingFile all (formed _ inventory)
  choose part responded listed count using fun batch =>
    upcoming_answer service.upcomingFile all (parsed batch)
  have each : List.Forall₂ (UpcomingFor service.upcomingFile all) (batches.map systemsOf) (batches.map part) := by
    rw [List.forall₂_map_left_iff,List.forall₂_map_right_iff]
    exact List.forall₂_same.mpr (fun batch _ => ⟨List.Perm.of_eq (listed batch),count batch⟩)
  have apart := (flat.map _).nodup_iff.mpr distinct
  have merged := upcomingFor_batches all records apart (fun on empty => nonempty on (List.map_eq_nil_iff.mp empty)) each
  have stands := merged.of_perm all apart flat
  refine ⟨whole,batches.map part,?_,?_,?_,?_⟩
  · rw [answer,inventory]
    exact Except.bind_ok.mpr ⟨_,rfl,Except.bind_ok.mpr ⟨whole,answered,rfl⟩⟩
  · rw [Respond,List.forall₂_map_right_iff]
    refine List.forall₂_same.mpr (fun batch _ => ?_)
    rw [answer,hostInventoryByIds,Statements.queryHostInventoryByIds,narrow]
    exact Except.bind_ok.mpr ⟨_,rfl,Except.bind_ok.mpr ⟨part batch,responded batch,rfl⟩⟩
  · exact (List.Perm.of_eq data).trans stands.data.symm
  · rw [size,stands.metaData,data,stands.data.length_eq]

end Service

private def phpNotice (type : UpcomingType) (packages : Finset String) : UpcomingInput where
  name := "PHP"
  type := type
  packages := packages
  release := "9.8"
  osMajor := 9
  date := .mk 2026 5 1
  details := ⟨none,1,"PHP changes","",.mk 2025 9 1,.mk 2025 9 2,none⟩

private def phpNotices : List UpcomingInput := [phpNotice .addition {"php8.4"},phpNotice .deprecation {"php"}]

private def fleetService (order : SetOrder SystemInfo) : Service :=
  {emptyService order with
    osLifecycleDates := osLifecycleDates
    upcomingFile := phpNotices}

private def fleetHost (id : Nat) (minor : Int32) (packages : List String) : HostRecord :=
  ⟨⟨id⟩,"1","host",[],some ⟨"1",some ⟨some "RHEL",some 9,some minor⟩,none,none⟩,some ⟨"1",some packages,none⟩⟩

/-- Both batches have a host with the deprecated package, one of them also the added one. -/
private def fleet : List HostRecord :=
  [fleetHost 1 2 ["php-0:8.0-1.el9.x86_64"],
    fleetHost 2 4 ["php-0:8.0-1.el9.x86_64","php8.4-0:8.4-1.el9.x86_64"]]

private theorem fleet_cut (order : SetOrder SystemInfo) :
    (fleetService order).Cut ⟨"1",∅⟩ fleet [[⟨2⟩],[⟨1⟩]] := by
  have seen : (fleetService order).visible ⟨"1",∅⟩ fleet = fleet := rfl
  refine .of_ids _ _ (by decide) ?_
  rw [seen]
  exact List.Perm.swap _ _ _

/-- RHEL 9.7 is suggested beside the installed 9.2 and 9.4. -/
theorem rhel_host_batches_fleet : ∃ order : SetOrder SystemInfo, ∃ whole parts,
    (fleetService order).answer ⟨"1",∅⟩ fleet (.relevantSystems {} true) = .ok (.relevantSystems whole) ∧
    whole.metaData = (RelevantSystemsResponse.mergeAll parts).metaData ∧ parts.length = 2 ∧
    ∃ row ∈ whole.related, row.major = 9 ∧ row.minor = some 7 := by
  obtain ⟨order⟩ : Nonempty (SetOrder SystemInfo) := SetOrder.nonempty
  obtain ⟨whole,parts,answered,responded,-,counted⟩ :=
    (fleetService order).rhel_host_batches ⟨"1",∅⟩ (fleet_cut order)
  refine ⟨order,whole,parts,answered,counted,responded.length_eq.symm,?_⟩
  have read : (fleetService order).hostInventoryWithoutPackages ⟨"1",∅⟩ fleet {} =
      .ok ((fleet.filterMap join).map hostsQueryWithoutPackages) := by
    rw [Service.hostInventoryWithoutPackages,Statements.inventoryRows_eq]
    rfl
  rw [Service.answer,read] at answered
  cases answered
  have filed : ∃ entry ∈ osLifecycleDates.dates.items, (entry.2.major = 9 ∧ entry.2.minor = some 7) ∧
      (∃ host ∈ countedHosts ((fleet.filterMap join).map hostsQueryWithoutPackages),
        isRelated (.mk 2025 11 1) host.1 entry.2 = true) ∧
      ∀ host ∈ countedHosts ((fleet.filterMap join).map hostsQueryWithoutPackages),
        host.1.key ≠ entry.1 := by decide +kernel
  obtain ⟨entry,listed,version,later,unused⟩ := filed
  exact ⟨_,(mem_related (.mk 2025 11 1) osLifecycleDates _ _).mpr ⟨entry,listed,rfl,later,unused⟩,version⟩

/-- The deprecation affects a host of each batch, the addition one host. -/
theorem upcoming_host_batches_fleet : ∃ order : SetOrder SystemInfo, ∃ whole parts,
    (fleetService order).answer ⟨"1",∅⟩ fleet (.upcomingRelevant {} true) = .ok (.upcoming whole) ∧
    whole.data.Perm (WrappedUpcomingOutput.mergeAll true parts).data ∧ parts.length = 2 ∧
    whole.data.map (·.details.potentiallyAffectedSystemsCount) = [1,2] := by
  obtain ⟨order⟩ : Nonempty (SetOrder SystemInfo) := SetOrder.nonempty
  have read : (fleetService order).hostInventory ⟨"1",∅⟩ fleet {} = .ok ((fleet.filterMap join).map hostsQuery) := by
    rw [Service.hostInventory,Statements.inventoryRows_eq]
    rfl
  have formed : ∀ system ∈ (fleet.filterMap join).map hostsQuery, WellFormedPackages system := by
    have parsed : ∀ system ∈ (fleet.filterMap join).map hostsQuery, ∀ package ∈ system.packages.getD [],
        (NEVRA.fromString package).toBool = true := by decide +kernel
    exact fun system member package inside => Except.exists_ok (parsed system member package inside)
  obtain ⟨whole,parts,answered,responded,merged,-⟩ := (fleetService order).upcoming_host_batches ⟨"1",∅⟩
    (fleet_cut order) true (fun _ => List.cons_ne_nil _ _) (show (phpNotices.map UpcomingInput.record).Nodup by decide)
    (fun systems same => by cases read.symm.trans same; exact formed)
  refine ⟨order,whole,parts,answered,merged,responded.length_eq.symm,?_⟩
  obtain ⟨response,counted,rows,-⟩ := upcoming_answer (fleetService order).upcomingFile true formed
  rw [Service.answer,read,Except.ok_bind,Service.upcomingRelevant,counted,Except.ok_bind] at answered
  cases answered
  rw [rows]
  change (upcomingRows phpNotices true ((fleet.filterMap join).map hostsQuery)).map _ = _
  decide +kernel

end Roadmap
