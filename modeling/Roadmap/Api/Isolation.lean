import Roadmap.Api.Requests

/-! What a caller is answered is what an unrestricted reader is answered over the hosts that
the caller may see: the other hosts of the table leave no trace. -/
namespace Roadmap
open Sql

/-- The condition of a statement may be checked on the hosts before their profiles are joined. -/
theorem rows_seen (hosts : List HostRecord) (seen : HostRecord → Bool) (kept free : Joined → Prop)
    [DecidablePred kept] [DecidablePred free] (split : ∀ row, kept row ↔ seen row.h = true ∧ free row) :
    (hosts.filterMap join).filter (fun row => decide (kept row)) =
      ((hosts.filter seen).filterMap join).filter (fun row => decide (free row)) := by
  induction hosts with
  | nil => rfl
  | cons host rest ih =>
    rw [List.filterMap_cons,List.filter_cons]
    cases joined : join host with
    | none =>
      rw [ih]
      split
      · rw [List.filterMap_cons,joined]
      · rfl
    | some row =>
      have same : kept row ↔ seen host = true ∧ free row := join_host joined ▸ split row
      by_cases shown : seen host = true
      · rw [if_pos shown,List.filterMap_cons,joined,List.filter_cons,List.filter_cons,ih]
        simp only [same,shown,true_and]
      · rw [if_neg shown,List.filter_cons_of_neg (by simp [same,shown]),ih]

/-- The caller with the whole org to read. -/
def Caller.unrestricted (caller : Caller) : Caller := ⟨caller.orgId,∅⟩

namespace Service

variable (service : Service) (caller : Caller) (hosts : List HostRecord)

def Sees (host : HostRecord) : Prop :=
  Statements.VisibleTo (queriedOrg service.dev caller.orgId) caller.hostGroups host

instance : DecidablePred (service.Sees caller) := fun _ =>
  inferInstanceAs (Decidable (Statements.VisibleTo _ _ _))

def visible : List HostRecord := hosts.filter (fun host => decide (service.Sees caller host))

theorem inventoryRows_visible (includePackages : Bool) (major minor : Option Int)
    (hostIds : Option (List UUID)) :
    Statements.inventoryRows service.collation service.dev caller.orgId caller.hostGroups hosts includePackages
        major minor hostIds =
      Statements.inventoryRows service.collation service.dev caller.orgId ∅ (service.visible caller hosts)
        includePackages major minor hostIds := by
  rw [Statements.inventoryRows_eq,Statements.inventoryRows_eq]
  congr 1
  apply rows_seen
  intro row
  rw [decide_eq_true_eq]
  constructor
  · exact fun ⟨org,one,two,groups,ids⟩ => ⟨⟨org,groups⟩,org,one,two,Or.inl rfl,ids⟩
  · exact fun ⟨⟨org,groups⟩,_,one,two,_,ids⟩ => ⟨org,one,two,groups,ids⟩

theorem hostInventory_visible (version : Version) : service.hostInventory caller hosts version =
    service.hostInventory caller.unrestricted (service.visible caller hosts) version := by
  rw [hostInventory,inventoryRows_visible,hostInventory]
  rfl

theorem hostInventoryWithoutPackages_visible (version : Version) :
    service.hostInventoryWithoutPackages caller hosts version =
      service.hostInventoryWithoutPackages caller.unrestricted (service.visible caller hosts) version := by
  rw [hostInventoryWithoutPackages,inventoryRows_visible,hostInventoryWithoutPackages]
  rfl

theorem hostInventoryByIds_visible (hostIds : List UUID) : service.hostInventoryByIds caller hosts hostIds =
    service.hostInventoryByIds caller.unrestricted (service.visible caller hosts) hostIds := by
  have rows := service.inventoryRows_visible caller hosts true none none (some hostIds.eraseDups)
  exact congrArg (fun rows => stream (rows.map (fun rows => rows.map hostsQuery))) rows

theorem hostInventoryByIdsWithoutPackages_visible (hostIds : List UUID) :
    service.hostInventoryByIdsWithoutPackages caller hosts hostIds =
      service.hostInventoryByIdsWithoutPackages caller.unrestricted (service.visible caller hosts) hostIds := by
  have rows := service.inventoryRows_visible caller hosts false none none (some hostIds.eraseDups)
  exact congrArg (fun rows => stream (rows.map (fun rows => rows.map hostsQueryWithoutPackages))) rows

theorem accessibleHostUuids_eq : service.accessibleHostUuids caller hosts =
    let uuids := ((service.visible caller hosts).mergeSort Statements.hostUuidsOrder).map (·.id)
    .ok ⟨⟨uuids.length,uuids.length⟩,uuids⟩ := by
  rw [accessibleHostUuids,Statements.accessible_uuids]
  rfl

theorem accessibleHostUuids_visible : service.accessibleHostUuids caller hosts =
    service.accessibleHostUuids caller.unrestricted (service.visible caller hosts) := by
  have again : (service.visible caller hosts).filter (fun host =>
      decide (Statements.VisibleTo (queriedOrg service.dev caller.orgId) ∅ host)) =
        service.visible caller hosts := by
    refine List.filter_eq_self.mpr (fun host member => decide_eq_true ?_)
    have seen := of_decide_eq_true (List.mem_filter.mp member).2
    exact ⟨seen.1,Or.inl rfl⟩
  rw [accessibleHostUuids,Statements.accessible_uuids,accessibleHostUuids,Statements.accessible_uuids,
    Caller.unrestricted,again]
  rfl

theorem rhelSystems_visible (major minor : Int) (lifecycleType : LifecycleType) (offset limit : Nat)
    (search : Option String) :
    queryRhelSystems service.collation service.dev caller.orgId caller.hostGroups major minor lifecycleType
        offset limit search hosts =
      queryRhelSystems service.collation service.dev caller.orgId ∅ major minor lifecycleType
        offset limit search (service.visible caller hosts) := by
  have restricted := (Statements.rhelSystemsRows_runQuery service.collation service.dev caller.orgId
    caller.hostGroups hosts major minor lifecycleType search).symm.trans
      (Statements.rhelSystemsRows_eq service.collation service.dev caller.orgId caller.hostGroups hosts major
        minor lifecycleType search)
  have free := (Statements.rhelSystemsRows_runQuery service.collation service.dev caller.orgId ∅
    (service.visible caller hosts) major minor lifecycleType search).symm.trans
      (Statements.rhelSystemsRows_eq service.collation service.dev caller.orgId ∅
        (service.visible caller hosts) major minor lifecycleType search)
  have rows := Option.some.inj (restricted.trans ((congrArg some (rows_seen hosts
    (fun host => decide (service.Sees caller host)) _ _ (fun row => ?_))).trans free.symm))
  · unfold queryRhelSystems
    simp only [rows]
  · rw [decide_eq_true_eq]
    constructor
    · exact fun ⟨org,matched,groups,named⟩ => ⟨⟨org,groups⟩,org,matched,Or.inl rfl,named⟩
    · exact fun ⟨⟨org,groups⟩,_,matched,_,named⟩ => ⟨org,matched,groups,named⟩

theorem answer_visible (request : InventoryRequest) : service.answer caller hosts request =
    service.answer caller.unrestricted (service.visible caller hosts) request := by
  cases request with
  | rhelSystemsV2 major minor lifecycleType paging =>
    rw [answer,rhelSystems_visible,answer]
    rfl
  | _ => simp only [answer,hostInventory_visible service caller,hostInventoryWithoutPackages_visible service caller,
      hostInventoryByIds_visible service caller,hostInventoryByIdsWithoutPackages_visible service caller,
      accessibleHostUuids_visible service caller]

end Service

/-- A service without data of its own. -/
def emptyService (order : SetOrder SystemInfo) : Service where
  settings := {}
  today := .mk 2025 11 1
  casing := .ascii
  collation := ⟨fun first second => decide (first ≤ second),Char.toLower⟩
  osLifecycleDates := ⟨.empty,by simp [Dict.empty]⟩
  catalogue := ⟨[],.empty,.empty⟩
  upcomingFile := []
  order := order

end Roadmap
