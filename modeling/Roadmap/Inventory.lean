import Roadmap.Base.Sql
import Roadmap.Models

/-! The Hosts database and the statements that read it. A statement is a choice among
literal fragments; every fragment is a condition on a joined row and on the bound
parameters, so nothing a caller sends becomes part of a condition. -/
namespace Roadmap
open Sql

/-- An element of the groups column: `->>` on an absent or null field is NULL. -/
structure HostGroup where
  id : Option String
  ungrouped : Option Bool
  deriving DecidableEq

/-- The operating_system column. Its version numbers are JSON integers in the range of
the cast `::int` that reads them. -/
structure OperatingSystem where
  name : Option String
  major : Option Int32
  minor : Option Int32
  deriving DecidableEq

structure DnfModule where
  name : String
  stream : String
  status : Option (List String)
  deriving DecidableEq

structure Product where
  id : Option String
  deriving DecidableEq

structure StaticProfile where
  orgId : String
  operatingSystem : Option OperatingSystem
  osRelease : Option String
  dnfModules : Option (List DnfModule)
  deriving DecidableEq

structure DynamicProfile where
  orgId : String
  installedPackages : Option (List String)
  installedProducts : Option (List Product)
  deriving DecidableEq

/-- A host with its profiles; `host_id` is the primary key of both profile tables. -/
structure HostRecord where
  id : UUID
  orgId : String
  displayName : String
  groups : List HostGroup
  static : Option StaticProfile
  dynamic : Option DynamicProfile
  deriving DecidableEq

/-- A row of the FROM clause: `h`, `sps` and, by the outer join, maybe `spd`. -/
structure Joined where
  h : HostRecord
  sps : StaticProfile
  spd : Option DynamicProfile

def join (host : HostRecord) : Option Joined :=
  host.static.bind (fun sps =>
    if sps.orgId = host.orgId then some ⟨host,sps,host.dynamic.filter (·.orgId = host.orgId)⟩ else none)

theorem join_host {host : HostRecord} {row : Joined} (joined : join host = some row) : row.h = host := by
  obtain ⟨sps,_,kept⟩ := Option.bind_eq_some_iff.mp joined
  split at kept
  · cases Option.some.inj kept; rfl
  · contradiction

namespace Joined

def osName (row : Joined) : Option String := row.sps.operatingSystem.bind (·.name)

def osMajor (row : Joined) : Option Int :=
  (row.sps.operatingSystem.bind (·.major)).map Int32.toInt

def osMinor (row : Joined) : Option Int :=
  (row.sps.operatingSystem.bind (·.minor)).map Int32.toInt

def products (row : Joined) : Option (List Product) := row.spd.bind (·.installedProducts)

end Joined

structure HostRow where
  id : UUID
  displayName : String
  osName : Option String
  osMajor : Option Int
  osMinor : Option Int
  osRelease : Option String
  products : Option (List Product)
  deriving DecidableEq

structure HostRowWithPackages extends HostRow where
  dnfModules : Option (List DnfModule)
  packages : Option (List String)
  deriving DecidableEq

def hostsQueryWithoutPackages (row : Joined) : HostRow where
  id := row.h.id
  displayName := row.h.displayName
  osName := row.osName
  osMajor := row.osMajor
  osMinor := row.osMinor
  osRelease := row.sps.osRelease
  products := row.products

def hostsQuery (row : Joined) : HostRowWithPackages where
  toHostRow := hostsQueryWithoutPackages row
  dnfModules := row.sps.dnfModules
  packages := row.spd.bind (·.installedPackages)

/-- The parameters bound to a statement; `:host_groups` and `:host_ids` are arrays. -/
structure Params where
  orgId : String
  major : String
  minor : String
  hostGroups : Finset (Option String)
  hostIds : Finset UUID := ∅
  searchPattern : String := ""

abbrev Fragment := Params → Joined → Truth

def majorFilter : Fragment := fun params row =>
  equals (row.osMajor.map toString) (some params.major)

def minorFilter : Fragment := fun params row =>
  equals (row.osMinor.map toString) (some params.minor)

def ungroupedFilter : Fragment := fun _ row =>
  existsIn row.h.groups (fun group => equals group.ungrouped (some true))

def groupedFilter : Fragment := fun params row =>
  existsIn row.h.groups (fun group => equalsAny group.id params.hostGroups)

def ungroupedOrGroupedFilter : Fragment := fun params row =>
  disj (ungroupedFilter params row) (groupedFilter params row)

def noFilter : Fragment := fun _ _ => some true

def hostIdsFilter : Fragment := fun params row =>
  equalsAny (some row.h.id) (params.hostIds.image some)

def hostGroupsFilter (hostGroups : Finset (Option String)) : Fragment :=
  if hostGroups = ∅ then noFilter
  else if none ∉ hostGroups then groupedFilter
  else if 1 < hostGroups.card then ungroupedOrGroupedFilter
  else ungroupedFilter

def buildHostInventoryQuery (major minor : Option Int) (hostGroups : Finset (Option String))
    (hostIds : Option (Finset UUID)) : List Fragment :=
  (if major.isSome then [majorFilter] else []) ++ (if minor.isSome then [minorFilter] else []) ++
  [hostGroupsFilter hostGroups] ++ (if hostIds.isSome then [hostIdsFilter] else [])

def whereClause (fragments : List Fragment) (params : Params) (row : Joined) : Truth :=
  fragments.foldl (fun condition fragment => conj condition (fragment params row))
    (equals (some row.h.orgId) (some params.orgId))

def pyStr : Option Int → String
  | none => "None"
  | some value => toString value

/-- In dev mode every query reads the local fixture org. -/
def queriedOrg (dev : Bool) (orgId : String) : String := if dev then "1234" else orgId

def runQuery (fragments : List Fragment) (params : Params) (hosts : List HostRecord) : List Joined :=
  select (hosts.filterMap join) (whereClause fragments params)

def inventoryParams (dev : Bool) (orgId : String) (hostGroups : Finset (Option String))
    (major minor : Option Int) : Params where
  orgId := queriedOrg dev orgId
  major := pyStr major
  minor := pyStr minor
  hostGroups := hostGroups

def readInventory (dev : Bool) (orgId : String) (hostGroups : Finset (Option String))
    (major minor : Option Int) (hosts : List HostRecord) : List Joined :=
  runQuery (buildHostInventoryQuery major minor hostGroups none)
    (inventoryParams dev orgId hostGroups major minor) hosts

def queryHostInventory (dev : Bool) (orgId : String) (hostGroups : Finset (Option String))
    (major minor : Option Int) (hosts : List HostRecord) : List HostRowWithPackages :=
  (readInventory dev orgId hostGroups major minor hosts).map hostsQuery

def queryHostInventoryWithoutPackages (dev : Bool) (orgId : String)
    (hostGroups : Finset (Option String)) (major minor : Option Int) (hosts : List HostRecord) :
    List HostRow :=
  (readInventory dev orgId hostGroups major minor hosts).map hostsQueryWithoutPackages

/-! What each fragment keeps. -/

theorem holds_numeral (column : Option Int) (wanted : Int) :
    Holds (equals (column.map toString) (some (toString wanted))) ↔ column = some wanted := by
  cases column <;> simp [eq_comm]

theorem holds_whereClause (fragments : List Fragment) (params : Params) (row : Joined) :
    Holds (whereClause fragments params row) ↔
      row.h.orgId = params.orgId ∧ ∀ fragment ∈ fragments, Holds (fragment params row) := by
  have general : ∀ start : Truth,
      Holds (fragments.foldl (fun condition fragment => conj condition (fragment params row)) start) ↔
        Holds start ∧ ∀ fragment ∈ fragments, Holds (fragment params row) := by
    induction fragments with
    | nil => simp
    | cons fragment rest ih =>
      intro start
      rw [List.foldl_cons,ih,holds_conj]
      simp [and_assoc]
  rw [whereClause,general]
  simp [eq_comm]

@[simp] theorem holds_ungroupedFilter (params : Params) (row : Joined) :
    Holds (ungroupedFilter params row) ↔ ∃ group ∈ row.h.groups, group.ungrouped = some true := by
  simp [ungroupedFilter]

@[simp] theorem holds_groupedFilter (params : Params) (row : Joined) :
    Holds (groupedFilter params row) ↔
      ∃ group ∈ row.h.groups, ∃ id, group.id = some id ∧ some id ∈ params.hostGroups := by
  simp [groupedFilter]

/-- A caller restricted to some groups sees a host through an id of one of its groups,
or through the ungrouped group where None is among the permitted groups. -/
def Visible (hostGroups : Finset (Option String)) (host : HostRecord) : Prop :=
  (∃ group ∈ host.groups, ∃ id, group.id = some id ∧ some id ∈ hostGroups) ∨
    none ∈ hostGroups ∧ ∃ group ∈ host.groups, group.ungrouped = some true

theorem only_ungrouped {hostGroups : Finset (Option String)} (special : none ∈ hostGroups)
    (few : ¬ 1 < hostGroups.card) : hostGroups = {none} := by
  have alike := Finset.card_le_one.mp (Nat.le_of_not_lt few)
  exact Finset.eq_singleton_iff_unique_mem.mpr ⟨special,fun other member => alike other member none special⟩

/-- The four-way choice of the group filter, as one condition. -/
theorem holds_hostGroupsFilter (hostGroups : Finset (Option String)) (params : Params) (row : Joined)
    (bound : params.hostGroups = hostGroups) :
    Holds (hostGroupsFilter hostGroups params row) ↔ hostGroups = ∅ ∨ Visible hostGroups row.h := by
  unfold hostGroupsFilter Visible
  by_cases empty : hostGroups = ∅
  · simp [empty,noFilter]
  by_cases special : none ∈ hostGroups
  · by_cases several : 1 < hostGroups.card
    · simp [empty,special,several,ungroupedOrGroupedFilter,bound,or_comm]
    · simp [only_ungrouped special several]
  · simp [empty,special,bound]

def permitted (dev : Bool) (orgId : String) (hostGroups : Finset (Option String))
    (hosts : List HostRecord) : List Joined := readInventory dev orgId hostGroups none none hosts

def Permitted (dev : Bool) (orgId : String) (hostGroups : Finset (Option String)) (row : Joined) : Prop :=
  row.h.orgId = queriedOrg dev orgId ∧ (hostGroups = ∅ ∨ Visible hostGroups row.h)

theorem where_permitted (dev : Bool) (orgId : String) (hostGroups : Finset (Option String))
    (fragments : List Fragment) (params : Params) (row : Joined)
    (org : params.orgId = queriedOrg dev orgId) (groups : params.hostGroups = hostGroups)
    (filtered : hostGroupsFilter hostGroups ∈ fragments) :
    Holds (whereClause fragments params row) ↔
      Permitted dev orgId hostGroups row ∧ ∀ fragment ∈ fragments, Holds (fragment params row) := by
  have visible := holds_hostGroupsFilter hostGroups params row groups
  rw [holds_whereClause,org,Permitted,← visible]
  constructor
  · exact fun ⟨same,all⟩ => ⟨⟨same,all _ filtered⟩,all⟩
  · exact fun ⟨⟨same,_⟩,all⟩ => ⟨same,all⟩

theorem mem_permitted (dev : Bool) (orgId : String) (hostGroups : Finset (Option String))
    (hosts : List HostRecord) (row : Joined) : row ∈ permitted dev orgId hostGroups hosts ↔
      row ∈ hosts.filterMap join ∧ Permitted dev orgId hostGroups row := by
  have unfiltered : buildHostInventoryQuery none none hostGroups none = [hostGroupsFilter hostGroups] := by
    simp [buildHostInventoryQuery]
  rw [permitted,readInventory,runQuery,mem_select,unfiltered,
    where_permitted dev orgId hostGroups _ _ row rfl rfl (by simp)]
  refine and_congr_right (fun _ => and_iff_left_of_imp (fun allowed => ?_))
  have visible := holds_hostGroupsFilter hostGroups (inventoryParams dev orgId hostGroups none none) row rfl
  simpa using visible.mpr allowed.2

theorem runQuery_permitted (dev : Bool) (orgId : String) (hostGroups : Finset (Option String))
    (hosts : List HostRecord) (fragments : List Fragment) (params : Params) (kept : Joined → Bool)
    (org : params.orgId = queriedOrg dev orgId) (groups : params.hostGroups = hostGroups)
    (filtered : hostGroupsFilter hostGroups ∈ fragments)
    (same : ∀ row, (∀ fragment ∈ fragments, Holds (fragment params row)) ↔
      (hostGroups = ∅ ∨ Visible hostGroups row.h) ∧ kept row = true) :
    runQuery fragments params hosts = (permitted dev orgId hostGroups hosts).filter kept := by
  refine select_filter (fun row member => ?_)
  have wide : Holds (whereClause (buildHostInventoryQuery none none hostGroups none)
      (inventoryParams dev orgId hostGroups none none) row) ↔ Permitted dev orgId hostGroups row := by
    have found := mem_permitted dev orgId hostGroups hosts row
    rw [permitted,readInventory,runQuery,mem_select] at found
    simpa [member] using found
  rw [where_permitted dev orgId hostGroups fragments params row org groups filtered,wide,same row]
  exact ⟨fun ⟨allowed,_,chosen⟩ => ⟨allowed,chosen⟩,fun ⟨allowed,chosen⟩ => ⟨allowed,allowed.2,chosen⟩⟩

end Roadmap
