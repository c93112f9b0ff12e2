import Roadmap.AppStreams.Systems
import Roadmap.AppStreams.Relevant
import Roadmap.Statements
import Roadmap.Upcoming.Systems

/-! The endpoints that read the inventory, and what they answer to a caller whose org and
host groups are known. -/
namespace Roadmap
open Sql

/-- The `major` and `minor` query parameters of an endpoint that streams the inventory. -/
structure Version where
  major : Option Int := none
  minor : Option Int := none
  deriving DecidableEq

structure Paging where
  offset : Nat := 0
  limit : Nat := 10
  search : Option String := none
  deriving DecidableEq

inductive InventoryRequest where
  | relevantSystems (version : Version) (related : Bool)
  | relevantSystemsV2 (version : Version) (related : Bool)
  | rhelSystemsV2 (major minor : Int) (lifecycleType : LifecycleType) (paging : Paging)
  | relevantRhelForHosts (hostIds : List UUID) (related : Bool)
  | relevantAppStreams (version : Version) (related : Bool)
  | relevantAppStreamsV2 (version : Version) (related : Bool)
  | appStreamsSystemsV2 (version : Version) (name : String) (osMajor : Int) (osMinor : Option Int)
      (paging : Paging)
  | relevantAppStreamsForHosts (hostIds : List UUID) (related : Bool)
  | upcomingRelevant (version : Version) (all : Bool)
  | upcomingRelevantV2 (version : Version) (all : Bool)
  | upcomingSystemsV2 (version : Version) (name release : String) (paging : Paging)
  | relevantUpcomingForHosts (hostIds : List UUID) (all : Bool)
  | accessibleHostUuids
  deriving DecidableEq

structure AccessibleHostUuidsResponse where
  metaData : Meta
  data : List UUID
  deriving DecidableEq

inductive InventoryResponse where
  | relevantSystems (response : RelevantSystemsResponse)
  | relevantAppStreams (response : RelevantAppStreamsResponse)
  | upcoming (response : WrappedUpcomingOutput)
  | systems (response : PaginatedSystemsResponse)
  | hostUuids (response : AccessibleHostUuidsResponse)

def RelevantAppStream.withoutSystems (item : RelevantAppStream) : RelevantAppStream :=
  {item with systems := ∅,systemsDetail := ∅}

structure Settings where
  dev : Bool := false
  rbacHostname : String := ""
  rbacPort : Int := 8000
  kesselEnabled : Bool := false
  kesselPrincipalDomain : String := "redhat"
  deriving DecidableEq

def Settings.rbacUrl (settings : Settings) : String :=
  if settings.rbacHostname = "" then ""
  else "http://" ++ settings.rbacHostname ++ ":" ++ toString settings.rbacPort

/-- What a process answers from beside the inventory. -/
structure Service where
  settings : Settings
  today : Date
  casing : Casing
  collation : Collation
  osLifecycleDates : LifecycleTable
  catalogue : Catalogue
  upcomingFile : List UpcomingInput
  order : SetOrder SystemInfo

structure Caller where
  orgId : String
  hostGroups : Finset (Option String)
  deriving DecidableEq

namespace Service

def dev (service : Service) : Bool := service.settings.dev

section Endpoints

variable (service : Service) (caller : Caller) (hosts : List HostRecord)

/-- The rows of a statement; PostgreSQL refuses a text that is no condition. -/
def stream {α : Type} : Option (List α) → Except PyError (List α)
  | some rows => .ok rows
  | none => .error queryFailed

def hostInventory (version : Version) : Except PyError (List HostRowWithPackages) :=
  (stream (Statements.inventoryRows service.collation service.dev caller.orgId caller.hostGroups hosts true
    version.major version.minor none)).map (fun rows => rows.map hostsQuery)

def hostInventoryWithoutPackages (version : Version) : Except PyError (List HostRow) :=
  (stream (Statements.inventoryRows service.collation service.dev caller.orgId caller.hostGroups hosts false
    version.major version.minor none)).map (fun rows => rows.map hostsQueryWithoutPackages)

def hostInventoryByIds (hostIds : List UUID) : Except PyError (List HostRowWithPackages) :=
  stream (Statements.queryHostInventoryByIds service.collation service.dev caller.orgId caller.hostGroups
    hosts hostIds)

def hostInventoryByIdsWithoutPackages (hostIds : List UUID) : Except PyError (List HostRow) :=
  stream (Statements.queryHostInventoryByIdsWithoutPackages service.collation service.dev caller.orgId
    caller.hostGroups hosts hostIds)

def accessibleHostUuids : Except PyError AccessibleHostUuidsResponse :=
  (stream (Statements.queryAccessibleHostUuids service.dev caller.orgId caller.hostGroups hosts)).map
    (fun uuids => ⟨⟨uuids.length,uuids.length⟩,uuids⟩)

def relevantSystems (related : Bool) (systems : List HostRow) : RelevantSystemsResponse :=
  Roadmap.relevantSystems service.today service.osLifecycleDates related systems

def relevantAppStreams (related : Bool) (systems : List HostRowWithPackages) :
    Except PyError RelevantAppStreamsResponse :=
  getRelevantAppStreamsForHosts service.casing service.today service.catalogue related systems

def upcomingRelevant (all : Bool) (systems : List HostRowWithPackages) : Except PyError WrappedUpcomingOutput :=
  getRelevantUpcomingForHosts service.upcomingFile all systems

def answer : InventoryRequest → Except PyError InventoryResponse
  | .relevantSystems version related => do
    let systems ← service.hostInventoryWithoutPackages caller hosts version
    return .relevantSystems (service.relevantSystems related systems)
  | .relevantSystemsV2 version related => do
    -- The thin wrapper depends on the full statement, whose packages it does not read.
    let systems ← service.hostInventory caller hosts version
    let response := service.relevantSystems related (systems.map (·.toHostRow))
    return .relevantSystems ⟨response.metaData,response.data.map System.withoutSystems⟩
  | .rhelSystemsV2 major minor lifecycleType paging => do
    let response ← queryRhelSystems service.collation service.dev caller.orgId caller.hostGroups major minor
      lifecycleType paging.offset paging.limit paging.search hosts
    return .systems response
  | .relevantRhelForHosts hostIds related => do
    let systems ← service.hostInventoryByIdsWithoutPackages caller hosts hostIds
    return .relevantSystems (service.relevantSystems related systems)
  | .relevantAppStreams version related => do
    let systems ← service.hostInventory caller hosts version
    return .relevantAppStreams (← service.relevantAppStreams related systems)
  | .relevantAppStreamsV2 version related => do
    let systems ← service.hostInventory caller hosts version
    let response ← service.relevantAppStreams related systems
    return .relevantAppStreams ⟨response.metaData,response.data.map RelevantAppStream.withoutSystems⟩
  | .appStreamsSystemsV2 version name osMajor osMinor paging => do
    let systems ← service.hostInventory caller hosts version
    let systemsByStream ← systemsByAppStream service.casing service.catalogue systems
    return .systems (getAppStreamsSystemsV2 service.casing name osMajor osMinor service.order systemsByStream
      paging.offset paging.limit paging.search)
  | .relevantAppStreamsForHosts hostIds related => do
    let systems ← service.hostInventoryByIds caller hosts hostIds
    return .relevantAppStreams (← service.relevantAppStreams related systems)
  | .upcomingRelevant version all => do
    let systems ← service.hostInventory caller hosts version
    return .upcoming (← service.upcomingRelevant all systems)
  | .upcomingRelevantV2 version all => do
    let systems ← service.hostInventory caller hosts version
    let packages ← packagesBySystem systems
    return .upcoming (getUpcomingRelevantV2 (getUpcomingDataWithHosts packages service.upcomingFile all) all)
  | .upcomingSystemsV2 version name release paging => do
    let systems ← service.hostInventory caller hosts version
    let packages ← packagesBySystem systems
    return .systems (getUpcomingSystemsV2 service.casing service.order packages service.upcomingFile name
      release paging.offset paging.limit paging.search)
  | .relevantUpcomingForHosts hostIds all => do
    let systems ← service.hostInventoryByIds caller hosts hostIds
    return .upcoming (← service.upcomingRelevant all systems)
  | .accessibleHostUuids => do
    return .hostUuids (← service.accessibleHostUuids caller hosts)

end Endpoints

end Service

end Roadmap
