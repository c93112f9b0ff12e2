import Roadmap.AppStreams.Nevra
import Roadmap.Base.Dict
import Roadmap.Base.Except
import Roadmap.Common

/-! Upcoming changes and the hosts they may affect: those of the item's RHEL major version
with one of its packages. -/
namespace Roadmap

inductive UpcomingType where
  | addition
  | change
  | deprecation
  | enhancement
  deriving DecidableEq,Repr

inductive Architecture where
  | arch64
  | x86
  | s390x
  | ppc64le
  | none
  deriving DecidableEq,Repr

structure UpcomingDetails where
  architecture : Option Architecture
  detailFormat : Int
  summary : String
  trainingTicket : String
  dateAdded : Date
  lastModified : Date
  deployedDate : Option Date
  deriving DecidableEq

/-- A record of the upcoming file; `osMajor` is read from the release where the file does
not give it. -/
structure UpcomingInput where
  name : String
  type : UpcomingType
  packages : Finset String
  release : String
  osMajor : Int
  date : Date
  details : UpcomingDetails
  deriving DecidableEq

structure UpcomingOutputDetails extends UpcomingDetails where
  potentiallyAffectedSystemsCount : Nat
  potentiallyAffectedSystemsDetail : Finset SystemInfo
  potentiallyAffectedSystems : Finset UUID
  deriving DecidableEq

structure UpcomingOutput where
  name : String
  type : UpcomingType
  packages : Finset String
  release : String
  date : Date
  details : UpcomingOutputDetails
  deriving DecidableEq

structure WrappedUpcomingOutput where
  metaData : Meta
  data : List UpcomingOutput

abbrev PackagesBySystem := Dict SystemInfo (Finset String)

def packagesOfSystem (packagesBySystem : PackagesBySystem) (system : HostRowWithPackages) :
    Except PyError PackagesBySystem :=
  let packages := system.packages.getD []
  match rhelMajorMinor system.toHostRow with
  | none => .ok packagesBySystem
  | some (osMajor,osMinor) =>
    if packages.isEmpty then .ok packagesBySystem
    else (NEVRA.names packages).map (fun names =>
      packagesBySystem.set ⟨system.id,system.displayName,osMajor,osMinor⟩ names)

def packagesBySystem (systems : List HostRowWithPackages) : Except PyError PackagesBySystem :=
  systems.foldlM packagesOfSystem .empty

def affectedSystems (packagesBySystem : PackagesBySystem) (upcoming : UpcomingInput) : Finset SystemInfo :=
  ((packagesBySystem.items.filter (fun entry =>
    entry.1.osMajor = upcoming.osMajor ∧ (upcoming.packages ∩ entry.2).Nonempty)).map Prod.fst).toFinset

def outputOf (upcoming : UpcomingInput) (systems : Finset SystemInfo) : UpcomingOutput where
  name := upcoming.name
  type := upcoming.type
  packages := upcoming.packages
  release := upcoming.release
  date := upcoming.date
  details := ⟨upcoming.details,systems.card,systems,getSystemUuids systems⟩

/-- Unless all items are wanted, those whose major version no host has are left out. -/
def getUpcomingDataWithHosts (packagesBySystem : PackagesBySystem) (file : List UpcomingInput)
    (all : Bool) : List UpcomingOutput :=
  let osMajorVersions := packagesBySystem.keys.map (·.osMajor)
  file.filterMap (fun upcoming =>
    let systems := affectedSystems packagesBySystem upcoming
    if !all && upcoming.osMajor ∉ osMajorVersions then none
    else some (outputOf upcoming systems))

def getUpcomingRelevant (data : List UpcomingOutput) (all : Bool) : WrappedUpcomingOutput :=
  let data := if all then data
    else data.filter (fun row => row.details.potentiallyAffectedSystemsDetail.Nonempty)
  ⟨⟨data.length,data.length⟩,data⟩

def getRelevantUpcomingForHosts (file : List UpcomingInput) (all : Bool)
    (systems : List HostRowWithPackages) : Except PyError WrappedUpcomingOutput :=
  (packagesBySystem systems).map (fun packages =>
    getUpcomingRelevant (getUpcomingDataWithHosts packages file all) all)

/-! What the mapping holds: for each host the package names of its last row. -/

def hostPackages (system : HostRowWithPackages) : Option (SystemInfo × Finset String) :=
  (rhelMajorMinor system.toHostRow).bind (fun version =>
    if (system.packages.getD []).isEmpty then none
    else some (⟨system.id,system.displayName,version.1,version.2⟩,
      ((system.packages.getD []).map NEVRA.nameOf).toFinset))

private theorem packagesOfSystem_ok (packages : PackagesBySystem) (system : HostRowWithPackages)
    (formed : WellFormedPackages system) : packagesOfSystem packages system =
      .ok ((hostPackages system).toList.foldl (fun dict entry => dict.set entry.1 entry.2) packages) := by
  have names := NEVRA.names_ok formed
  unfold packagesOfSystem hostPackages
  cases rhelMajorMinor system.toHostRow with
  | none => rfl
  | some version =>
    by_cases empty : (system.packages.getD []).isEmpty
    · simp [empty]
    · simp [empty,names,Except.map]

/-- The mapping of well-formed rows: later rows of a host replace earlier ones. -/
theorem packagesBySystem_ok (systems : List HostRowWithPackages)
    (formed : ∀ system ∈ systems, WellFormedPackages system) :
    packagesBySystem systems =
      .ok (.group (fun _ names => names) (systems.filterMap hostPackages) .empty) := by
  exact Except.foldlM_events systems
    (fun system member packages => packagesOfSystem_ok packages system (formed system member)) .empty

end Roadmap
