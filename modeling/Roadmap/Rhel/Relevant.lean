import Roadmap.Common

/-! The RHEL versions of the inventory with their lifecycle dates: hosts are counted by
os name, version and lifecycle type, and collected by version and lifecycle type. -/
namespace Roadmap

structure RelevantSystemsResponse where
  metaData : Meta
  data : List System

/-- What a row adds to the counts; rows without os name or version add nothing. -/
def counted (system : HostRow) : Option (HostCount × SystemInfo) :=
  match system.osName,rhelMajorMinor system with
  | some osName,some (osMajor,osMinor) =>
    some (⟨osName,osMajor,osMinor,getLifecycleType (productsOr system.products)⟩,
      ⟨system.id,system.displayName,osMajor,osMinor⟩)
  | _,_ => none

namespace HostCount

def key (countKey : HostCount) : String := versionKey countKey.major countKey.minor

def systemIdKey (countKey : HostCount) : String × LifecycleType := (countKey.key,countKey.lifecycle)

end HostCount

structure Tally where
  systemCounts : Dict HostCount Nat
  systemsByVersionLifecycle : Dict (String × LifecycleType) (Finset SystemInfo)

def countSystem (tally : Tally) (system : HostRow) : Tally :=
  match counted system with
  | none => tally
  | some (countKey,systemInfo) =>
    ⟨tally.systemCounts.update (fun count => Dict.increment count ()) countKey,
      tally.systemsByVersionLifecycle.update (fun systems => Dict.addTo systems systemInfo)
        countKey.systemIdKey⟩

def countSystems (systems : List HostRow) : Tally := systems.foldl countSystem ⟨.empty,.empty⟩

def RHELLifecycle.endDateOf (lifecycleInfo : RHELLifecycle) : LifecycleType → LifecycleDate
  | .mainline => .on lifecycleInfo.endDate
  | .els => .ofOption lifecycleInfo.endDateEls
  | .e4s => .ofOption lifecycleInfo.endDateE4s
  | .eus => .ofOption lifecycleInfo.endDateEus

def lifecycleDates (table : LifecycleTable) (countKey : HostCount) : LifecycleDate × LifecycleDate :=
  match table.dates.get? countKey.key with
  | none => (.unknown,.unknown)
  | some lifecycleInfo => (.on lifecycleInfo.startDate,lifecycleInfo.endDateOf countKey.lifecycle)

def installedSystem (today : Date) (table : LifecycleTable) (tally : Tally) (entry : HostCount × Nat) :
    System :=
  let dates := lifecycleDates table entry.1
  .create today entry.1.name entry.1.major entry.1.minor dates.1 dates.2 entry.2 entry.1.lifecycle false
    ((tally.systemsByVersionLifecycle.get? entry.1.systemIdKey).getD ∅)

def isRelated (today : Date) (countKey : HostCount) (rhel : RHELLifecycle) : Bool :=
  let minor := countKey.minor.getD (-1)
  let rhelMinor := rhel.minor.getD (-1)
  decide (rhel.major = countKey.major ∧ minor < rhelMinor ∧ today < rhel.endDate)

/-- The releases related to some installed version, without the installed versions. The
code iterates a set of them; the sort of the response leaves no trace of the order. -/
def relateds (today : Date) (table : LifecycleTable) (countKeys : List HostCount) :
    List (String × RHELLifecycle) :=
  let systemKeys := countKeys.map HostCount.key
  table.dates.items.filter (fun entry =>
    countKeys.any (fun countKey => isRelated today countKey entry.2) && !decide (entry.1 ∈ systemKeys))

def relatedSystem (today : Date) (os : RHELLifecycle) : System :=
  .create today os.name os.major os.minor (.on os.startDate) (.on os.endDate) 0 .mainline true ∅

def System.sortAttrs (row : System) : String ×ₗ Int ×ₗ Int :=
  toLex (row.lifecycleType.text,toLex (row.major,row.minor.getD (-2)))

def recount (results : List System) : Meta := ⟨results.length,(results.map (·.count)).sum⟩

def relevantSystems (today : Date) (table : LifecycleTable) (related : Bool) (systems : List HostRow) :
    RelevantSystemsResponse :=
  let tally := countSystems systems
  let installed := tally.systemCounts.items.map (installedSystem today table tally)
  let results := if related then
      installed ++ (relateds today table tally.systemCounts.keys).map (fun os => relatedSystem today os.2)
    else installed
  ⟨recount results,results.mergeSort (fun first second => decide (second.sortAttrs ≤ first.sortAttrs))⟩

end Roadmap
