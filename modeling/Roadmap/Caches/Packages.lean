import Roadmap.AppStreams.Scan
import Roadmap.Base.Memo
import Roadmap.Notificator

/-! `NEVRA.from_string` and `app_stream_from_package` keep their last results for the life of
the process. Here the functions that read hosts call them through these caches. -/
namespace Roadmap
open Effects Memo

structure PackageCaches where
  nevras : Lru String NEVRA 100000
  appStreams : Lru (String × Int) (Option AppStreamKey) 100000

def PackageCaches.setNevras (cache : Lru String NEVRA 100000) (caches : PackageCaches) : PackageCaches :=
  {caches with nevras := cache}

def PackageCaches.setAppStreams (cache : Lru (String × Int) (Option AppStreamKey) 100000)
    (caches : PackageCaches) : PackageCaches :=
  {caches with appStreams := cache}

abbrev Cached := EStateM PyError PackageCaches

namespace Cached

def fromString (package : String) : Cached NEVRA :=
  memoized PackageCaches.nevras PackageCaches.setNevras (fun package => raised (NEVRA.fromString package)) package

def names (packages : List String) : Cached (Finset String) := do
  let nevras ← packages.mapM fromString
  return (nevras.map (·.name)).toFinset

/-- `clear_caches()`, with the sizes that it logs. -/
def clearCaches : Cached (Nat × Nat) := do
  let caches ← get
  set (⟨.empty,.empty⟩ : PackageCaches)
  return (caches.nevras.entries.length,caches.appStreams.entries.length)

section Functions

variable (casing : Casing) (catalogue : Catalogue)

def streamOf (osMajor : Int) (nevra : NEVRA) : Option AppStreamKey :=
  match (catalogue.appStreamPackages.get? osMajor).bind (fun packages => packages.get? nevra.name) with
  | none => none
  | some appStreamPackage =>
    if appStreamPackage.osMajor = some osMajor ∧ streamMatches appStreamPackage nevra then
      some ⟨appStreamPackage.applicationStreamName,appStreamPackage⟩
    else none

def appStreamFromPackage (package : String) (osMajor : Int) : Cached (Option AppStreamKey) :=
  memoized PackageCaches.appStreams PackageCaches.setAppStreams (fun arguments => do
    let nevra ← fromString arguments.1
    return streamOf catalogue arguments.2 nevra) (package,osMajor)

def scanSystem (scan : Scan) (system : HostRowWithPackages) : Cached Scan :=
  match rhelMajorMinor system.toHostRow with
  | none => pure scan
  | some (osMajor,osMinor) => do
    let packages := system.packages.getD []
    let systemInfo : SystemInfo := ⟨system.id,system.displayName,osMajor,osMinor⟩
    let packageData := packages.foldl (fun data package =>
      data.update (fun systems => Dict.appendTo systems systemInfo) (package,osMajor)) scan.packageData
    let installedPackageNames ← names packages
    let modules := appStreamsFromModules casing catalogue (system.dnfModules.getD []) osMajor
      scan.moduleCache
    let systemsByStream := modules.appStreams.keys.foldl (addSystem systemInfo) scan.systemsByStream
    return ⟨verifyPendingModules catalogue modules.pendingVerification installedPackageNames systemInfo
      systemsByStream,modules.cache,packageData⟩

def matchPackages (systemsByStream : SystemsByStream) (entry : (String × Int) × List SystemInfo) :
    Cached SystemsByStream := do
  match ← appStreamFromPackage catalogue entry.1.1 entry.1.2 with
  | some appStream =>
    return systemsByStream.update (fun systems => systems.getD ∅ ∪ entry.2.toFinset) appStream
  | none => return systemsByStream

def packagesOfSystem (packagesBySystem : PackagesBySystem) (system : HostRowWithPackages) :
    Cached PackagesBySystem :=
  let packages := system.packages.getD []
  match rhelMajorMinor system.toHostRow with
  | none => pure packagesBySystem
  | some (osMajor,osMinor) =>
    if packages.isEmpty then pure packagesBySystem
    else do
      let names ← names packages
      return packagesBySystem.set ⟨system.id,system.displayName,osMajor,osMinor⟩ names

def matchNames (index : Dict (Int × String) (Finset Nat)) (osMajor : Int) (packages : List String) :
    Cached (Finset Nat) :=
  packages.foldlM (fun matchedItems package => do
    let nevra ← fromString package
    return matchedItems ∪ index.heldAt (osMajor,nevra.name)) ∅

def matchHost (index : Dict (Int × String) (Finset Nat)) (matching : Notificator.Matching)
    (system : HostRowWithPackages) : Cached Notificator.Matching :=
  let packages := system.packages.getD []
  match rhelMajorMinor system.toHostRow with
  | none => pure matching
  | some (osMajor,_) =>
    if packages.isEmpty then pure matching
    else do
      let matchedItems ← matchNames index osMajor packages
      return ⟨(matchedItems.sort (· ≤ ·)).foldl (fun counts idx =>
        counts.update (fun old => Dict.increment old ()) idx) matching.affectedCounts,
        insert osMajor matching.osMajorVersions⟩

end Functions

/-- The caches hold results of the functions, for arguments that were asked for. -/
structure Held (catalogue : Catalogue) (asked : Finset String) (looked : Finset (String × Int))
    (caches : PackageCaches) : Prop where
  nevras : caches.nevras.Sound NEVRA.fromString
  appStreams : caches.appStreams.Sound (fun arguments =>
    Roadmap.appStreamFromPackage catalogue arguments.1 arguments.2)
  asked : ∀ key ∈ caches.nevras.keys, key ∈ asked
  looked : ∀ key ∈ caches.appStreams.keys, key ∈ looked

section Agreement

variable {casing : Casing} {catalogue : Catalogue} {asked : Finset String} {looked : Finset (String × Int)}

theorem held_empty : Held catalogue asked looked ⟨.empty,.empty⟩ :=
  ⟨Lru.sound_empty _,Lru.sound_empty _,fun _ => nofun,fun _ => nofun⟩

theorem Held.mono {caches : PackageCaches} (held : Held catalogue asked looked caches)
    {asked' : Finset String} {looked' : Finset (String × Int)} (more : asked ⊆ asked')
    (further : looked ⊆ looked') : Held catalogue asked' looked' caches :=
  ⟨held.nevras,held.appStreams,fun key member => more (held.asked key member),
    fun key member => further (held.looked key member)⟩

theorem Held.sizes {caches : PackageCaches} (held : Held catalogue asked looked caches) :
    caches.nevras.entries.length ≤ min 100000 asked.card ∧
      caches.appStreams.entries.length ≤ min 100000 looked.card :=
  ⟨caches.nevras.size_le held.asked,caches.appStreams.size_le held.looked⟩

theorem fromString_agrees {package : String} (member : package ∈ asked) :
    Agrees (Held catalogue asked looked) (fromString package) (NEVRA.fromString package) := by
  refine Agrees.memoized (fun caches held => held.nevras) (fun caches nevra held result => ?_) (.raised _)
  refine ⟨held.nevras.put result,held.appStreams,fun key cached => ?_,held.looked⟩
  rcases Lru.keys_put _ _ _ key cached with rfl | before
  · exact member
  · exact held.asked key before

theorem names_agrees {packages : List String} (members : ∀ package ∈ packages, package ∈ asked) :
    Agrees (Held catalogue asked looked) (names packages) (NEVRA.names packages) := by
  have parsed : Agrees (Held catalogue asked looked) (packages.mapM fromString)
      (packages.mapM NEVRA.fromString) :=
    Agrees.mapM packages (fun package member => fromString_agrees (members package member))
  exact parsed.bind (fun nevras _ => .pure _)

theorem appStreamFromPackage_eq (package : String) (osMajor : Int) :
    Roadmap.appStreamFromPackage catalogue package osMajor =
      (NEVRA.fromString package >>= fun nevra => .ok (streamOf catalogue osMajor nevra)) := by
  refine congrArg (NEVRA.fromString package >>= ·) (funext (fun nevra => ?_))
  unfold streamOf
  cases (catalogue.appStreamPackages.get? osMajor).bind (fun packages => packages.get? nevra.name) with
  | none => rfl
  | some appStreamPackage =>
    dsimp only
    split <;> rfl

theorem appStreamFromPackage_agrees {package : String} {osMajor : Int} (member : package ∈ asked)
    (pair : (package,osMajor) ∈ looked) : Agrees (Held catalogue asked looked)
      (appStreamFromPackage catalogue package osMajor)
      (Roadmap.appStreamFromPackage catalogue package osMajor) := by
  have missed : Agrees (Held catalogue asked looked)
      (fromString package >>= fun nevra => pure (streamOf catalogue osMajor nevra))
      (Roadmap.appStreamFromPackage catalogue package osMajor) := by
    rw [appStreamFromPackage_eq]
    exact (fromString_agrees member).bind (fun nevra _ => .pure _)
  have sound : ∀ caches, Held catalogue asked looked caches → caches.appStreams.Sound
      (fun arguments => Roadmap.appStreamFromPackage catalogue arguments.1 arguments.2) :=
    fun caches held => held.appStreams
  refine Agrees.memoized sound (fun caches stream held result => ?_) missed
  refine ⟨held.nevras,held.appStreams.put result,held.asked,fun key cached => ?_⟩
  rcases Lru.keys_put _ _ _ key cached with rfl | before
  · exact pair
  · exact held.looked key before

/-- The packages of a host that has a version. -/
def packagesOf (system : HostRowWithPackages) : Finset String :=
  if (rhelMajorMinor system.toHostRow).isSome then (system.packages.getD []).toFinset else ∅

theorem names_of_host {system : HostRowWithPackages} {version : Int × Option Int}
    (known : rhelMajorMinor system.toHostRow = some version) (inside : packagesOf system ⊆ asked) :
    ∀ package ∈ system.packages.getD [], package ∈ asked := by
  intro package member
  apply inside
  rw [packagesOf,known]
  exact List.mem_toFinset.mpr member

variable (casing catalogue) in
theorem scanSystem_agrees (scan : Scan) {system : HostRowWithPackages} (inside : packagesOf system ⊆ asked) :
    Agrees (Held catalogue asked looked) (scanSystem casing catalogue scan system)
      (Roadmap.scanSystem casing catalogue scan system) := by
  unfold scanSystem Roadmap.scanSystem
  cases known : rhelMajorMinor system.toHostRow with
  | none => exact .pure scan
  | some version => exact (names_agrees (names_of_host known inside)).bind (fun names _ => .pure _)

variable (catalogue) in
theorem matchPackages_agrees (systemsByStream : SystemsByStream) {entry : (String × Int) × List SystemInfo}
    (member : entry.1.1 ∈ asked) (pair : entry.1 ∈ looked) :
    Agrees (Held catalogue asked looked) (matchPackages catalogue systemsByStream entry)
      (Roadmap.matchPackages catalogue systemsByStream entry) := by
  refine (appStreamFromPackage_agrees member pair).bind (fun stream _ => ?_)
  cases stream <;> exact .pure _

theorem packagesOfSystem_agrees (packages : PackagesBySystem) {system : HostRowWithPackages}
    (inside : packagesOf system ⊆ asked) : Agrees (Held catalogue asked looked)
      (packagesOfSystem packages system) (Roadmap.packagesOfSystem packages system) := by
  unfold packagesOfSystem Roadmap.packagesOfSystem
  cases known : rhelMajorMinor system.toHostRow with
  | none => exact .pure packages
  | some version =>
    by_cases empty : (system.packages.getD []).isEmpty
    · simp only [empty,if_true]
      exact .pure packages
    · simp only [empty,Bool.false_eq_true,if_false]
      exact (names_agrees (names_of_host known inside)).map _

theorem matchNames_agrees (index : Dict (Int × String) (Finset Nat)) (osMajor : Int) {packages : List String}
    (members : ∀ package ∈ packages, package ∈ asked) : Agrees (Held catalogue asked looked)
      (matchNames index osMajor packages) (Notificator.matchPackages index osMajor packages) :=
  Agrees.foldlM packages (fun _ package member =>
    (fromString_agrees (members package member)).bind (fun _ _ => .pure _)) ∅

theorem matchHost_agrees (index : Dict (Int × String) (Finset Nat)) (matching : Notificator.Matching)
    {system : HostRowWithPackages} (inside : packagesOf system ⊆ asked) :
    Agrees (Held catalogue asked looked) (matchHost index matching system)
      (Notificator.matchHost index matching system) := by
  unfold matchHost Notificator.matchHost
  cases known : rhelMajorMinor system.toHostRow with
  | none => exact .pure matching
  | some version =>
    by_cases empty : (system.packages.getD []).isEmpty
    · simp only [empty,if_true]
      exact .pure matching
    · simp only [empty,Bool.false_eq_true,if_false]
      exact (matchNames_agrees index version.1 (names_of_host known inside)).map _

end Agreement

end Cached

end Roadmap
