import Roadmap.AppStreams.Catalogue
import Roadmap.AppStreams.Nevra
import Roadmap.Base.Except
import Roadmap.Common

/-! One pass over the inventory that maps application streams to the hosts using them. The
pass shares a cache of looked-up modules between hosts, verifies enabled modules against
the packages of their own host, and matches packages in groups after the hosts. -/
namespace Roadmap

structure AppStreamKey where
  name : String
  appStreamEntity : AppStreamEntity

def AppStreamKey.identity (key : AppStreamKey) : StreamIdentity := key.appStreamEntity.identity

instance : BEq AppStreamKey := ⟨fun left right => decide (left.identity = right.identity)⟩

theorem AppStreamKey.beq_iff (left right : AppStreamKey) :
    (left == right) = true ↔ left.identity = right.identity := decide_eq_true_iff

instance : EquivBEq AppStreamKey where
  rfl := (AppStreamKey.beq_iff _ _).mpr rfl
  symm same := (AppStreamKey.beq_iff _ _).mpr ((AppStreamKey.beq_iff _ _).mp same).symm
  trans first second := (AppStreamKey.beq_iff _ _).mpr
    (((AppStreamKey.beq_iff _ _).mp first).trans ((AppStreamKey.beq_iff _ _).mp second))

abbrev SystemsByStream := Dict AppStreamKey (Finset SystemInfo)

/-- The accumulators of `app_streams_from_modules`; the set of keys keeps, of equal keys,
the first. -/
structure ModuleScan where
  appStreams : Dict AppStreamKey Unit
  cache : Dict ModuleKey AppStreamKey
  pendingVerification : Dict ModuleKey (AppStreamKey × Finset String)

section Scan

variable (casing : Casing) (catalogue : Catalogue)

/-- The entity of a module the catalogue does not list. It has no start date, and the
validators other than that of the display name leave it as it is. -/
def unmatchedModule (moduleName stream : String) : AppStreamEntity :=
  AppStreamEntity.setDisplayName casing {
    name := moduleName,stream := stream,applicationStreamName := "Unknown",impl := .module}

def findModule (cacheKey : ModuleKey) : Option AppStreamEntity :=
  catalogue.appStreamModulesByKey.get? (cacheKey.1,some cacheKey.2.1,cacheKey.2.2)

/-- A module counts only where its name is known for the major version and its status
allows it: RHEL 8 lists modules that are not in use, later versions do not. -/
def omitted (osMajor : Int) (dnfModule : DnfModule) : Bool :=
  let status := dnfModule.status.getD []
  let included := decide ("enabled" ∈ status ∨ "installed" ∈ status)
  Text.contains "perl" (casing.casefold dnfModule.name) ||
    decide (some osMajor ∉ (catalogue.osMajorsByAppName.get? dnfModule.name).getD ∅) ||
    (if osMajor ≤ 8 then !included else !status.isEmpty && !included)

/-- An enabled module waits for verification where packages are known for it. -/
def pendingOf (cacheKey : ModuleKey) : Option (AppStreamKey × Finset String) :=
  match catalogue.modulePackages.get? cacheKey with
  | none => none
  | some expectedPackages =>
    if expectedPackages = ∅ then none
    else match findModule catalogue cacheKey with
      | some matchedModule =>
        if matchedModule.startDate.isSome then some (⟨cacheKey.1,matchedModule⟩,expectedPackages)
        else none
      | none => none

def moduleKeyOf (cacheKey : ModuleKey) : AppStreamKey :=
  ⟨cacheKey.1,(findModule catalogue cacheKey).getD (unmatchedModule casing cacheKey.1 cacheKey.2.2)⟩

def includeModule (cacheKey : ModuleKey) (scan : ModuleScan) : ModuleScan :=
  let appStreamKey := moduleKeyOf casing catalogue cacheKey
  let scan := {scan with cache := scan.cache.set cacheKey appStreamKey}
  if appStreamKey.appStreamEntity.startDate.isSome then
    {scan with appStreams := scan.appStreams.set appStreamKey ()}
  else scan

def scanModule (osMajor : Int) (scan : ModuleScan) (dnfModule : DnfModule) : ModuleScan :=
  let cacheKey : ModuleKey := (dnfModule.name,osMajor,dnfModule.stream)
  if omitted casing catalogue osMajor dnfModule then scan
  else if "enabled" ∈ dnfModule.status.getD [] then
    match pendingOf catalogue cacheKey with
    | some pending => {scan with pendingVerification := scan.pendingVerification.set cacheKey pending}
    | none => scan
  else match scan.cache.get? cacheKey with
    | some cachedValue =>
      if cachedValue.appStreamEntity.startDate.isSome then
        {scan with appStreams := scan.appStreams.set cachedValue ()}
      else includeModule casing catalogue cacheKey scan
    | none => includeModule casing catalogue cacheKey scan

def appStreamsFromModules (dnfModules : List DnfModule) (osMajor : Int)
    (cache : Dict ModuleKey AppStreamKey) : ModuleScan :=
  dnfModules.foldl (scanModule casing catalogue osMajor) ⟨.empty,cache,.empty⟩

/-- Packages of one module only are trusted on their own; shared ones need the package
that bears the module's name. -/
def verified (installedPackageNames : Finset String)
    (pending : ModuleKey × AppStreamKey × Finset String) : Bool :=
  let matchedPackages := pending.2.2 ∩ installedPackageNames
  let unambiguousMatches :=
    matchedPackages \ catalogue.sharedPackageNames pending.1.2.1 matchedPackages
  !decide (matchedPackages = ∅) &&
    (!decide (unambiguousMatches = ∅) || decide (pending.1.1 ∈ installedPackageNames))

def addSystem (systemInfo : SystemInfo) (systemsByStream : SystemsByStream) (key : AppStreamKey) :
    SystemsByStream :=
  systemsByStream.update (fun systems => Dict.addTo systems systemInfo) key

def verifyPendingModules (pending : Dict ModuleKey (AppStreamKey × Finset String))
    (installedPackageNames : Finset String) (systemInfo : SystemInfo)
    (systemsByStream : SystemsByStream) : SystemsByStream :=
  pending.items.foldl (fun systems entry =>
    if verified catalogue installedPackageNames entry then addSystem systemInfo systems entry.2.1
    else systems) systemsByStream

structure Scan where
  systemsByStream : SystemsByStream
  moduleCache : Dict ModuleKey AppStreamKey
  packageData : Dict (String × Int) (List SystemInfo)

def scanSystem (scan : Scan) (system : HostRowWithPackages) : Except PyError Scan :=
  match rhelMajorMinor system.toHostRow with
  | none => .ok scan
  | some (osMajor,osMinor) => do
    let packages := system.packages.getD []
    let systemInfo : SystemInfo := ⟨system.id,system.displayName,osMajor,osMinor⟩
    let packageData := packages.foldl (fun data package =>
      data.update (fun systems => Dict.appendTo systems systemInfo) (package,osMajor)) scan.packageData
    let installedPackageNames ← NEVRA.names packages
    let modules := appStreamsFromModules casing catalogue (system.dnfModules.getD []) osMajor
      scan.moduleCache
    let systemsByStream := modules.appStreams.keys.foldl (addSystem systemInfo) scan.systemsByStream
    return ⟨verifyPendingModules catalogue modules.pendingVerification installedPackageNames systemInfo
      systemsByStream,modules.cache,packageData⟩

def streamVersionDepth (applicationStreamName : String) : Nat :=
  match Text.rpartition ' ' applicationStreamName.toList with
  | some (_,version) =>
    if version.head?.any Text.isDigit then min (version.splitOn '.').length 2 else 2
  | none => 2

/-- Compares the stream with the version of a package, as deep as the stream's name goes. -/
def streamMatches (appStreamPackage : AppStreamEntity) (nevra : NEVRA) : Bool :=
  let parts := (appStreamPackage.stream.toList.splitOn '.').map String.ofList
  if streamVersionDepth appStreamPackage.applicationStreamName = 1 then
    decide (parts.head? = some nevra.major)
  else
    let stream := parts.take 2
    let stream := if stream.length = 1 then stream ++ ["0"] else stream
    decide (stream = [nevra.major,nevra.minor])

def appStreamFromPackage (package : String) (osMajor : Int) : Except PyError (Option AppStreamKey) := do
  let nevra ← NEVRA.fromString package
  match (catalogue.appStreamPackages.get? osMajor).bind (fun packages => packages.get? nevra.name) with
  | none => return none
  | some appStreamPackage =>
    if appStreamPackage.osMajor = some osMajor ∧ streamMatches appStreamPackage nevra then
      return some ⟨appStreamPackage.applicationStreamName,appStreamPackage⟩
    else return none

def matchPackages (systemsByStream : SystemsByStream)
    (entry : (String × Int) × List SystemInfo) : Except PyError SystemsByStream := do
  match ← appStreamFromPackage catalogue entry.1.1 entry.1.2 with
  | some appStream =>
    return systemsByStream.update (fun systems => systems.getD ∅ ∪ entry.2.toFinset) appStream
  | none => return systemsByStream

def systemsByAppStream (systems : List HostRowWithPackages) : Except PyError SystemsByStream := do
  let scan ← systems.foldlM (scanSystem casing catalogue) ⟨.empty,.empty,.empty⟩
  scan.packageData.items.foldlM (matchPackages catalogue) scan.systemsByStream

end Scan

end Roadmap
