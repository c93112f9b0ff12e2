import Roadmap.AppStreams.Scan

/-! The shared cache, the verification per host and the package groups change nothing: the
pass over all hosts is the union of the passes over each of them. -/
namespace Roadmap
open Dict

section PerHost

variable (casing : Casing) (catalogue : Catalogue)

/-! The module cache. -/

/-- The cache holds for a module what a lookup finds, whichever host asked first. -/
def CacheSound (cache : Dict ModuleKey AppStreamKey) : Prop :=
  ∀ cacheKey key, cache.get? cacheKey = some key → key = moduleKeyOf casing catalogue cacheKey

theorem cacheSound_empty : CacheSound casing catalogue .empty := fun _ _ => nofun

theorem cacheSound_set {cache : Dict ModuleKey AppStreamKey} (sound : CacheSound casing catalogue cache)
    (cacheKey : ModuleKey) :
    CacheSound casing catalogue (cache.set cacheKey (moduleKeyOf casing catalogue cacheKey)) := by
  intro other key found
  rw [get?_set] at found
  split at found
  next same => rw [← beq_iff_eq.mp same]; exact (Option.some.inj found).symm
  next => exact sound other key found

/-- The stream of a module that is not waiting for verification. -/
def includedStream (osMajor : Int) (dnfModule : DnfModule) : Option AppStreamKey :=
  let key := moduleKeyOf casing catalogue (dnfModule.name,osMajor,dnfModule.stream)
  if omitted casing catalogue osMajor dnfModule then none
  else if "enabled" ∈ dnfModule.status.getD [] then none
  else if key.appStreamEntity.startDate.isSome then some key else none

def pendingStream (osMajor : Int) (dnfModule : DnfModule) :
    Option (ModuleKey × AppStreamKey × Finset String) :=
  let cacheKey : ModuleKey := (dnfModule.name,osMajor,dnfModule.stream)
  if omitted casing catalogue osMajor dnfModule then none
  else if "enabled" ∈ dnfModule.status.getD [] then
    (pendingOf catalogue cacheKey).map (fun pending => (cacheKey,pending))
  else none

private def setSome {κ ν : Type} [BEq κ] (dict : Dict κ ν) (entry : Option (κ × ν)) : Dict κ ν :=
  match entry with
  | some entry => dict.set entry.1 entry.2
  | none => dict

private theorem includeModule_spec (cacheKey : ModuleKey) (scan : ModuleScan)
    (sound : CacheSound casing catalogue scan.cache) :
    let next := includeModule casing catalogue cacheKey scan
    let key := moduleKeyOf casing catalogue cacheKey
    CacheSound casing catalogue next.cache ∧
      next.appStreams = setSome scan.appStreams
        ((if key.appStreamEntity.startDate.isSome then some key else none).map (·,())) ∧
      next.pendingVerification = scan.pendingVerification := by
  have kept := cacheSound_set casing catalogue sound cacheKey
  unfold includeModule
  by_cases dated : (moduleKeyOf casing catalogue cacheKey).appStreamEntity.startDate.isSome
  · simp only [dated,if_true]
    exact ⟨kept,rfl,trivial⟩
  · simp only [dated,Bool.false_eq_true,if_false]
    exact ⟨kept,rfl,trivial⟩

/-- One module: the cache stays sound, and it does not show in the other accumulators. -/
theorem scanModule_spec (osMajor : Int) (scan : ModuleScan) (dnfModule : DnfModule)
    (sound : CacheSound casing catalogue scan.cache) :
    let next := scanModule casing catalogue osMajor scan dnfModule
    CacheSound casing catalogue next.cache ∧
      next.appStreams = setSome scan.appStreams
        ((includedStream casing catalogue osMajor dnfModule).map (·,())) ∧
      next.pendingVerification = setSome scan.pendingVerification
        (pendingStream casing catalogue osMajor dnfModule) := by
  have included := includeModule_spec casing catalogue (dnfModule.name,osMajor,dnfModule.stream) scan sound
  unfold scanModule includedStream pendingStream
  by_cases dropped : omitted casing catalogue osMajor dnfModule
  · simp only [dropped,if_true]
    exact ⟨sound,rfl,rfl⟩
  by_cases enabled : "enabled" ∈ dnfModule.status.getD []
  · simp only [dropped,enabled,if_true,Bool.false_eq_true,if_false]
    cases pendingOf catalogue (dnfModule.name,osMajor,dnfModule.stream) <;> exact ⟨sound,rfl,rfl⟩
  · simp only [dropped,enabled,Bool.false_eq_true,if_false]
    cases cached : scan.cache.get? (dnfModule.name,osMajor,dnfModule.stream) with
    | none => exact included
    | some cachedValue =>
      have same := sound _ _ cached
      subst same
      by_cases dated : (moduleKeyOf casing catalogue
          (dnfModule.name,osMajor,dnfModule.stream)).appStreamEntity.startDate.isSome
      · simp only [dated,if_true]
        exact ⟨sound,rfl,rfl⟩
      · simp only [dated,Bool.false_eq_true,if_false] at included ⊢
        exact included

private theorem setSome_group {κ ν : Type} [BEq κ] (dict : Dict κ ν) (entry : Option (κ × ν)) :
    setSome dict entry = group assign entry.toList dict := by
  cases entry <;> rfl

private theorem modules_spec (osMajor : Int) (dnfModules : List DnfModule) (scan : ModuleScan)
    (sound : CacheSound casing catalogue scan.cache) :
    let last := dnfModules.foldl (scanModule casing catalogue osMajor) scan
    CacheSound casing catalogue last.cache ∧
      last.appStreams = group assign
        ((dnfModules.filterMap (includedStream casing catalogue osMajor)).map (·,())) scan.appStreams ∧
      last.pendingVerification = group assign
        (dnfModules.filterMap (pendingStream casing catalogue osMajor)) scan.pendingVerification := by
  induction dnfModules generalizing scan with
  | nil => exact ⟨sound,rfl,rfl⟩
  | cons dnfModule rest ih =>
    obtain ⟨kept,included,waiting⟩ := scanModule_spec casing catalogue osMajor scan dnfModule sound
    obtain ⟨later,streams,pending⟩ := ih _ kept
    simp only [List.foldl_cons]
    refine ⟨later,streams.trans ?_,pending.trans ?_⟩
    · rw [included,setSome_group,← group_append]
      cases found : includedStream casing catalogue osMajor dnfModule <;> simp [found]
    · rw [waiting,setSome_group,← group_append]
      cases found : pendingStream casing catalogue osMajor dnfModule <;> simp [found]

/-- What the modules of a host leave behind a sound cache: the streams and the waiting modules
are those of the single modules. -/
theorem appStreamsFromModules_group (dnfModules : List DnfModule) (osMajor : Int)
    {cache : Dict ModuleKey AppStreamKey} (sound : CacheSound casing catalogue cache) :
    let modules := appStreamsFromModules casing catalogue dnfModules osMajor cache
    CacheSound casing catalogue modules.cache ∧
      modules.appStreams = group assign
        ((dnfModules.filterMap (includedStream casing catalogue osMajor)).map (·,())) .empty ∧
      modules.pendingVerification =
        group assign (dnfModules.filterMap (pendingStream casing catalogue osMajor)) .empty :=
  modules_spec casing catalogue osMajor dnfModules _ sound

/-- A sound cache shows in no result: the modules of a host are found as with an empty one. -/
theorem appStreamsFromModules_cache (dnfModules : List DnfModule) (osMajor : Int)
    {cache : Dict ModuleKey AppStreamKey} (sound : CacheSound casing catalogue cache) :
    let cached := appStreamsFromModules casing catalogue dnfModules osMajor cache
    let fresh := appStreamsFromModules casing catalogue dnfModules osMajor .empty
    CacheSound casing catalogue cached.cache ∧ cached.appStreams = fresh.appStreams ∧
      cached.pendingVerification = fresh.pendingVerification := by
  obtain ⟨kept,streams,pending⟩ := appStreamsFromModules_group casing catalogue dnfModules osMajor sound
  obtain ⟨_,streams',pending'⟩ := appStreamsFromModules_group casing catalogue dnfModules osMajor
    (cacheSound_empty casing catalogue)
  exact ⟨kept,streams.trans streams'.symm,pending.trans pending'.symm⟩

/-! One host. -/

def hostStreams (system : HostRowWithPackages) (osMajor : Int) : List AppStreamKey :=
  let modules := appStreamsFromModules casing catalogue (system.dnfModules.getD []) osMajor .empty
  let installed := ((system.packages.getD []).map NEVRA.nameOf).toFinset
  modules.appStreams.keys ++
    (modules.pendingVerification.items.filter (verified catalogue installed)).map (·.2.1)

def packageStream (package : String) (osMajor : Int) : Option AppStreamKey :=
  match appStreamFromPackage catalogue package osMajor with
  | .ok stream => stream
  | .error _ => none

/-- How a host is recorded: nowhere if its version cannot be told. -/
def hostInfo (system : HostRowWithPackages) : Option SystemInfo :=
  (rhelMajorMinor system.toHostRow).map (fun version =>
    ⟨system.id,system.displayName,version.1,version.2⟩)

def moduleEvents (system : HostRowWithPackages) : List (AppStreamKey × Finset SystemInfo) :=
  (hostInfo system).elim [] (fun info =>
    (hostStreams casing catalogue system info.osMajor).map (fun key => (key,{info})))

def packageLines (system : HostRowWithPackages) : List ((String × Int) × SystemInfo) :=
  (hostInfo system).elim [] (fun info =>
    (system.packages.getD []).map (fun package => ((package,info.osMajor),info)))

def usedStreams (system : HostRowWithPackages) : List AppStreamKey :=
  (hostInfo system).elim [] (fun info => hostStreams casing catalogue system info.osMajor ++
    (system.packages.getD []).filterMap (fun package => packageStream catalogue package info.osMajor))

/-- The pass parses the packages of the hosts whose version can be told. -/
def Parsed (systems : List HostRowWithPackages) : Prop :=
  ∀ system ∈ systems, (hostInfo system).isSome → WellFormedPackages system

private theorem packageStream_ok {package : String} (formed : NEVRA.WellFormed package) (osMajor : Int) :
    appStreamFromPackage catalogue package osMajor = .ok (packageStream catalogue package osMajor) := by
  obtain ⟨nevra,read⟩ := formed
  have total : ∃ stream, appStreamFromPackage catalogue package osMajor = .ok stream := by
    unfold appStreamFromPackage
    rw [read]
    simp only [bind,Except.bind]
    split
    · exact ⟨_,rfl⟩
    · split <;> exact ⟨_,rfl⟩
  obtain ⟨stream,same⟩ := total
  rw [packageStream,same]

private theorem addSystems_group (info : SystemInfo) (keys : List AppStreamKey) (streams : SystemsByStream) :
    keys.foldl (addSystem info) streams = group unite (keys.map (fun key => (key,{info}))) streams := by
  rw [group,List.foldl_map]
  refine List.foldl_ext _ _ _ (fun streams key _ => ?_)
  simp only [addSystem,addTo_unite]

private theorem verify_fold (pending : Dict ModuleKey (AppStreamKey × Finset String))
    (installed : Finset String) (info : SystemInfo) (streams : SystemsByStream) :
    verifyPendingModules catalogue pending installed info streams =
      ((pending.items.filter (verified catalogue installed)).map (·.2.1)).foldl (addSystem info) streams := by
  rw [verifyPendingModules,List.foldl_map,List.foldl_filter]

/-- A host adds itself to the streams of its modules, whatever was found before. -/
private theorem scanModules_group (system : HostRowWithPackages) (info : SystemInfo) (osMajor : Int)
    (cache : Dict ModuleKey AppStreamKey) (sound : CacheSound casing catalogue cache)
    (streams : SystemsByStream) :
    let modules := appStreamsFromModules casing catalogue (system.dnfModules.getD []) osMajor cache
    let installed := ((system.packages.getD []).map NEVRA.nameOf).toFinset
    verifyPendingModules catalogue modules.pendingVerification installed info
        (modules.appStreams.keys.foldl (addSystem info) streams) =
      group unite ((hostStreams casing catalogue system osMajor).map (fun key => (key,{info}))) streams := by
  obtain ⟨_,same,pending⟩ := appStreamsFromModules_cache casing catalogue (system.dnfModules.getD [])
    osMajor sound
  intro modules installed
  rw [verify_fold,← List.foldl_append,same,pending,addSystems_group]
  rfl

theorem scanSystem_group {scan : Scan} (sound : CacheSound casing catalogue scan.moduleCache)
    (system : HostRowWithPackages) (formed : (hostInfo system).isSome → WellFormedPackages system) :
    ∃ cache, CacheSound casing catalogue cache ∧ scanSystem casing catalogue scan system =
      .ok ⟨group unite (moduleEvents casing catalogue system) scan.systemsByStream,cache,
        group appendTo (packageLines system) scan.packageData⟩ := by
  cases version : rhelMajorMinor system.toHostRow with
  | none =>
    have skipped : hostInfo system = none := by rw [hostInfo,version]; rfl
    refine ⟨scan.moduleCache,sound,?_⟩
    rw [scanSystem,version,moduleEvents,packageLines,skipped]
    rfl
  | some found =>
    obtain ⟨osMajor,osMinor⟩ := found
    have recorded : hostInfo system = some ⟨system.id,system.displayName,osMajor,osMinor⟩ := by
      rw [hostInfo,version]; rfl
    have names := NEVRA.names_ok (formed (by rw [recorded]; rfl))
    obtain ⟨kept,_⟩ := appStreamsFromModules_cache casing catalogue (system.dnfModules.getD []) osMajor
      sound
    refine ⟨_,kept,?_⟩
    rw [scanSystem,version,moduleEvents,packageLines,recorded]
    simp only [names,bind,Except.bind,pure,Except.pure,Option.elim_some,
      scanModules_group casing catalogue system _ osMajor _ sound,group,List.foldl_map]

theorem scan_group (systems : List HostRowWithPackages) (parsed : Parsed systems) (scan : Scan)
    (sound : CacheSound casing catalogue scan.moduleCache) :
    ∃ cache, systems.foldlM (scanSystem casing catalogue) scan =
      .ok ⟨group unite (systems.flatMap (moduleEvents casing catalogue)) scan.systemsByStream,cache,
        group appendTo (systems.flatMap packageLines) scan.packageData⟩ := by
  induction systems generalizing scan with
  | nil => exact ⟨scan.moduleCache,rfl⟩
  | cons system rest ih =>
    obtain ⟨cache,kept,stepped⟩ := scanSystem_group casing catalogue sound system (parsed system (by simp))
    obtain ⟨last,continued⟩ := ih (fun other member => parsed other (by simp [member])) ⟨_,cache,_⟩ kept
    refine ⟨last,?_⟩
    rw [List.foldlM_cons,stepped,List.flatMap_cons,List.flatMap_cons,group_append,group_append]
    exact continued

/-! The packages after the loop. -/

def packageData (systems : List HostRowWithPackages) : Dict (String × Int) (List SystemInfo) :=
  group appendTo (systems.flatMap packageLines) .empty

def packageEvent (entry : (String × Int) × List SystemInfo) : Option (AppStreamKey × Finset SystemInfo) :=
  (packageStream catalogue entry.1.1 entry.1.2).map (fun key => (key,entry.2.toFinset))

theorem mem_packageLines (systems : List HostRowWithPackages) (line : (String × Int) × SystemInfo) :
    line ∈ systems.flatMap packageLines ↔ ∃ system ∈ systems, hostInfo system = some line.2 ∧
      line.1.1 ∈ system.packages.getD [] ∧ line.1.2 = line.2.osMajor := by
  simp only [List.mem_flatMap,packageLines]
  refine exists_congr (fun system => and_congr_right (fun _ => ?_))
  cases hostInfo system with
  | none => simp
  | some info =>
    obtain ⟨⟨package,osMajor⟩,other⟩ := line
    simp only [Option.elim_some,List.mem_map,Prod.mk.injEq,Option.some.injEq]
    constructor
    · rintro ⟨_,listed,⟨rfl,rfl⟩,rfl⟩
      exact ⟨rfl,listed,rfl⟩
    · rintro ⟨rfl,listed,rfl⟩
      exact ⟨package,listed,⟨rfl,rfl⟩,rfl⟩

private theorem packageData_entry (systems : List HostRowWithPackages)
    {entry : (String × Int) × List SystemInfo} (member : entry ∈ (packageData systems).items) :
    entry.2 ≠ [] ∧ ∀ info, info ∈ entry.2 ↔ (entry.1,info) ∈ systems.flatMap packageLines := by
  have found := mem_items_get? _ entry member
  rw [packageData,get?_group_appendTo] at found
  split at found
  · contradiction
  next nonempty =>
    rw [← Option.some.inj found]
    refine ⟨by simpa using nonempty,fun info => ?_⟩
    rw [mem_itemsAt]
    constructor
    · rintro ⟨line,listed,same,rfl⟩
      rwa [← beq_iff_eq.mp same]
    · exact fun listed => ⟨_,listed,by simp,rfl⟩

private theorem matchPackages_group (items : List ((String × Int) × List SystemInfo))
    (formed : ∀ entry ∈ items, NEVRA.WellFormed entry.1.1) (streams : SystemsByStream) :
    items.foldlM (matchPackages catalogue) streams =
      .ok (group unite (items.filterMap (packageEvent catalogue)) streams) := by
  apply Except.foldlM_events items
  intro entry member streams
  rw [matchPackages,packageStream_ok catalogue (formed entry member) entry.1.2,packageEvent]
  cases packageStream catalogue entry.1.1 entry.1.2 <;> rfl

/-- What the pass adds to the mapping, in its order: the modules host by host, and then the
packages. -/
def passEvents (systems : List HostRowWithPackages) : List (AppStreamKey × Finset SystemInfo) :=
  systems.flatMap (moduleEvents casing catalogue) ++
    (packageData systems).items.filterMap (packageEvent catalogue)

def mappingOf (systems : List HostRowWithPackages) : SystemsByStream :=
  group unite (passEvents casing catalogue systems) .empty

theorem systemsByAppStream_group {systems : List HostRowWithPackages} (parsed : Parsed systems) :
    systemsByAppStream casing catalogue systems = .ok (mappingOf casing catalogue systems) := by
  obtain ⟨cache,scanned⟩ := scan_group casing catalogue systems parsed ⟨.empty,.empty,.empty⟩
    (cacheSound_empty casing catalogue)
  have formed : ∀ entry ∈ (packageData systems).items, NEVRA.WellFormed entry.1.1 := by
    intro entry member
    obtain ⟨nonempty,members⟩ := packageData_entry systems member
    obtain ⟨info,inside⟩ := List.exists_mem_of_ne_nil _ nonempty
    obtain ⟨system,present,recorded,listed,-⟩ := (mem_packageLines systems _).mp ((members info).mp inside)
    exact parsed system present (by rw [recorded]; rfl) _ listed
  rw [systemsByAppStream,scanned,mappingOf,passEvents,group_append]
  exact matchPackages_group catalogue (packageData systems).items formed _

def Records (system : HostRowWithPackages) (key : AppStreamKey) (info : SystemInfo) : Prop :=
  hostInfo system = some info ∧ ∃ stream ∈ usedStreams casing catalogue system, (stream == key) = true

private theorem mem_moduleEvents (systems : List HostRowWithPackages) (stream : AppStreamKey)
    (info : SystemInfo) : (∃ event ∈ systems.flatMap (moduleEvents casing catalogue),
      event.1 = stream ∧ info ∈ event.2) ↔ ∃ system ∈ systems, hostInfo system = some info ∧
        stream ∈ hostStreams casing catalogue system info.osMajor := by
  simp only [List.mem_flatMap,moduleEvents]
  constructor
  · rintro ⟨event,⟨system,present,built⟩,rfl,inside⟩
    refine ⟨system,present,?_⟩
    cases recorded : hostInfo system with
    | none => simp [recorded] at built
    | some other =>
      rw [recorded] at built
      obtain ⟨key,listed,rfl⟩ := List.mem_map.mp built
      rw [Finset.mem_singleton.mp inside]
      exact ⟨rfl,listed⟩
  · rintro ⟨system,present,recorded,listed⟩
    refine ⟨(stream,{info}),⟨system,present,?_⟩,rfl,Finset.mem_singleton_self info⟩
    rw [recorded]
    exact List.mem_map.mpr ⟨stream,listed,rfl⟩

private theorem mem_packageEvents (systems : List HostRowWithPackages) (stream : AppStreamKey)
    (info : SystemInfo) : (∃ event ∈ (packageData systems).items.filterMap (packageEvent catalogue),
      event.1 = stream ∧ info ∈ event.2) ↔ ∃ system ∈ systems, hostInfo system = some info ∧
        ∃ package ∈ system.packages.getD [], packageStream catalogue package info.osMajor = some stream := by
  constructor
  · rintro ⟨event,member,rfl,inside⟩
    obtain ⟨entry,listed,built⟩ := List.mem_filterMap.mp member
    obtain ⟨stream,found,rfl⟩ := Option.map_eq_some_iff.mp built
    obtain ⟨system,present,recorded,package,major⟩ := (mem_packageLines systems _).mp
      (((packageData_entry systems listed).2 info).mp (List.mem_toFinset.mp inside))
    exact ⟨system,present,recorded,entry.1.1,package,major ▸ found⟩
  · rintro ⟨system,present,recorded,package,listed,found⟩
    have line := (mem_packageLines systems ((package,info.osMajor),info)).mpr
      ⟨system,present,recorded,listed,rfl⟩
    have held : ∃ infos, (packageData systems).get? (package,info.osMajor) = some infos := by
      rw [packageData,get?_group_appendTo,if_neg]
      · exact ⟨_,rfl⟩
      · intro empty
        rw [List.isEmpty_iff] at empty
        exact List.not_mem_nil (empty ▸ (mem_itemsAt _ _ info).mpr ⟨_,line,by simp,rfl⟩)
    obtain ⟨infos,held⟩ := held
    have member := (mem_items (packageData systems) ((package,info.osMajor),infos)).mpr held
    refine ⟨(stream,infos.toFinset),List.mem_filterMap.mpr ⟨_,member,?_⟩,rfl,?_⟩
    · rw [packageEvent,found]
      rfl
    · exact List.mem_toFinset.mpr (((packageData_entry systems member).2 info).mpr line)

theorem mem_passEvents (systems : List HostRowWithPackages) (stream : AppStreamKey) (info : SystemInfo) :
    (∃ event ∈ passEvents casing catalogue systems, event.1 = stream ∧ info ∈ event.2) ↔
      ∃ system ∈ systems, hostInfo system = some info ∧ stream ∈ usedStreams casing catalogue system := by
  have used : ∀ system, (hostInfo system = some info ∧ stream ∈ usedStreams casing catalogue system) ↔
      (hostInfo system = some info ∧ stream ∈ hostStreams casing catalogue system info.osMajor) ∨
        hostInfo system = some info ∧
          ∃ package ∈ system.packages.getD [], packageStream catalogue package info.osMajor = some stream := by
    intro system
    rw [← and_or_left]
    refine and_congr_right (fun recorded => ?_)
    rw [usedStreams,recorded,Option.elim_some,List.mem_append,List.mem_filterMap]
  simp only [used,and_or_left,exists_or,← mem_moduleEvents,← mem_packageEvents,passEvents,List.mem_append,
    or_and_right]

theorem passEvents_nonempty (systems : List HostRowWithPackages) :
    ∀ event ∈ passEvents casing catalogue systems, event.2.Nonempty := by
  intro event member
  rcases List.mem_append.mp member with inModules | inPackages
  · obtain ⟨system,-,built⟩ := List.mem_flatMap.mp inModules
    rw [moduleEvents] at built
    cases recorded : hostInfo system with
    | none => simp [recorded] at built
    | some info =>
      rw [recorded] at built
      obtain ⟨key,-,rfl⟩ := List.mem_map.mp built
      exact Finset.singleton_nonempty info
  · obtain ⟨entry,listed,built⟩ := List.mem_filterMap.mp inPackages
    obtain ⟨stream,-,rfl⟩ := Option.map_eq_some_iff.mp built
    exact (List.toFinset_nonempty_iff _).mpr (packageData_entry systems listed).1

theorem noEmpty_mappingOf (systems : List HostRowWithPackages) :
    (mappingOf casing catalogue systems).NoEmpty :=
  noEmpty_group (passEvents_nonempty casing catalogue systems) noEmpty_empty

/-- The mapping of any inventory holds at each key the hosts that record it. -/
theorem mem_mappingOf (systems : List HostRowWithPackages) (key : AppStreamKey) (info : SystemInfo) :
    info ∈ (mappingOf casing catalogue systems).heldAt key ↔
      ∃ system ∈ systems, Records casing catalogue system key info := by
  have unheld : info ∉ (empty : SystemsByStream).heldAt key := by simp [heldAt]
  simp only [mappingOf,mem_heldAt_group,unheld,false_or,Records]
  constructor
  · rintro ⟨event,member,same,inside⟩
    obtain ⟨system,present,recorded,used⟩ := (mem_passEvents casing catalogue systems event.1 info).mp
      ⟨event,member,rfl,inside⟩
    exact ⟨system,present,recorded,event.1,used,same⟩
  · rintro ⟨system,present,recorded,stream,used,same⟩
    obtain ⟨event,member,rfl,inside⟩ := (mem_passEvents casing catalogue systems stream info).mpr
      ⟨system,present,recorded,used⟩
    exact ⟨event,member,same,inside⟩

def unionAt (mappings : List SystemsByStream) (key : AppStreamKey) : Option (Finset SystemInfo) :=
  mappings.foldl (fun union mapping => Option.merge (· ∪ ·) union (mapping.get? key)) none

private theorem merge_full {left right : Option (Finset SystemInfo)} (first : left ≠ some ∅)
    (second : right ≠ some ∅) : Option.merge (· ∪ ·) left right ≠ some ∅ ∧
      ∀ info, info ∈ (Option.merge (· ∪ ·) left right).getD ∅ ↔
        info ∈ left.getD ∅ ∨ info ∈ right.getD ∅ := by
  rcases left with _ | left <;> rcases right with _ | right <;> simp_all [Finset.union_eq_empty]

private theorem unionAt_spec (mappings : List SystemsByStream) (full : ∀ mapping ∈ mappings, mapping.NoEmpty)
    (key : AppStreamKey) : unionAt mappings key ≠ some ∅ ∧ ∀ info, info ∈ (unionAt mappings key).getD ∅ ↔
      ∃ mapping ∈ mappings, info ∈ mapping.heldAt key := by
  have general : ∀ start : Option (Finset SystemInfo), start ≠ some ∅ →
      mappings.foldl (fun union mapping => Option.merge (· ∪ ·) union (mapping.get? key)) start ≠ some ∅ ∧
        ∀ info, info ∈ (mappings.foldl (fun union mapping =>
          Option.merge (· ∪ ·) union (mapping.get? key)) start).getD ∅ ↔
            info ∈ start.getD ∅ ∨ ∃ mapping ∈ mappings, info ∈ mapping.heldAt key := by
    induction mappings with
    | nil => exact fun start nonempty => ⟨nonempty,by simp⟩
    | cons mapping rest ih =>
      intro start nonempty
      obtain ⟨kept,members⟩ := merge_full nonempty (full mapping (by simp) key)
      obtain ⟨final,all⟩ := ih (fun other member => full other (by simp [member])) _ kept
      refine ⟨final,fun info => ?_⟩
      rw [List.foldl_cons,all,members,List.exists_mem_cons_iff,or_assoc]
      rfl
  obtain ⟨full',members⟩ := general none nofun
  exact ⟨full',fun info => (members info).trans (by simp)⟩

private theorem mem_singles (systems : List HostRowWithPackages) (key : AppStreamKey) (info : SystemInfo) :
    (∃ mapping ∈ systems.map (fun system => mappingOf casing catalogue [system]),
      info ∈ mapping.heldAt key) ↔ info ∈ (mappingOf casing catalogue systems).heldAt key := by
  simp [mem_mappingOf]

/-- The pass over an inventory maps each stream to the union of what the passes over its
single hosts map it to, and the order of the hosts does not matter. -/
theorem one_pass_per_host (systems : List HostRowWithPackages)
    (formed : ∀ system ∈ systems, WellFormedPackages system) :
    ∃ whole singles, systemsByAppStream casing catalogue systems = .ok whole ∧
      systems.mapM (fun system => systemsByAppStream casing catalogue [system]) = .ok singles ∧
      (∀ key, whole.get? key = unionAt singles key) ∧
      ∀ other, other.Perm systems → ∃ same, systemsByAppStream casing catalogue other = .ok same ∧
        ∀ key, same.get? key = whole.get? key := by
  have parsed : ∀ other, (∀ system ∈ other, system ∈ systems) → Parsed other :=
    fun other inside system present _ => formed system (inside system present)
  have full := noEmpty_mappingOf casing catalogue
  refine ⟨_,_,systemsByAppStream_group casing catalogue (parsed systems (fun _ => id)),
    Except.mapM_total systems (fun system present => systemsByAppStream_group casing catalogue
      (parsed [system] (by simpa using present))),fun key => ?_,fun other order => ?_⟩
  · obtain ⟨full',union⟩ := unionAt_spec (systems.map (fun system => mappingOf casing catalogue [system]))
      (fun mapping member => by obtain ⟨system,-,rfl⟩ := List.mem_map.mp member; exact full [system]) key
    exact get?_ext (full systems key) full' (fun info =>
      (mem_singles casing catalogue systems key info).symm.trans (union info).symm)
  · refine ⟨_,systemsByAppStream_group casing catalogue (parsed other (fun _ => order.mem_iff.mp)),
      fun key => get?_ext (full other key) (full systems key) (fun info => ?_)⟩
    refine (mem_mappingOf casing catalogue other key info).trans
      (Iff.trans ?_ (mem_mappingOf casing catalogue systems key info).symm)
    exact exists_congr (fun system => and_congr_left (fun _ => order.mem_iff))

end PerHost

private def nodejs18 : AppStreamEntity := {
  name := "nodejs",displayName := "Node.js 18",applicationStreamName := "Node.js 18"
  applicationStreamType := some .stream,stream := "18",startDate := some (.mk 2022 11 15)
  endDate := some (.mk 2025 4 30),impl := .module,initialProductVersion := some "9.1"
  osMajor := some 9,osMinor := some 1}

private def nodejsCatalogue : Catalogue :=
  ⟨[nodejs18],.empty,Dict.empty.set ("nodejs",9,"18") {"nodejs","npm"}⟩

private def nodejsHost (id : Nat) (status packages : List String) : HostRowWithPackages :=
  ⟨⟨⟨id⟩,"host",some "RHEL",some 9,some 4,none,none⟩,some [⟨"nodejs","18",some status⟩],some packages⟩

theorem one_pass_per_host_nodejs :
    let systems := [nodejsHost 1 ["installed"] [],nodejsHost 2 ["enabled"] ["npm-1:8.19.2-1.el9.x86_64"]]
    ∃ whole singles, systemsByAppStream .ascii nodejsCatalogue systems = .ok whole ∧
      systems.mapM (fun system => systemsByAppStream .ascii nodejsCatalogue [system]) = .ok singles ∧
      (∀ key, whole.get? key = unionAt singles key) ∧
      ∀ other, other.Perm systems → ∃ same, systemsByAppStream .ascii nodejsCatalogue other = .ok same ∧
        ∀ key, same.get? key = whole.get? key := by
  intro systems
  have formed : ∀ system ∈ systems, WellFormedPackages system := by
    intro system present
    simp only [systems,List.mem_cons,List.not_mem_nil,or_false] at present
    rcases present with rfl | rfl
    · exact fun package listed => nomatch listed
    · intro package listed
      rw [List.mem_singleton.mp listed]
      exact ⟨_,rfl⟩
  exact one_pass_per_host .ascii nodejsCatalogue systems formed

end Roadmap
