import Roadmap.AppStreams.PerHost

/-! Which modules of a host count as used: the checks of the scan, the shared cache and the
verification of enabled modules, as one condition on a listed module. -/
namespace Roadmap
open Dict

section Attribution

variable (casing : Casing) (catalogue : Catalogue)

def Tracked (moduleName : String) (osMajor : Int) : Prop :=
  ∃ asm ∈ catalogue.appStreamModules, asm.name = moduleName ∧ asm.osMajor = some osMajor

/-- No module of another name lists the package on the major version. -/
def Unshared (moduleName : String) (osMajor : Int) (pkg : String) : Prop :=
  ∀ entry ∈ catalogue.modulePackages.items, entry.1.2.1 = osMajor → pkg ∈ entry.2 → entry.1.1 = moduleName

instance (moduleName : String) (osMajor : Int) (pkg : String) :
    Decidable (Unshared catalogue moduleName osMajor pkg) :=
  inferInstanceAs (Decidable (∀ entry ∈ catalogue.modulePackages.items, _ → _ → _))

/-- Known packages of the module are installed, and not only shared ones, unless the package
that bears the module's name is. -/
def PackagesInstalled (cacheKey : ModuleKey) (installedPackageNames : Finset String) : Prop :=
  ∃ expected, catalogue.modulePackages.get? cacheKey = some expected ∧ expected ≠ ∅ ∧
    (∃ pkg ∈ expected, pkg ∈ installedPackageNames) ∧
    ((∃ pkg ∈ expected, pkg ∈ installedPackageNames ∧ Unshared catalogue cacheKey.1 cacheKey.2.1 pkg) ∨
      cacheKey.1 ∈ installedPackageNames)

structure InUse (osMajor : Int) (installedPackageNames : Finset String) (dnfModule : DnfModule) :
    Prop where
  notPerl : Text.contains "perl" (casing.casefold dnfModule.name) = false
  tracked : Tracked catalogue dnfModule.name osMajor
  dated : ∃ entry, findModule catalogue (dnfModule.name,osMajor,dnfModule.stream) = some entry ∧
    entry.startDate.isSome
  status : ("enabled" ∈ dnfModule.status.getD [] ∨ "installed" ∈ dnfModule.status.getD []) ∨
    9 ≤ osMajor ∧ dnfModule.status.getD [] = []
  packages : "enabled" ∈ dnfModule.status.getD [] →
    PackagesInstalled catalogue (dnfModule.name,osMajor,dnfModule.stream) installedPackageNames

theorem tracked_iff (moduleName : String) (osMajor : Int) :
    some osMajor ∈ (catalogue.osMajorsByAppName.get? moduleName).getD ∅ ↔
      Tracked catalogue moduleName osMajor := by
  rw [Catalogue.osMajorsByAppName,get?_group_addTo]
  have listed : ∀ item, item ∈ itemsAt (catalogue.appStreamModules.map (fun asm => (asm.name,asm.osMajor)))
      moduleName ↔ ∃ asm ∈ catalogue.appStreamModules, asm.name = moduleName ∧ asm.osMajor = item := by
    intro item
    simp
  split
  next empty =>
    rw [List.isEmpty_iff] at empty
    simp only [empty,List.not_mem_nil,false_iff] at listed
    simpa [Tracked] using listed (some osMajor)
  next => rw [Option.getD_some,List.mem_toFinset,listed,Tracked]

theorem omitted_iff (osMajor : Int) (dnfModule : DnfModule) :
    omitted casing catalogue osMajor dnfModule = false ↔
      Text.contains "perl" (casing.casefold dnfModule.name) = false ∧
      Tracked catalogue dnfModule.name osMajor ∧
      (("enabled" ∈ dnfModule.status.getD [] ∨ "installed" ∈ dnfModule.status.getD []) ∨
        9 ≤ osMajor ∧ dnfModule.status.getD [] = []) := by
  rw [← tracked_iff]
  simp only [omitted,Bool.or_eq_false_iff,decide_eq_false_iff_not,not_not,and_assoc]
  refine and_congr_right (fun _ => and_congr_right (fun _ => ?_))
  by_cases early : osMajor ≤ 8
  · have late : ¬ 9 ≤ osMajor := by omega
    simp only [early,late,if_true,Bool.not_eq_false',decide_eq_true_eq,false_and,or_false]
  · have late : 9 ≤ osMajor := by omega
    simp only [early,late,if_false,Bool.and_eq_false_iff,Bool.not_eq_false',decide_eq_true_eq,
      List.isEmpty_iff,true_and,or_comm]

theorem pendingOf_iff (cacheKey : ModuleKey) (pending : AppStreamKey × Finset String) :
    pendingOf catalogue cacheKey = some pending ↔
      catalogue.modulePackages.get? cacheKey = some pending.2 ∧ pending.2 ≠ ∅ ∧
      ∃ entry, findModule catalogue cacheKey = some entry ∧ entry.startDate.isSome ∧
        pending.1 = ⟨cacheKey.1,entry⟩ := by
  constructor
  · intro found
    unfold pendingOf at found
    split at found
    · contradiction
    next expected listed =>
      split at found
      · contradiction
      next nonempty =>
        split at found
        next entry read =>
          split at found
          next dated =>
            cases found
            exact ⟨listed,nonempty,entry,read,dated,rfl⟩
          · contradiction
        · contradiction
  · rintro ⟨listed,nonempty,entry,read,dated,same⟩
    obtain ⟨key,expected⟩ := pending
    subst same
    simp only [pendingOf,listed,read,dated,if_true]
    exact if_neg nonempty

/-- The module lists each of its packages, so a package has one owner where no other module
lists it. -/
theorem unshared_iff {cacheKey : ModuleKey} {expected : Finset String} {pkg : String}
    (listed : catalogue.modulePackages.get? cacheKey = some expected) (member : pkg ∈ expected) :
    ¬ 1 < (catalogue.owners cacheKey.2.1 pkg).toFinset.card ↔
      Unshared catalogue cacheKey.1 cacheKey.2.1 pkg := by
  have owners : ∀ owner, owner ∈ (catalogue.owners cacheKey.2.1 pkg).toFinset ↔
      ∃ entry ∈ catalogue.modulePackages.items,
        (entry.1.2.1 = cacheKey.2.1 ∧ pkg ∈ entry.2) ∧ entry.1.1 = owner := by
    intro owner
    simp [Catalogue.owners,and_assoc]
  have own : cacheKey.1 ∈ (catalogue.owners cacheKey.2.1 pkg).toFinset :=
    (owners _).mpr ⟨(cacheKey,expected),(mem_items _ _).mpr listed,⟨rfl,member⟩,rfl⟩
  rw [Nat.not_lt,Finset.card_le_one_iff_subset_singleton]
  constructor
  · rintro ⟨only,inside⟩ entry present major lists
    have other := (owners entry.1.1).mpr ⟨entry,present,⟨major,lists⟩,rfl⟩
    rw [Finset.mem_singleton.mp (inside other),Finset.mem_singleton.mp (inside own)]
  · intro unshared
    refine ⟨cacheKey.1,fun owner present => ?_⟩
    obtain ⟨entry,inside,⟨major,lists⟩,rfl⟩ := (owners owner).mp present
    exact Finset.mem_singleton.mpr (unshared entry inside major lists)

theorem verified_iff {cacheKey : ModuleKey} {key : AppStreamKey} {expected : Finset String}
    (listed : catalogue.modulePackages.get? cacheKey = some expected) (nonempty : expected ≠ ∅)
    (installed : Finset String) : verified catalogue installed (cacheKey,key,expected) = true ↔
      PackagesInstalled catalogue cacheKey installed := by
  have some_installed : expected ∩ installed ≠ ∅ ↔ ∃ pkg ∈ expected, pkg ∈ installed := by
    rw [← Finset.nonempty_iff_ne_empty]
    exact exists_congr (fun pkg => Finset.mem_inter)
  have some_unshared : (expected ∩ installed) \
        catalogue.sharedPackageNames cacheKey.2.1 (expected ∩ installed) ≠ ∅ ↔
      ∃ pkg ∈ expected, pkg ∈ installed ∧ Unshared catalogue cacheKey.1 cacheKey.2.1 pkg := by
    rw [← Finset.nonempty_iff_ne_empty]
    refine exists_congr (fun pkg => ?_)
    simp only [Catalogue.sharedPackageNames,Finset.mem_sdiff,Finset.mem_inter,Finset.mem_filter]
    constructor
    · rintro ⟨⟨member,present⟩,alone⟩
      refine ⟨member,present,(unshared_iff catalogue listed member).mp (fun shared => ?_)⟩
      exact alone ⟨⟨member,present⟩,shared⟩
    · rintro ⟨member,present,alone⟩
      exact ⟨⟨member,present⟩,fun shared => (unshared_iff catalogue listed member).mpr alone shared.2⟩
  simp only [verified,Bool.and_eq_true,Bool.or_eq_true,Bool.not_eq_true',decide_eq_false_iff_not,
    decide_eq_true_eq,some_installed,some_unshared]
  constructor
  · exact fun checked => ⟨expected,listed,nonempty,checked⟩
  · rintro ⟨other,found,-,checked⟩
    cases listed.symm.trans found
    exact checked

/-! The streams of one module. -/

theorem includedStream_iff (osMajor : Int) (dnfModule : DnfModule) (stream : AppStreamKey) :
    includedStream casing catalogue osMajor dnfModule = some stream ↔
      omitted casing catalogue osMajor dnfModule = false ∧ "enabled" ∉ dnfModule.status.getD [] ∧
      ∃ entry, findModule catalogue (dnfModule.name,osMajor,dnfModule.stream) = some entry ∧
        entry.startDate.isSome ∧ stream = ⟨dnfModule.name,entry⟩ := by
  unfold includedStream
  by_cases dropped : omitted casing catalogue osMajor dnfModule
  · simp [dropped]
  by_cases enabled : "enabled" ∈ dnfModule.status.getD []
  · simp [enabled]
  simp only [dropped,enabled,Bool.false_eq_true,if_false,not_false_eq_true,true_and]
  cases found : findModule catalogue (dnfModule.name,osMajor,dnfModule.stream) with
  | none =>
    have undated : (moduleKeyOf casing catalogue
        (dnfModule.name,osMajor,dnfModule.stream)).appStreamEntity.startDate = none := by
      rw [moduleKeyOf,found]
      rfl
    simp [undated]
  | some entry =>
    have key : moduleKeyOf casing catalogue (dnfModule.name,osMajor,dnfModule.stream) =
        ⟨dnfModule.name,entry⟩ := by
      rw [moduleKeyOf,found]
      rfl
    rw [key]
    split
    next dated =>
      constructor
      · exact fun same => ⟨entry,rfl,dated,(Option.some.inj same).symm⟩
      · rintro ⟨_,⟨⟩,-,rfl⟩
        rfl
    next undated =>
      constructor
      · exact nofun
      · rintro ⟨_,⟨⟩,dated,-⟩
        exact absurd dated undated

theorem pendingStream_iff (osMajor : Int) (dnfModule : DnfModule)
    (pending : ModuleKey × AppStreamKey × Finset String) :
    pendingStream casing catalogue osMajor dnfModule = some pending ↔
      omitted casing catalogue osMajor dnfModule = false ∧ "enabled" ∈ dnfModule.status.getD [] ∧
      pending.1 = (dnfModule.name,osMajor,dnfModule.stream) ∧
      pendingOf catalogue pending.1 = some pending.2 := by
  obtain ⟨cacheKey,waiting⟩ := pending
  unfold pendingStream
  by_cases dropped : omitted casing catalogue osMajor dnfModule
  · simp [dropped]
  by_cases enabled : "enabled" ∈ dnfModule.status.getD []
  · simp only [dropped,enabled,Bool.false_eq_true,if_true,if_false,true_and,Option.map_eq_some_iff,
      Prod.mk.injEq]
    constructor
    · rintro ⟨_,found,rfl,rfl⟩
      exact ⟨rfl,found⟩
    · rintro ⟨rfl,found⟩
      exact ⟨waiting,found,rfl,rfl⟩
  · simp [enabled]

/-- A module brings its stream to the host, included or verified, exactly when it is in use. -/
theorem module_stream (osMajor : Int) (installed : Finset String) (dnfModule : DnfModule)
    (key : AppStreamKey) :
    ((∃ stream, includedStream casing catalogue osMajor dnfModule = some stream ∧ (stream == key) = true) ∨
      ∃ pending, pendingStream casing catalogue osMajor dnfModule = some pending ∧
        verified catalogue installed pending = true ∧ (pending.2.1 == key) = true) ↔
    ∃ entry, findModule catalogue (dnfModule.name,osMajor,dnfModule.stream) = some entry ∧
      entry.identity = key.identity ∧ InUse casing catalogue osMajor installed dnfModule := by
  simp only [includedStream_iff,pendingStream_iff,omitted_iff,AppStreamKey.beq_iff]
  constructor
  · rintro (⟨_,⟨⟨notPerl,tracked,status⟩,enabled,entry,found,dated,rfl⟩,same⟩ |
      ⟨⟨_,stream,expected⟩,⟨⟨notPerl,tracked,status⟩,enabled,rfl,listed⟩,checked,same⟩)
    · exact ⟨entry,found,same,notPerl,tracked,⟨entry,found,dated⟩,status,fun present => absurd present enabled⟩
    · obtain ⟨known,nonempty,entry,found,dated,here⟩ := (pendingOf_iff catalogue _ _).mp listed
      change stream = ⟨dnfModule.name,entry⟩ at here
      subst here
      have packages := (verified_iff catalogue known nonempty installed).mp checked
      exact ⟨entry,found,same,notPerl,tracked,⟨entry,found,dated⟩,status,fun _ => packages⟩
  · rintro ⟨entry,found,same,used⟩
    obtain ⟨other,found',dated⟩ := used.dated
    cases found.symm.trans found'
    by_cases enabled : "enabled" ∈ dnfModule.status.getD []
    · right
      obtain ⟨expected,known,nonempty,checked⟩ := used.packages enabled
      have listed := (pendingOf_iff catalogue (dnfModule.name,osMajor,dnfModule.stream)
        (⟨dnfModule.name,entry⟩,expected)).mpr ⟨known,nonempty,entry,found,dated,rfl⟩
      exact ⟨(_,⟨dnfModule.name,entry⟩,expected),⟨⟨used.notPerl,used.tracked,used.status⟩,enabled,rfl,listed⟩,
        (verified_iff catalogue known nonempty installed).mpr (used.packages enabled),same⟩
    · left
      exact ⟨_,⟨⟨used.notPerl,used.tracked,used.status⟩,enabled,entry,found,dated,rfl⟩,same⟩

def installedPackageNames (system : HostRowWithPackages) : Finset String :=
  ((system.packages.getD []).map NEVRA.nameOf).toFinset

/-- The streams of a host's modules, whichever of equal keys the scan keeps. -/
theorem exists_hostStreams (system : HostRowWithPackages) (osMajor : Int) (key : AppStreamKey) :
    (∃ stream ∈ hostStreams casing catalogue system osMajor, (stream == key) = true) ↔
      ∃ dnfModule ∈ system.dnfModules.getD [], ∃ entry,
        findModule catalogue (dnfModule.name,osMajor,dnfModule.stream) = some entry ∧
        entry.identity = key.identity ∧
        InUse casing catalogue osMajor (installedPackageNames system) dnfModule := by
  obtain ⟨-,streams,pending⟩ := appStreamsFromModules_group casing catalogue (system.dnfModules.getD [])
    osMajor (cacheSound_empty casing catalogue)
  have agree : ∀ one ∈ (system.dnfModules.getD []).filterMap (pendingStream casing catalogue osMajor),
      ∀ two ∈ (system.dnfModules.getD []).filterMap (pendingStream casing catalogue osMajor),
      one.1 = two.1 → one.2 = two.2 := by
    intro one first two second same
    obtain ⟨_,_,found⟩ := List.mem_filterMap.mp first
    obtain ⟨_,_,found'⟩ := List.mem_filterMap.mp second
    have value := ((pendingStream_iff casing catalogue osMajor _ one).mp found).2.2.2
    have value' := ((pendingStream_iff casing catalogue osMajor _ two).mp found').2.2.2
    rw [same] at value
    exact Option.some.inj (value.symm.trans value')
  simp only [← module_stream,and_or_left,exists_or,hostStreams,List.mem_append,or_and_right]
  apply or_congr
  · rw [streams,exists_keys_group]
    simp only [List.mem_map,List.mem_filterMap]
    constructor
    · rintro ⟨_,⟨stream,⟨dnfModule,listed,found⟩,rfl⟩,same⟩
      exact ⟨dnfModule,listed,stream,found,same⟩
    · rintro ⟨dnfModule,listed,stream,found,same⟩
      exact ⟨_,⟨stream,⟨dnfModule,listed,found⟩,rfl⟩,same⟩
  · rw [pending]
    simp only [List.mem_map,List.mem_filter,mem_items_assign agree,List.mem_filterMap]
    constructor
    · rintro ⟨_,⟨waiting,⟨⟨dnfModule,listed,found⟩,checked⟩,rfl⟩,same⟩
      exact ⟨dnfModule,listed,waiting,found,checked,same⟩
    · rintro ⟨dnfModule,listed,waiting,found,checked,same⟩
      exact ⟨_,⟨waiting,⟨⟨dnfModule,listed,found⟩,checked⟩,rfl⟩,same⟩

/-! The scan of one host after any others. -/

theorem scanSystem_sound {scan next : Scan} (sound : CacheSound casing catalogue scan.moduleCache)
    (system : HostRowWithPackages) (ran : scanSystem casing catalogue scan system = .ok next) :
    CacheSound casing catalogue next.moduleCache := by
  unfold scanSystem at ran
  split at ran
  · cases ran
    exact sound
  · obtain ⟨_,-,later⟩ := Except.bind_ok.mp ran
    cases later
    exact (appStreamsFromModules_group casing catalogue _ _ sound).1

/-- Whatever hosts came before, the scan of a host adds it at the streams of the modules in
use on it, and nowhere else. -/
theorem scanSystem_modules {earlier : List HostRowWithPackages} {scan : Scan}
    (scanned : earlier.foldlM (scanSystem casing catalogue) ⟨.empty,.empty,.empty⟩ = .ok scan)
    {system : HostRowWithPackages} (formed : WellFormedPackages system) {info : SystemInfo}
    (recorded : hostInfo system = some info) :
    ∃ next, scanSystem casing catalogue scan system = .ok next ∧ ∀ key other,
      other ∈ next.systemsByStream.heldAt key ↔ other ∈ scan.systemsByStream.heldAt key ∨
        other = info ∧ ∃ dnfModule ∈ system.dnfModules.getD [], ∃ entry,
          findModule catalogue (dnfModule.name,info.osMajor,dnfModule.stream) = some entry ∧
          entry.identity = key.identity ∧
          InUse casing catalogue info.osMajor (installedPackageNames system) dnfModule := by
  have sound : CacheSound casing catalogue scan.moduleCache :=
    Except.foldlM_keeps (fun scan : Scan => CacheSound casing catalogue scan.moduleCache)
      (fun _ system _ sound ran => scanSystem_sound casing catalogue sound system ran)
      (cacheSound_empty casing catalogue) scanned
  obtain ⟨cache,-,ran⟩ := scanSystem_group casing catalogue sound system (fun _ => formed)
  refine ⟨_,ran,fun key other => ?_⟩
  rw [mem_heldAt_group,← exists_hostStreams,moduleEvents,recorded,Option.elim_some]
  refine or_congr_right ?_
  simp only [List.mem_map]
  constructor
  · rintro ⟨_,⟨stream,listed,rfl⟩,same,inside⟩
    exact ⟨Finset.mem_singleton.mp inside,stream,listed,same⟩
  · rintro ⟨rfl,stream,listed,same⟩
    exact ⟨_,⟨stream,listed,rfl⟩,same,Finset.mem_singleton_self _⟩

/-- The catalogue entry of a module stands for its stream: the scan adds a host at it exactly
when a listed module of the same stream is in use, which is that module where no other entry
of the major version shares the stream. -/
theorem module_attribution {earlier : List HostRowWithPackages} {scan : Scan}
    (scanned : earlier.foldlM (scanSystem casing catalogue) ⟨.empty,.empty,.empty⟩ = .ok scan)
    {system : HostRowWithPackages} (formed : WellFormedPackages system) {info : SystemInfo}
    (recorded : hostInfo system = some info) :
    ∃ next, scanSystem casing catalogue scan system = .ok next ∧ ∀ moduleName stream entry,
      findModule catalogue (moduleName,info.osMajor,stream) = some entry → ∀ other,
      (other ∈ next.systemsByStream.heldAt ⟨moduleName,entry⟩ ↔
        other ∈ scan.systemsByStream.heldAt ⟨moduleName,entry⟩ ∨ other = info ∧
          ∃ dnfModule ∈ system.dnfModules.getD [], ∃ same,
            findModule catalogue (dnfModule.name,info.osMajor,dnfModule.stream) = some same ∧
            same.identity = entry.identity ∧
            InUse casing catalogue info.osMajor (installedPackageNames system) dnfModule) ∧
      ((∀ otherName otherStream same,
          findModule catalogue (otherName,info.osMajor,otherStream) = some same →
          same.identity = entry.identity → otherName = moduleName ∧ otherStream = stream) →
        (other ∈ next.systemsByStream.heldAt ⟨moduleName,entry⟩ ↔
          other ∈ scan.systemsByStream.heldAt ⟨moduleName,entry⟩ ∨ other = info ∧
            ∃ dnfModule ∈ system.dnfModules.getD [],
              (dnfModule.name = moduleName ∧ dnfModule.stream = stream) ∧
              InUse casing catalogue info.osMajor (installedPackageNames system) dnfModule)) := by
  obtain ⟨next,ran,members⟩ := scanSystem_modules casing catalogue scanned formed recorded
  refine ⟨next,ran,fun moduleName stream entry found other => ⟨members _ other,fun alone => ?_⟩⟩
  rw [members]
  refine or_congr_right (and_congr_right (fun _ => exists_congr (fun dnfModule => and_congr_right (fun _ => ?_))))
  constructor
  · rintro ⟨same,listed,equal,used⟩
    exact ⟨alone _ _ same listed equal,used⟩
  · rintro ⟨⟨rfl,rfl⟩,used⟩
    exact ⟨entry,found,rfl,used⟩

end Attribution

private def ruby31 (name : String) : AppStreamEntity := {
  name := name,displayName := "Ruby 3.1",applicationStreamName := "Ruby 3.1"
  applicationStreamType := some .stream,stream := "3.1",startDate := some (.mk 2022 11 15)
  endDate := some (.mk 2025 3 31),impl := .module,initialProductVersion := some "9.1"
  osMajor := some 9,osMinor := some 1}

private def rubyCatalogue : Catalogue :=
  ⟨[ruby31 "ruby",ruby31 "ruby-devel"],.empty,Dict.empty.set ("ruby-devel",9,"3.1") {"ruby-libs","rubygems"}⟩

private def rubyHost : HostRowWithPackages :=
  ⟨⟨⟨1⟩,"host",some "RHEL",some 9,some 4,none,none⟩,some [⟨"ruby-devel","3.1",some ["enabled"]⟩],
    some ["rubygems-0:3.3.7-162.el9.noarch"]⟩

private theorem rubyDevel_inUse : InUse .ascii rubyCatalogue 9 (installedPackageNames rubyHost)
    ⟨"ruby-devel","3.1",some ["enabled"]⟩ where
  notPerl := by decide
  tracked := ⟨ruby31 "ruby-devel",by decide,rfl,rfl⟩
  dated := ⟨ruby31 "ruby-devel",by decide,rfl⟩
  status := by decide
  packages := by
    intro _
    refine ⟨{"ruby-libs","rubygems"},by decide,by decide,⟨"rubygems",by decide,by decide⟩,Or.inl ?_⟩
    exact ⟨"rubygems",by decide,by decide,by decide⟩

theorem module_attribution_ruby : ∃ next,
    scanSystem .ascii rubyCatalogue ⟨.empty,.empty,.empty⟩ rubyHost = .ok next ∧
    ⟨⟨1⟩,"host",9,some 4⟩ ∈ next.systemsByStream.heldAt ⟨"ruby-devel",ruby31 "ruby-devel"⟩ := by
  have formed : WellFormedPackages rubyHost := by
    intro package listed
    rw [List.mem_singleton.mp listed]
    exact ⟨_,rfl⟩
  obtain ⟨next,ran,members⟩ := @module_attribution .ascii rubyCatalogue [] ⟨.empty,.empty,.empty⟩ rfl
    rubyHost formed ⟨⟨1⟩,"host",9,some 4⟩ rfl
  have found : findModule rubyCatalogue ("ruby-devel",9,"3.1") = some (ruby31 "ruby-devel") := by decide
  refine ⟨next,ran,(members "ruby-devel" "3.1" _ found _).1.mpr (Or.inr ⟨rfl,?_⟩)⟩
  exact ⟨_,List.mem_singleton.mpr rfl,_,found,rfl,rubyDevel_inUse⟩

/-- A module that shares its stream with another is taken for both. -/
theorem shared_stream_attributed : ∃ next,
    scanSystem .ascii rubyCatalogue ⟨.empty,.empty,.empty⟩ rubyHost = .ok next ∧
    findModule rubyCatalogue ("ruby",9,"3.1") = some (ruby31 "ruby") ∧
    ⟨⟨1⟩,"host",9,some 4⟩ ∈ next.systemsByStream.heldAt ⟨"ruby",ruby31 "ruby"⟩ ∧
    ¬ ∃ dnfModule ∈ rubyHost.dnfModules.getD [], (dnfModule.name = "ruby" ∧ dnfModule.stream = "3.1") ∧
      InUse .ascii rubyCatalogue 9 (installedPackageNames rubyHost) dnfModule := by
  refine ⟨_,rfl,by decide,by decide,?_⟩
  rintro ⟨dnfModule,listed,⟨named,-⟩,-⟩
  rw [List.mem_singleton.mp listed] at named
  exact absurd named (by decide)

end Roadmap
