import Roadmap.AppStreams.Rows

/-! Which streams are related to the installed ones, as a condition on their entities. -/
namespace Roadmap
open Dict

section Newer

variable (casing : Casing) (today : Date)

/-- A later stream for the same RHEL version. -/
def NewerStream (installed app : AppStreamEntity) : Prop :=
  (∃ major, major ≠ 0 ∧ app.osMajor = some major ∧ installed.osMajor = some major) ∧
    installed.stream ≠ "" ∧ app.stream ≠ "" ∧ streamsLt casing installed.stream app.stream = true

/-- A stream for a later RHEL version that started later. -/
def NewerVersion (installed app : AppStreamEntity) : Prop :=
  (∃ installedMajor major, installed.osMajor = some installedMajor ∧ installedMajor ≠ 0 ∧
    app.osMajor = some major ∧ installedMajor < major) ∧
  ∃ installedStart start, installed.startDate = some installedStart ∧ app.startDate = some start ∧
    installedStart < start

def NotEol (app : AppStreamEntity) : Prop := ∀ endDate, app.endDate = some endDate → today < endDate

theorem isNotEol_iff (app : AppStreamEntity) : isNotEol today app = true ↔ NotEol today app := by
  rw [isNotEol,NotEol]
  cases app.endDate <;> simp

theorem shouldAddSameRhelVersion_iff (app installed : AppStreamEntity) :
    shouldAddSameRhelVersion casing today app installed = true ↔
      (installed.stream ≠ "" ∧ app.stream ≠ "" ∧ streamsLt casing installed.stream app.stream = true) ∧
        NotEol today app := by
  rw [shouldAddSameRhelVersion,← isNotEol_iff]
  by_cases unnamed : app.stream = "" ∨ installed.stream = ""
  · rcases unnamed with missing | missing <;> simp [missing]
  · rw [if_neg unnamed,Bool.and_eq_true]
    obtain ⟨named,installedNamed⟩ := not_or.mp unnamed
    simp [named,installedNamed]

theorem shouldAddNewerRhelVersion_iff (app installed : AppStreamEntity) :
    shouldAddNewerRhelVersion today app installed = true ↔
      (∃ installedStart start, installed.startDate = some installedStart ∧ app.startDate = some start ∧
        installedStart < start) ∧ NotEol today app := by
  rw [shouldAddNewerRhelVersion,← isNotEol_iff]
  cases app.startDate <;> cases installed.startDate <;> simp

/-- A missing or zero version of either side suggests nothing. -/
theorem suggests_iff (installed app : AppStreamEntity) :
    suggests casing today installed app = true ↔
      baseName app.applicationStreamName = baseName installed.applicationStreamName ∧
        (NewerStream casing installed app ∨ NewerVersion installed app ∧ app.osMajor ≠ some 0) ∧
          NotEol today app := by
  rw [suggests,Bool.and_eq_true,decide_eq_true_eq]
  refine and_congr_right (fun _ => ?_)
  split
  next major installedMajor known installedKnown =>
    obtain ⟨version,nonzero⟩ := Option.filter_eq_some_iff.mp known
    obtain ⟨installedVersion,installedNonzero⟩ := Option.filter_eq_some_iff.mp installedKnown
    simp only [decide_not,Bool.not_eq_true',decide_eq_false_iff_not] at nonzero installedNonzero
    by_cases same : major = installedMajor
    · rw [if_pos same,shouldAddSameRhelVersion_iff]
      simp [NewerStream,NewerVersion,version,installedVersion,same,installedNonzero]
    · rw [if_neg same]
      by_cases later : installedMajor < major
      · rw [if_pos later,shouldAddNewerRhelVersion_iff]
        simp [NewerStream,NewerVersion,version,installedVersion,same,later,nonzero,installedNonzero]
      · rw [if_neg later]
        simp [NewerStream,NewerVersion,version,installedVersion,same,later]
  next missing =>
    have unknown : ∀ major installedMajor, app.osMajor = some major → installed.osMajor = some installedMajor →
        major ≠ 0 → installedMajor ≠ 0 → False := by
      intro major installedMajor version installedVersion nonzero installedNonzero
      exact missing major installedMajor (by simp [version,nonzero]) (by simp [installedVersion,installedNonzero])
    simp only [Bool.false_eq_true,false_iff,not_and]
    rintro (⟨⟨major,nonzero,version,installedVersion⟩,_⟩ |
      ⟨⟨⟨installedMajor,major,installedVersion,installedNonzero,version,_⟩,_⟩,known⟩)
    · exact (unknown major major version installedVersion nonzero nonzero).elim
    · exact (unknown major installedMajor version installedVersion
        (fun zero => known (zero ▸ version)) installedNonzero).elim

variable (catalogue : Catalogue)

/-- The identity is that of no installed key, and an entry of it that has not reached its end
is newer than an installed stream of the same product. -/
def RelatedBy (newer : (installed app : AppStreamEntity) → Prop) (appStreams : List AppStreamKey)
    (identity : StreamIdentity) : Prop :=
  (∀ installed ∈ appStreams, installed.identity ≠ identity) ∧
    ∃ app ∈ catalogue.modulesPackages, app.identity = identity ∧ (∃ installed ∈ appStreams,
      baseName app.applicationStreamName = baseName installed.appStreamEntity.applicationStreamName ∧
        newer installed.appStreamEntity app) ∧ NotEol today app

def Newer (installed app : AppStreamEntity) : Prop :=
  NewerStream casing installed app ∨ NewerVersion installed app ∧ app.osMajor ≠ some 0

/-- Both relations as they read without the check that the version of the entry is not 0. -/
def NewerUnchecked (installed app : AppStreamEntity) : Prop :=
  NewerStream casing installed app ∨ NewerVersion installed app

theorem mem_relatedAppStreams (appStreams : List AppStreamKey) (identity : StreamIdentity) :
    (∃ key ∈ relatedAppStreams casing today catalogue appStreams, key.identity = identity) ↔
      RelatedBy today catalogue (Newer casing) appStreams identity := by
  rw [relatedAppStreams_eq]
  constructor
  · rintro ⟨key,listed,rfl⟩
    obtain ⟨member,unused⟩ := List.mem_filter.mp listed
    obtain ⟨source,inside,suggested⟩ := List.mem_flatMap.mp (mem_of_mem_eraseDups member)
    obtain ⟨app,found,rfl⟩ := List.mem_map.mp suggested
    obtain ⟨present,suggests⟩ := List.mem_filter.mp found
    obtain ⟨base,newer,current⟩ := (suggests_iff casing today _ app).mp suggests
    refine ⟨fun installed used same => ?_,app,present,rfl,⟨source,inside,base,newer⟩,current⟩
    simp only [Bool.not_eq_true',List.any_eq_false] at unused
    exact unused installed used ((AppStreamKey.beq_iff _ _).mpr same)
  · rintro ⟨unused,app,present,rfl,⟨source,inside,base,newer⟩,current⟩
    have suggested : (⟨source.name,app⟩ : AppStreamKey) ∈
        appStreams.flatMap (suggestions casing today catalogue) :=
      List.mem_flatMap.mpr ⟨source,inside,List.mem_map.mpr ⟨app,List.mem_filter.mpr ⟨present,
        (suggests_iff casing today _ app).mpr ⟨base,newer,current⟩⟩,rfl⟩⟩
    obtain ⟨kept,listed,equal⟩ := exists_eraseDups suggested
    have same : kept.identity = app.identity := (AppStreamKey.beq_iff _ _).mp equal
    refine ⟨kept,List.mem_filter.mpr ⟨listed,?_⟩,same⟩
    simp only [Bool.not_eq_true',List.any_eq_false]
    intro installed used again
    exact unused installed used (((AppStreamKey.beq_iff _ _).mp again).trans same)

theorem RelatedBy.perm {newer : (installed app : AppStreamEntity) → Prop}
    {appStreams reordered : List AppStreamKey} (same : appStreams.Perm reordered) (identity : StreamIdentity) :
    RelatedBy today catalogue newer appStreams identity ↔
      RelatedBy today catalogue newer reordered identity := by
  simp only [RelatedBy,same.mem_iff]

/-- The related keys are those of the newer entries, in whatever order the installed keys are
visited. -/
theorem related_sound_complete (appStreams : List AppStreamKey) :
    (∀ key : AppStreamKey, (∃ returned ∈ relatedAppStreams casing today catalogue appStreams,
        (returned == key) = true) ↔ RelatedBy today catalogue (Newer casing) appStreams key.identity) ∧
    ∀ reordered, appStreams.Perm reordered →
      ((relatedAppStreams casing today catalogue reordered).map (·.identity)).toFinset =
        ((relatedAppStreams casing today catalogue appStreams).map (·.identity)).toFinset := by
  refine ⟨fun key => ?_,fun reordered same => ?_⟩
  · simp only [AppStreamKey.beq_iff]
    exact mem_relatedAppStreams casing today catalogue appStreams key.identity
  · ext identity
    simp only [List.mem_toFinset,List.mem_map]
    rw [mem_relatedAppStreams,mem_relatedAppStreams,RelatedBy.perm today catalogue same]

end Newer

def rubyOf (stream : String) (osMajor : Int) (year : Int) (known : validDate year 1 1 = true) :
    AppStreamEntity where
  name := "ruby"
  displayName := "Ruby " ++ stream
  applicationStreamName := "Ruby " ++ stream
  stream := stream
  startDate := some ⟨year,1,1,known⟩
  impl := .module
  osMajor := some osMajor

def rubies (modules : List AppStreamEntity) : Catalogue := ⟨modules,.empty,.empty⟩

theorem related_sound_complete_ruby :
    ((relatedAppStreams .ascii ⟨2026,1,1,rfl⟩ (rubies [rubyOf "3.3" 9 2024 rfl])
        [⟨"ruby",rubyOf "3.1" 9 2022 rfl⟩,⟨"ruby",rubyOf "2.5" 8 2019 rfl⟩]).map (·.identity)).toFinset =
      ((relatedAppStreams .ascii ⟨2026,1,1,rfl⟩ (rubies [rubyOf "3.3" 9 2024 rfl])
        [⟨"ruby",rubyOf "2.5" 8 2019 rfl⟩,⟨"ruby",rubyOf "3.1" 9 2022 rfl⟩]).map (·.identity)).toFinset :=
  (related_sound_complete .ascii ⟨2026,1,1,rfl⟩ (rubies [rubyOf "3.3" 9 2024 rfl])
    [⟨"ruby",rubyOf "2.5" 8 2019 rfl⟩,⟨"ruby",rubyOf "3.1" 9 2022 rfl⟩]).2 _ (.swap _ _ _)

/-- An entry of version 0 is not related, although 0 is above the installed version. -/
theorem zero_version_unrelated :
    ¬ ∀ key : AppStreamKey, (∃ returned ∈ relatedAppStreams .ascii ⟨2026,1,1,rfl⟩
        (rubies [rubyOf "3.3" 0 2024 rfl]) [⟨"ruby",rubyOf "2.5" (-3) 2019 rfl⟩],(returned == key) = true) ↔
      RelatedBy ⟨2026,1,1,rfl⟩ (rubies [rubyOf "3.3" 0 2024 rfl]) (NewerUnchecked .ascii)
        [⟨"ruby",rubyOf "2.5" (-3) 2019 rfl⟩] key.identity := by
  intro claimed
  have nothing : relatedAppStreams .ascii ⟨2026,1,1,rfl⟩ (rubies [rubyOf "3.3" 0 2024 rfl])
      [⟨"ruby",rubyOf "2.5" (-3) 2019 rfl⟩] = [] := by
    have zero : (relatedAppStreams .ascii ⟨2026,1,1,rfl⟩ (rubies [rubyOf "3.3" 0 2024 rfl])
        [⟨"ruby",rubyOf "2.5" (-3) 2019 rfl⟩]).length = 0 := by decide
    exact List.length_eq_zero_iff.mp zero
  have newer : NewerVersion (rubyOf "2.5" (-3) 2019 rfl) (rubyOf "3.3" 0 2024 rfl) :=
    ⟨⟨-3,0,rfl,by decide,rfl,by decide⟩,_,_,rfl,rfl,by decide⟩
  obtain ⟨returned,listed,_⟩ := (claimed ⟨"ruby",rubyOf "3.3" 0 2024 rfl⟩).mpr
    ⟨by decide,rubyOf "3.3" 0 2024 rfl,by decide,rfl,
      ⟨_,List.mem_singleton_self _,by decide,Or.inr newer⟩,fun _ absent => by contradiction⟩
  rw [nothing] at listed
  exact List.not_mem_nil listed

end Roadmap
