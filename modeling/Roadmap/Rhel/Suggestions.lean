import Roadmap.Rhel.Batches
import Roadmap.SupportStatus

/-! The releases that the RHEL list suggests beside the installed ones, by the hosts and as the
days go by. -/
namespace Roadmap

def Runs (system : HostRow) (version : Int × Option Int) : Prop :=
  system.osName.isSome = true ∧ rhelMajorMinor system = some version

section Suggestions

variable (today : Date) (table : LifecycleTable) (systems : List HostRow)

/-- A release of the table that has not ended, that no host runs, and that comes after one that
some host runs, within its major version. -/
structure SuggestedRelease (release : RHELLifecycle) : Prop where
  filed : ∃ key, (key,release) ∈ table.dates.items
  current : today < release.endDate
  newer : ∃ system ∈ systems, ∃ minor, Runs system (release.major,minor) ∧
    minor.getD (-1) < release.minor.getD (-1)
  unused : ∀ system ∈ systems, ¬ Runs system (release.major,release.minor)

theorem counted_release (version : Int × Option Int) :
    (∃ host ∈ countedHosts systems, (host.1.major,host.1.minor) = version) ↔
      ∃ system ∈ systems, Runs system version := by
  constructor
  · rintro ⟨host,counted,rfl⟩
    obtain ⟨system,inside,⟨named,resolved,-⟩,-⟩ := (mem_countedHosts systems host).mp counted
    exact ⟨system,inside,by rw [named]; rfl,resolved⟩
  · rintro ⟨system,inside,named,resolved⟩
    obtain ⟨name,known⟩ := Option.isSome_iff_exists.mp named
    let countKey : HostCount := ⟨name,version.1,version.2,getLifecycleType (productsOr system.products)⟩
    refine ⟨(countKey,⟨system.id,system.displayName,version.1,version.2⟩),?_,rfl⟩
    exact (mem_countedHosts systems _).mpr ⟨system,inside,⟨known,resolved,rfl⟩,rfl⟩

theorem isRelated_iff (countKey : HostCount) (release : RHELLifecycle) :
    isRelated today countKey release = true ↔ release.major = countKey.major ∧
      countKey.minor.getD (-1) < release.minor.getD (-1) ∧ today < release.endDate := by
  rw [isRelated,decide_eq_true_eq]

theorem mem_suggestions (row : System) : row ∈ (relevantSystems today table true systems).related ↔
    ∃ release, SuggestedRelease today table systems release ∧ row = relatedSystem today release := by
  rw [mem_related]
  constructor
  · rintro ⟨entry,filed,same,⟨host,counted,related⟩,apart⟩
    obtain ⟨major,before,current⟩ := (isRelated_iff today host.1 entry.2).mp related
    obtain ⟨system,inside,runs⟩ := (counted_release systems _).mp ⟨host,counted,rfl⟩
    refine ⟨entry.2,⟨⟨entry.1,filed⟩,current,⟨system,inside,host.1.minor,?_,before⟩,?_⟩,same⟩
    · rw [major]
      exact runs
    · intro other listed same
      obtain ⟨used,known,version⟩ := (counted_release systems _).mpr ⟨other,listed,same⟩
      obtain ⟨sameMajor,sameMinor⟩ := Prod.mk.inj version
      apply apart used known
      rw [HostCount.key,sameMajor,sameMinor]
      exact (table.keyed entry filed).symm
  · rintro ⟨release,⟨⟨key,filed⟩,current,⟨system,inside,minor,runs,before⟩,unused⟩,same⟩
    obtain ⟨host,counted,version⟩ := (counted_release systems _).mpr ⟨system,inside,runs⟩
    obtain ⟨sameMajor,sameMinor⟩ := Prod.mk.inj version
    have related : isRelated today host.1 release = true := by
      refine (isRelated_iff today host.1 release).mpr ⟨sameMajor.symm,?_,current⟩
      rw [sameMinor]
      exact before
    refine ⟨(key,release),filed,same,⟨host,counted,related⟩,?_⟩
    intro used known equal
    have filedUnder : used.1.key = versionKey release.major release.minor := equal.trans (table.keyed _ filed)
    obtain ⟨other,listed,otherRuns⟩ := (counted_release systems _).mp ⟨used,known,rfl⟩
    obtain ⟨major,minor⟩ := versionKey_inj.mp filedUnder
    rw [major,minor] at otherRuns
    exact unused other listed otherRuns

/-- A suggested row has no hosts, so its status does not tell the day. -/
theorem relatedSystem_day (later : Date) (release : RHELLifecycle) :
    relatedSystem later release = relatedSystem today release := rfl

theorem suggestions_nodup : (relevantSystems today table true systems).related.Nodup :=
  List.Nodup.of_map _ (related_distinct today table systems)

/-- What is suggested later was suggested before, and has not ended since. -/
theorem suggested_later {later : Date} (ahead : today ≤ later) (release : RHELLifecycle) :
    SuggestedRelease later table systems release ↔
      SuggestedRelease today table systems release ∧ later < release.endDate := by
  constructor
  · rintro ⟨filed,current,newer,unused⟩
    exact ⟨⟨filed,Date.lt_of_le_of_lt ahead current,newer,unused⟩,current⟩
  · rintro ⟨⟨filed,_,newer,unused⟩,current⟩
    exact ⟨filed,current,newer,unused⟩

theorem suggestions_later {later : Date} (ahead : today ≤ later) :
    (relevantSystems later table true systems).related.Perm
      ((relevantSystems today table true systems).related.filter (fun row => row.endDate.isAfter later)) := by
  apply (List.perm_ext_iff_of_nodup (suggestions_nodup later table systems)
    ((suggestions_nodup today table systems).filter _)).mpr
  intro row
  rw [List.mem_filter,mem_suggestions,mem_suggestions]
  constructor
  · rintro ⟨release,suggested,same⟩
    obtain ⟨before,current⟩ := (suggested_later today table systems ahead release).mp suggested
    rw [relatedSystem_day today later] at same
    refine ⟨⟨release,before,same⟩,?_⟩
    rw [same]
    exact (LifecycleDate.isAfter_iff _ later).mpr ⟨release.endDate,rfl,current⟩
  · rintro ⟨⟨release,suggested,same⟩,after⟩
    rw [same] at after
    obtain ⟨endDate,dated,current⟩ := (LifecycleDate.isAfter_iff _ later).mp after
    cases dated
    refine ⟨release,(suggested_later today table systems ahead release).mpr ⟨suggested,current⟩,?_⟩
    rw [relatedSystem_day today later]
    exact same

/-- The related rows are the suggested releases, each once; as the days go by they lose the rows
whose end has come, and nothing else changes. -/
structure SuggestionRows : Prop where
  rows : ∀ row, row ∈ (relevantSystems today table true systems).related ↔
    ∃ release, SuggestedRelease today table systems release ∧ row = relatedSystem today release
  once : ((relevantSystems today table true systems).related.map System.version).Nodup
  later : ∀ later, today ≤ later → (relevantSystems later table true systems).related.Perm
    ((relevantSystems today table true systems).related.filter (fun row => row.endDate.isAfter later))

theorem rhel_suggestions : SuggestionRows today table systems :=
  ⟨mem_suggestions today table systems,related_distinct today table systems,
    fun _ => suggestions_later today table systems⟩

end Suggestions

end Roadmap
