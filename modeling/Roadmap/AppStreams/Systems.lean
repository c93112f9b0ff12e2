import Roadmap.AppStreams.Scan
import Roadmap.Pagination

/-! The v2 drill-down of application streams: the hosts of the streams of one name and RHEL
version, page by page. -/
namespace Roadmap

structure MatchedSystems where
  exactSystems : Option (Finset SystemInfo) := none
  wildcardSystems : Finset SystemInfo := ∅
  unionSystems : Finset SystemInfo := ∅

section Drilldown

variable (casing : Casing) (name : String) (osMajor : Int) (osMinor : Option Int)

/-- The list name or the short name is meant, and the major version is the one asked for. -/
def Asked (key : AppStreamKey) : Prop :=
  (casing.casefold key.name = casing.casefold name ∨
    casing.casefold key.appStreamEntity.name = casing.casefold name) ∧
  key.appStreamEntity.osMajor = some osMajor

instance (key : AppStreamKey) : Decidable (Asked casing name osMajor key) :=
  inferInstanceAs (Decidable (_ ∧ _))

def matchEntry (matched : MatchedSystems) (entry : AppStreamKey × Finset SystemInfo) : MatchedSystems :=
  let queryName := casing.casefold name
  let entity := entry.1.appStreamEntity
  if casing.casefold entry.1.name ≠ queryName ∧ casing.casefold entity.name ≠ queryName then matched
  else if entity.osMajor ≠ some osMajor then matched
  else if osMinor = none then {matched with unionSystems := matched.unionSystems ∪ entry.2}
  else if entity.osMinor = osMinor then
    {matched with exactSystems := some (matched.exactSystems.getD ∅ ∪ entry.2)}
  else if entity.osMinor = none then {matched with wildcardSystems := matched.wildcardSystems ∪ entry.2}
  else matched

/-- An exact minor version takes precedence over streams without one. -/
def matchingSystems (systemsByStream : SystemsByStream) : Finset SystemInfo :=
  let matched := systemsByStream.items.foldl (matchEntry casing name osMajor osMinor) {}
  if osMinor = none then matched.unionSystems
  else match matched.exactSystems with
    | some exactSystems => exactSystems
    | none => matched.wildcardSystems

def getAppStreamsSystemsV2 (order : SetOrder SystemInfo) (systemsByStream : SystemsByStream)
    (offset limit : Nat) (search : Option String) : PaginatedSystemsResponse :=
  paginate casing order (matchingSystems casing name osMajor osMinor systemsByStream) offset limit search

/-! What the loop gathers. -/

def HostOf (items : List (AppStreamKey × Finset SystemInfo)) (wanted : AppStreamKey → Prop)
    (info : SystemInfo) : Prop := ∃ entry ∈ items, wanted entry.1 ∧ info ∈ entry.2

theorem matchEntry_asked {entry : AppStreamKey × Finset SystemInfo}
    (asked : Asked casing name osMajor entry.1) (matched : MatchedSystems) :
    matchEntry casing name osMajor osMinor matched entry =
      if osMinor = none then {matched with unionSystems := matched.unionSystems ∪ entry.2}
      else if entry.1.appStreamEntity.osMinor = osMinor then
        {matched with exactSystems := some (matched.exactSystems.getD ∅ ∪ entry.2)}
      else if entry.1.appStreamEntity.osMinor = none then
        {matched with wildcardSystems := matched.wildcardSystems ∪ entry.2}
      else matched := by
  have named : ¬ (casing.casefold entry.1.name ≠ casing.casefold name ∧
      casing.casefold entry.1.appStreamEntity.name ≠ casing.casefold name) := by
    simpa only [not_and_or,not_not] using asked.1
  rw [matchEntry,if_neg named,if_neg (not_not.mpr asked.2)]

theorem matchEntry_other {entry : AppStreamKey × Finset SystemInfo}
    (other : ¬ Asked casing name osMajor entry.1) (matched : MatchedSystems) :
    matchEntry casing name osMajor osMinor matched entry = matched := by
  by_cases unnamed : casing.casefold entry.1.name ≠ casing.casefold name ∧
      casing.casefold entry.1.appStreamEntity.name ≠ casing.casefold name
  · rw [matchEntry,if_pos unnamed]
  · have major : entry.1.appStreamEntity.osMajor ≠ some osMajor := by
      intro same
      simp only [not_and_or,not_not] at unnamed
      exact other ⟨unnamed,same⟩
    rw [matchEntry,if_neg unnamed,if_pos major]

theorem union_gathered (items : List (AppStreamKey × Finset SystemInfo)) (matched : MatchedSystems)
    (info : SystemInfo) :
    info ∈ (items.foldl (matchEntry casing name osMajor none) matched).unionSystems ↔
      info ∈ matched.unionSystems ∨ HostOf items (Asked casing name osMajor) info := by
  induction items generalizing matched with
  | nil => simp [HostOf]
  | cons entry rest ih =>
    simp only [List.foldl_cons,ih,HostOf,List.exists_mem_cons_iff,← or_assoc]
    apply or_congr_left
    by_cases asked : Asked casing name osMajor entry.1
    · simp [matchEntry_asked casing name osMajor none asked,asked]
    · simp [matchEntry_other casing name osMajor none asked,asked]

/-- With a minor version: whether it was met, and the hosts gathered on either way. -/
theorem minor_gathered (minor : Int) (items : List (AppStreamKey × Finset SystemInfo))
    (matched : MatchedSystems) (info : SystemInfo) :
    let exactly := fun key => Asked casing name osMajor key ∧ key.appStreamEntity.osMinor = some minor
    let wildcard := fun key => Asked casing name osMajor key ∧ key.appStreamEntity.osMinor = none
    let last := items.foldl (matchEntry casing name osMajor (some minor)) matched
    (last.exactSystems.isSome ↔ matched.exactSystems.isSome ∨ ∃ entry ∈ items, exactly entry.1) ∧
      (info ∈ last.exactSystems.getD ∅ ↔ info ∈ matched.exactSystems.getD ∅ ∨ HostOf items exactly info) ∧
      (info ∈ last.wildcardSystems ↔ info ∈ matched.wildcardSystems ∨ HostOf items wildcard info) := by
  induction items generalizing matched with
  | nil => simp [HostOf]
  | cons entry rest ih =>
    intro exactly wildcard last
    obtain ⟨met,found,without⟩ := ih (matchEntry casing name osMajor (some minor) matched entry)
    simp only [last,List.foldl_cons,met,found,without,HostOf,List.exists_mem_cons_iff,← or_assoc]
    by_cases asked : Asked casing name osMajor entry.1
    · rw [matchEntry_asked casing name osMajor (some minor) asked]
      rcases same : entry.1.appStreamEntity.osMinor with _ | other
      · simp [exactly,wildcard,asked,same]
      · by_cases equal : other = minor
        · simp [exactly,wildcard,asked,same,equal]
        · simp [exactly,wildcard,asked,same,equal]
    · rw [matchEntry_other casing name osMajor (some minor) asked]
      simp [exactly,wildcard,asked]

/-- The matching rule: an exact minor version where some stream has it, else the streams
without one; every minor version where none is asked for. -/
def Wanted (items : List (AppStreamKey × Finset SystemInfo)) (key : AppStreamKey) : Prop :=
  Asked casing name osMajor key ∧
    match osMinor with
    | none => True
    | some minor =>
      if ∃ entry ∈ items, Asked casing name osMajor entry.1 ∧ entry.1.appStreamEntity.osMinor = some minor
      then key.appStreamEntity.osMinor = some minor
      else key.appStreamEntity.osMinor = none

theorem mem_matchingSystems (systemsByStream : SystemsByStream) (info : SystemInfo) :
    info ∈ matchingSystems casing name osMajor osMinor systemsByStream ↔
      HostOf systemsByStream.items (Wanted casing name osMajor osMinor systemsByStream.items) info := by
  cases osMinor with
  | none =>
    rw [matchingSystems,if_pos rfl,union_gathered]
    simp [HostOf,Wanted]
  | some minor =>
    obtain ⟨met,found,without⟩ := minor_gathered casing name osMajor minor systemsByStream.items {} info
    rw [matchingSystems,if_neg (Option.some_ne_none minor)]
    cases reached : (systemsByStream.items.foldl (matchEntry casing name osMajor (some minor)) {}).exactSystems with
    | none =>
      have never : ¬ ∃ entry ∈ systemsByStream.items, Asked casing name osMajor entry.1 ∧
          entry.1.appStreamEntity.osMinor = some minor := by
        simpa [reached] using met
      simpa [HostOf,Wanted,if_neg never] using without
    | some exactSystems =>
      have once : ∃ entry ∈ systemsByStream.items, Asked casing name osMajor entry.1 ∧
          entry.1.appStreamEntity.osMinor = some minor := by
        simpa [reached] using met
      simpa [HostOf,Wanted,if_pos once,reached] using found

theorem wanted_self {items : List (AppStreamKey × Finset SystemInfo)}
    {entry : AppStreamKey × Finset SystemInfo} (member : entry ∈ items)
    (asked : Asked casing name osMajor entry.1) :
    Wanted casing name osMajor entry.1.appStreamEntity.osMinor items entry.1 := by
  refine ⟨asked,?_⟩
  cases own : entry.1.appStreamEntity.osMinor with
  | none => trivial
  | some minor =>
    have met : ∃ other ∈ items, Asked casing name osMajor other.1 ∧
        other.1.appStreamEntity.osMinor = some minor := ⟨entry,member,asked,own⟩
    simp only [if_pos met]

/-- The mapping may list its streams in another order. -/
theorem hostOf_perm {items others : List (AppStreamKey × Finset SystemInfo)} (reordered : items.Perm others)
    (info : SystemInfo) : HostOf items (Wanted casing name osMajor osMinor items) info ↔
      HostOf others (Wanted casing name osMajor osMinor others) info := by
  have rule : ∀ key, Wanted casing name osMajor osMinor items key ↔
      Wanted casing name osMajor osMinor others key := by
    intro key
    simp only [Wanted,reordered.mem_iff]
  simp only [HostOf,rule,reordered.mem_iff]

def DistinctIds (items : List (AppStreamKey × Finset SystemInfo)) : Prop :=
  ∀ entry ∈ items, ∀ other ∈ items, ∀ first ∈ entry.2, ∀ second ∈ other.2,
    first.id = second.id → first = second

instance (items : List (AppStreamKey × Finset SystemInfo)) : Decidable (DistinctIds items) :=
  inferInstanceAs (Decidable (∀ entry ∈ items, ∀ other ∈ items, ∀ first ∈ entry.2, ∀ second ∈ other.2,
    first.id = second.id → first = second))

theorem distinct_matchingSystems {systemsByStream : SystemsByStream}
    (distinct : DistinctIds systemsByStream.items) :
    DistinctHosts (matchingSystems casing name osMajor osMinor systemsByStream) := by
  intro first inFirst second inSecond same
  rw [mem_matchingSystems] at inFirst inSecond
  obtain ⟨entry,member,-,holds⟩ := inFirst
  obtain ⟨other,listed,-,has⟩ := inSecond
  exact distinct entry member other listed first holds second has same

end Drilldown

section Listing

variable (casing : Casing) (systemsByStream : SystemsByStream)
  (distinct : DistinctIds systemsByStream.items) (order : (offset limit : Nat) → SetOrder SystemInfo)
  (served : (offset limit : Nat) → SystemsByStream)
  (reordered : ∀ offset limit, (served offset limit).items.Perm systemsByStream.items)

include distinct reordered

theorem drilldown_listing (name : String) (osMajor : Int) (osMinor : Option Int) (search : Option String) :
    ∃ hosts : List SystemInfo, hosts.Pairwise SystemInfo.Before ∧
      (∀ info, info ∈ hosts ↔
        HostOf systemsByStream.items (Wanted casing name osMajor osMinor systemsByStream.items) info ∧
          searchedFor casing search info = true) ∧
      Paged (fun offset limit => getAppStreamsSystemsV2 casing name osMajor osMinor (order offset limit)
        (served offset limit) offset limit search) hosts := by
  obtain ⟨hosts,ascending,members,listed⟩ := paginate_ascending casing
    (distinct_matchingSystems casing name osMajor osMinor distinct) search
  have same : ∀ offset limit, matchingSystems casing name osMajor osMinor (served offset limit) =
      matchingSystems casing name osMajor osMinor systemsByStream := by
    intro offset limit
    ext info
    rw [mem_matchingSystems,mem_matchingSystems]
    exact hostOf_perm casing name osMajor osMinor (reordered offset limit) info
  have pages : (fun offset limit => getAppStreamsSystemsV2 casing name osMajor osMinor
      (order offset limit) (served offset limit) offset limit search) = pageOf hosts := by
    funext offset limit
    rw [getAppStreamsSystemsV2,same,listed]
  refine ⟨hosts,ascending,fun info => ?_,?_⟩
  · rw [members,mem_matchingSystems]
  · rw [pages]
    exact paged_pageOf hosts

/-- The pages of any query list the matching hosts once, in order; those of the query made of
a stream's own values list its hosts. Mapping and sets are iterated anew for each page. -/
theorem app_streams_drilldown :
    (∀ name osMajor osMinor search, ∃ hosts : List SystemInfo, hosts.Pairwise SystemInfo.Before ∧
      (∀ info, info ∈ hosts ↔
        HostOf systemsByStream.items (Wanted casing name osMajor osMinor systemsByStream.items) info ∧
          searchedFor casing search info = true) ∧
      Paged (fun offset limit => getAppStreamsSystemsV2 casing name osMajor osMinor (order offset limit)
        (served offset limit) offset limit search) hosts) ∧
    ∀ entry ∈ systemsByStream.items, ∀ name osMajor, Asked casing name osMajor entry.1 → ∀ hosts,
      Paged (fun offset limit => getAppStreamsSystemsV2 casing name osMajor
        entry.1.appStreamEntity.osMinor (order offset limit) (served offset limit) offset limit none) hosts →
      ∀ info ∈ entry.2, info ∈ hosts := by
  have listing := drilldown_listing casing systemsByStream distinct order served reordered
  refine ⟨listing,fun entry member name osMajor asked hosts paged info holds => ?_⟩
  obtain ⟨others,-,members,pages⟩ := listing name osMajor entry.1.appStreamEntity.osMinor none
  rw [paged.unique pages,members]
  exact ⟨⟨entry,member,wanted_self casing name osMajor member asked,holds⟩,by simp [searchedFor,searched]⟩

end Listing

private def redis6 (displayName : String) (osMinor : Option Int) : AppStreamEntity := {
  name := "redis",displayName := displayName,applicationStreamName := "Redis 6"
  stream := "6",impl := .package,osMajor := some 9,osMinor := osMinor}

private def redisHost (id : Nat) : SystemInfo := ⟨⟨id⟩,"host",9,some 4⟩

private def redisMapping : SystemsByStream :=
  (Dict.empty.set ⟨"Redis 6",redis6 "Redis 6" (some 0)⟩ {redisHost 1,redisHost 2}).set
    ⟨"Redis 6",redis6 "Redis 6 module" none⟩ {redisHost 2,redisHost 3}

theorem app_streams_drilldown_redis : ∃ order : SetOrder SystemInfo, ∃ hosts : List SystemInfo,
    hosts.Pairwise SystemInfo.Before ∧ redisHost 1 ∈ hosts ∧
      Paged (fun offset limit =>
        getAppStreamsSystemsV2 .ascii "REDIS" 9 (some 0) order redisMapping offset limit none) hosts := by
  obtain ⟨order⟩ : Nonempty (SetOrder SystemInfo) := SetOrder.nonempty
  obtain ⟨listing,covered⟩ := app_streams_drilldown .ascii redisMapping (by decide) (fun _ _ => order)
    (fun _ _ => redisMapping) (fun _ _ => .refl _)
  obtain ⟨hosts,ascending,-,paged⟩ := listing "REDIS" 9 (some 0) none
  exact ⟨order,hosts,ascending,covered _ (.head _) "REDIS" 9 (by decide) hosts paged _ (by decide),paged⟩

end Roadmap
