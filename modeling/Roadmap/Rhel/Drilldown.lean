import Roadmap.Rhel.Integrity
import Roadmap.Base.Except
import Roadmap.Base.Json

/-! The hosts of one RHEL version and lifecycle type, read page by page: the version is
matched in the statement, not by `rhelMajorMinor`. -/
namespace Roadmap
open Sql

structure PaginatedSystemsResponse where
  metaData : Meta
  data : List SystemInfo
  deriving DecidableEq

/-- The text of part 1 or 2 of os_release, NULL where the column is. -/
def releasePart (row : Joined) (field : Nat) : Option String :=
  row.sps.osRelease.map (fun osRelease => splitPart osRelease '.' field)

def versionMatch : Fragment := fun params row =>
  disj
    (conj (conj (isNotNull row.osName) (equals (row.osMajor.map toString) (some params.major)))
      (equals (row.osMinor.map toString) (some params.minor)))
    (conj (conj (conj (conj (isNotNull row.osName) (isNull row.osMajor)) (isNotNull row.sps.osRelease))
      (equals (releasePart row 1) (some params.major))) (equals (releasePart row 2) (some params.minor)))

def searchFilter (collation : Collation) : Fragment := fun params row =>
  ilike collation row.h.displayName params.searchPattern

/-- `%` around the search text, with its own wildcards escaped. -/
def searchPattern (search : String) : String :=
  String.ofList ('%' :: (Text.replaceChar '_' ['\\','_'] (Text.replaceChar '%' ['\\','%']
    (Text.replaceChar '\\' ['\\','\\'] search.toList)) ++ ['%']))

def searched : Option String → Bool
  | some search => search != ""
  | none => false

def queryFailed : PyError := .httpException 500 "Error querying host inventory"

/-- `COALESCE((sps.operating_system -> field)::int, split_part(sps.os_release, '.', n)::int)`;
the cast of a text that is no int4 fails the statement. -/
def coalesceVersion (value : Option Int) (part : Option String) : Except PyError (Option Int) :=
  match value,part with
  | some number,_ => .ok (some number)
  | none,none => .ok none
  | none,some text => match int4OfText text with
    | some number => .ok (some number)
    | none => .error queryFailed

def systemInfoOf (row : Joined) : Except PyError SystemInfo := do
  let osMajor ← coalesceVersion row.osMajor (releasePart row 1)
  let osMinor ← coalesceVersion row.osMinor (releasePart row 2)
  match osMajor with
  | some major => .ok ⟨row.h.id,row.h.displayName,major,osMinor⟩
  | none => .error .valueError

def displayOrder (collation : Collation) (first second : Joined) : Bool :=
  if first.h.displayName = second.h.displayName then decide (first.h.id.int ≤ second.h.id.int)
  else collation.le first.h.displayName second.h.displayName

/-- A page of the hosts of one version. The group filter repeats that of the host query. -/
def queryRhelSystems (collation : Collation) (dev : Bool) (orgId : String)
    (hostGroups : Finset (Option String)) (major minor : Int) (lifecycleType : LifecycleType)
    (offset limit : Nat) (search : Option String) (hosts : List HostRecord) :
    Except PyError PaginatedSystemsResponse := do
  let fragments := [versionMatch] ++ lifecycleTypeSqlFilter lifecycleType ++
    [hostGroupsFilter hostGroups] ++ (if searched search then [searchFilter collation] else [])
  let params : Params := {
    orgId := queriedOrg dev orgId,major := toString major,minor := toString minor
    hostGroups := hostGroups,searchPattern := searchPattern (search.getD "")}
  let rows := runQuery fragments params hosts
  let systems ← (rows.mergeSort (displayOrder collation)).mapM systemInfoOf
  let data := page offset limit systems
  return ⟨⟨data.length,rows.length⟩,data⟩

/-! The rows that the statement reads. -/

theorem holds_versionMatch {major minor : Int} (params : Params) (row : Joined)
    (boundMajor : params.major = toString major) (boundMinor : params.minor = toString minor) :
    Holds (versionMatch params row) ↔
      row.osName ≠ none ∧ (row.osMajor = some major ∧ row.osMinor = some minor ∨
        row.osMajor = none ∧ releasePart row 1 = some (toString major) ∧
          releasePart row 2 = some (toString minor)) := by
  have parts : ∀ (field : Nat) (text : String),
      Holds (equals (releasePart row field) (some text)) ↔ releasePart row field = some text := by
    intro field text
    simp
  have present : releasePart row 1 = some (toString major) → row.sps.osRelease ≠ none := by
    intro found missing
    simp [releasePart,missing] at found
  simp only [versionMatch,holds_disj,holds_conj,holds_isNotNull,holds_isNull,boundMajor,boundMinor,
    holds_numeral,parts]
  constructor
  · rintro (⟨⟨named,one⟩,two⟩ | ⟨⟨⟨⟨named,absent⟩,_⟩,one⟩,two⟩)
    · exact ⟨named,Or.inl ⟨one,two⟩⟩
    · exact ⟨named,Or.inr ⟨absent,one,two⟩⟩
  · rintro ⟨named,⟨one,two⟩ | ⟨absent,one,two⟩⟩
    · exact Or.inl ⟨⟨named,one⟩,two⟩
    · exact Or.inr ⟨⟨⟨⟨named,absent⟩,present one⟩,one⟩,two⟩

section Matching

variable (dev : Bool) (orgId : String) (hostGroups : Finset (Option String)) (major minor : Int)
  (lifecycle : LifecycleType) (hosts : List HostRecord)

/-- A row of the version and lifecycle type, as the statement decides. -/
def Matches (row : Joined) : Prop :=
  (row.osName ≠ none ∧ (row.osMajor = some major ∧ row.osMinor = some minor ∨
    row.osMajor = none ∧ releasePart row 1 = some (toString major) ∧
      releasePart row 2 = some (toString minor))) ∧
  getLifecycleType (productsOr row.products) = lifecycle

instance (row : Joined) : Decidable (Matches major minor lifecycle row) :=
  inferInstanceAs (Decidable (_ ∧ _))

/-- The same rows, as the RHEL list decides. -/
def Listed (row : Joined) : Prop :=
  row.osName ≠ none ∧ rhelMajorMinor (hostsQueryWithoutPackages row) = some (major,some minor) ∧
    getLifecycleType (productsOr row.products) = lifecycle

instance (row : Joined) : Decidable (Listed major minor lifecycle row) :=
  inferInstanceAs (Decidable (_ ∧ _))

/-- Both sides read the version from this os_release, and the reported version is it: the
first two parts are written as the numbers are, every part is an integer, and the minor of
operating_system is absent or the same. -/
def ReleaseRead (row : Joined) (osRelease : String) : Prop :=
  (splitPart osRelease '.' 1 = toString major ∧ splitPart osRelease '.' 2 = toString minor) ∧
    releaseVersion osRelease = some (major,some minor) ∧
    (row.osMinor = none ∨ row.osMinor = some minor) ∧ int4Range major ∧ int4Range minor

/-- Where only os_release can tell the version of a host, neither side takes it for this
one, or both do. -/
def ReleaseAgrees (row : Joined) : Prop :=
  row.osName ≠ none → row.osMajor = none → getLifecycleType (productsOr row.products) = lifecycle →
    ∀ osRelease, row.sps.osRelease = some osRelease →
      (splitPart osRelease '.' 1 = toString major ∧ splitPart osRelease '.' 2 = toString minor) ∨
        releaseVersion osRelease = some (major,some minor) →
      ReleaseRead major minor row osRelease

/-- Fragments after those of the version, the lifecycle type and the groups keep fewer rows. -/
theorem query_rows_extra (extra : List Fragment) (kept : Joined → Bool) (params : Params)
    (org : params.orgId = queriedOrg dev orgId) (groups : params.hostGroups = hostGroups)
    (boundMajor : params.major = toString major) (boundMinor : params.minor = toString minor)
    (same : ∀ row, (∀ fragment ∈ extra, Holds (fragment params row)) ↔ kept row = true) :
    runQuery ([versionMatch] ++ lifecycleTypeSqlFilter lifecycle ++ [hostGroupsFilter hostGroups] ++ extra)
        params hosts =
      (permitted dev orgId hostGroups hosts).filter
        (fun row => decide (Matches major minor lifecycle row) && kept row) := by
  refine runQuery_permitted dev orgId hostGroups hosts _ params _ org groups (by simp) (fun row => ?_)
  have version := holds_versionMatch params row boundMajor boundMinor
  have types := lifecycle_filter_exact lifecycle params row
  have visible := holds_hostGroupsFilter hostGroups params row groups
  rw [Bool.and_eq_true,decide_eq_true_eq,Matches,← version,← types,← visible,← same row]
  simp only [List.forall_mem_append,List.forall_mem_singleton]
  constructor
  · rintro ⟨⟨⟨one,two⟩,three⟩,four⟩
    exact ⟨three,⟨one,two⟩,four⟩
  · rintro ⟨three,⟨one,two⟩,four⟩
    exact ⟨⟨⟨one,two⟩,three⟩,four⟩

theorem query_rows (params : Params) (org : params.orgId = queriedOrg dev orgId)
    (groups : params.hostGroups = hostGroups) (boundMajor : params.major = toString major)
    (boundMinor : params.minor = toString minor) :
    runQuery ([versionMatch] ++ lifecycleTypeSqlFilter lifecycle ++ [hostGroupsFilter hostGroups] ++ [])
        params hosts =
      (permitted dev orgId hostGroups hosts).filter
        (fun row => decide (Matches major minor lifecycle row)) := by
  have rows := query_rows_extra dev orgId hostGroups major minor lifecycle hosts [] (fun _ => true) params
    org groups boundMajor boundMinor (fun _ => by simp)
  simpa only [Bool.and_true] using rows

theorem matches_release {row : Joined} (absent : row.osMajor = none) :
    Matches major minor lifecycle row ↔ (row.osName ≠ none ∧
      getLifecycleType (productsOr row.products) = lifecycle) ∧
      ∃ osRelease, row.sps.osRelease = some osRelease ∧
        splitPart osRelease '.' 1 = toString major ∧ splitPart osRelease '.' 2 = toString minor := by
  simp only [Matches,absent,reduceCtorEq,false_and,false_or,true_and,releasePart,Option.map_eq_some_iff]
  constructor
  · rintro ⟨⟨named,⟨osRelease,found,one⟩,other,same,two⟩,type⟩
    cases found.symm.trans same
    exact ⟨⟨named,type⟩,osRelease,found,one,two⟩
  · rintro ⟨⟨named,type⟩,osRelease,found,one,two⟩
    exact ⟨⟨named,⟨osRelease,found,one⟩,osRelease,found,two⟩,type⟩

theorem listed_release {row : Joined} (absent : row.osMajor = none) :
    Listed major minor lifecycle row ↔ (row.osName ≠ none ∧
      getLifecycleType (productsOr row.products) = lifecycle) ∧
      ∃ osRelease, row.sps.osRelease = some osRelease ∧
        releaseVersion osRelease = some (major,some minor) := by
  have version : rhelMajorMinor (hostsQueryWithoutPackages row) = row.sps.osRelease.bind releaseVersion := by
    simp only [rhelMajorMinor,hostsQueryWithoutPackages,absent]
  rw [Listed,version,Option.bind_eq_some_iff]
  exact ⟨fun ⟨named,found,type⟩ => ⟨⟨named,type⟩,found⟩,fun ⟨⟨named,type⟩,found⟩ => ⟨named,found,type⟩⟩

private theorem matches_listed_major {row : Joined} {known : Int} (present : row.osMajor = some known) :
    Matches major minor lifecycle row ↔ Listed major minor lifecycle row := by
  have version : rhelMajorMinor (hostsQueryWithoutPackages row) = some (known,row.osMinor) := by
    simp only [rhelMajorMinor,hostsQueryWithoutPackages,present]
  simp only [Matches,Listed,version,present,reduceCtorEq,false_and,or_false,Option.some.injEq,
    Prod.mk.injEq,and_assoc]

theorem matches_listed {row : Joined} (agrees : ReleaseAgrees major minor lifecycle row) :
    Matches major minor lifecycle row ↔ Listed major minor lifecycle row := by
  cases present : row.osMajor with
  | some known => exact matches_listed_major major minor lifecycle present
  | none =>
    rw [matches_release major minor lifecycle present,listed_release major minor lifecycle present]
    refine and_congr_right (fun ⟨named,type⟩ => exists_congr (fun osRelease => ?_))
    refine and_congr_right (fun found => ?_)
    have read := agrees named present type osRelease found
    exact ⟨fun parts => (read (Or.inl parts)).2.1,fun version => (read (Or.inr version)).1⟩

theorem int4_of_int32 (value : Int32) : int4Range value.toInt :=
  ⟨Int32.le_toInt value,Int32.toInt_lt value⟩

theorem minor_range {row : Joined} {value : Int} (present : row.osMinor = some value) :
    int4Range value := by
  obtain ⟨number,_,rfl⟩ := Option.map_eq_some_iff.mp present
  exact int4_of_int32 number

private theorem coalesce_text (value : Option Int) (number : Int) :
    coalesceVersion value (some (toString number)) =
      match value with
      | some known => .ok (some known)
      | none => if int4Range number then .ok (some number) else .error queryFailed := by
  cases value with
  | some known => rfl
  | none => by_cases range : int4Range number <;>
      simp only [coalesceVersion,int4OfText_toString,range,if_true,if_false]

theorem systemInfo_matches {row : Joined} (matched : Matches major minor lifecycle row)
    (info : SystemInfo) : systemInfoOf row = .ok info ↔
      (row.osMajor = none → int4Range major ∧ (row.osMinor = none → int4Range minor)) ∧
        info = ⟨row.h.id,row.h.displayName,major,some (row.osMinor.getD minor)⟩ := by
  rcases matched with ⟨⟨_,⟨one,two⟩ | ⟨absent,one,two⟩⟩,_⟩
  · simp [systemInfoOf,coalesceVersion,one,two,bind,Except.bind,eq_comm]
  · unfold systemInfoOf
    rw [one,two,absent,coalesce_text,coalesce_text]
    cases present : row.osMinor with
    | some known =>
      by_cases range : int4Range major <;> simp [range,bind,Except.bind,eq_comm]
    | none =>
      by_cases range : int4Range major <;> by_cases other : int4Range minor <;>
        simp [range,other,bind,Except.bind,eq_comm]

theorem systemInfo_read {row : Joined} (agrees : ReleaseAgrees major minor lifecycle row)
    (matched : Matches major minor lifecycle row) :
    systemInfoOf row = .ok ⟨row.h.id,row.h.displayName,major,some minor⟩ := by
  rw [systemInfo_matches major minor lifecycle matched]
  have minors : row.osMinor = none ∨ row.osMinor = some minor := by
    rcases matched.1.2 with ⟨_,two⟩ | ⟨absent,_⟩
    · exact Or.inr two
    · obtain ⟨⟨named,type⟩,osRelease,found,parts⟩ :=
        (matches_release major minor lifecycle absent).mp matched
      exact (agrees named absent type osRelease found (Or.inl parts)).2.2.1
  refine ⟨fun absent => ?_,?_⟩
  · obtain ⟨⟨named,type⟩,osRelease,found,parts⟩ := (matches_release major minor lifecycle absent).mp matched
    have ranges := (agrees named absent type osRelease found (Or.inl parts)).2.2.2
    exact ⟨ranges.1,fun _ => ranges.2⟩
  · rcases minors with absent | present
    · rw [absent]; rfl
    · rw [present]; rfl

/-- The rows of the RHEL list that a drill-down opens, one for each os name. -/
def drilldownRows (response : RelevantSystemsResponse) : List System :=
  response.installed.filter (fun row =>
    decide (row.major = major ∧ row.minor = some minor ∧ row.lifecycleType = lifecycle))

def drilldownTotal (response : RelevantSystemsResponse) : Nat :=
  ((drilldownRows major minor lifecycle response).map (·.count)).sum

theorem counted_listed (row : Joined) (host : HostCount × SystemInfo) :
    counted (hostsQueryWithoutPackages row) = some host ∧ host.1.systemIdKey =
        (versionKey major (some minor),lifecycle) ↔
      Listed major minor lifecycle row ∧ row.osName = some host.1.name ∧
        host.1 = ⟨host.1.name,major,some minor,lifecycle⟩ ∧
        host.2 = ⟨row.h.id,row.h.displayName,major,some minor⟩ := by
  obtain ⟨⟨name,osMajor,osMinor,type⟩,info⟩ := host
  rw [counted_iff]
  simp only [HostCount.systemIdKey,HostCount.key,Prod.mk.injEq,versionKey_inj,hostOf,Listed,
    HostCount.mk.injEq,true_and,hostsQueryWithoutPackages]
  constructor
  · rintro ⟨⟨⟨named,version,known⟩,rfl⟩,⟨rfl,rfl⟩,rfl⟩
    exact ⟨⟨by simp [named],version,known⟩,named,⟨rfl,rfl,rfl⟩,rfl⟩
  · rintro ⟨⟨_,version,known⟩,named,⟨rfl,rfl,rfl⟩,rfl⟩
    exact ⟨⟨⟨named,version,known⟩,rfl⟩,⟨rfl,rfl⟩,rfl⟩

end Matching

end Roadmap
