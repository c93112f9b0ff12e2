import Roadmap.Pagination

/-! The search by display name: the statement of `queryRhelSystems` escapes the wildcards of
the search text, the other drill-downs look for the text itself. -/
namespace Roadmap
open Sql

theorem searchPattern_eq (search : String) :
    searchPattern search = .ofList ('%' :: (search.toList.flatMap likeEscaped ++ ['%'])) := by
  have escaped : ∀ text : List Char, Text.replaceChar '_' ['\\','_'] (Text.replaceChar '%' ['\\','%']
      (Text.replaceChar '\\' ['\\','\\'] text)) = text.flatMap likeEscaped := by
    intro text
    rw [Text.replaceChar,Text.replaceChar,Text.replaceChar,List.flatMap_assoc,List.flatMap_assoc]
    refine List.flatMap_congr (fun char _ => ?_)
    -- A backslash put before a wildcard comes after the pass over the backslashes of the text.
    by_cases backslash : char = '\\'
    · subst backslash; rfl
    by_cases percent : char = '%'
    · subst percent; rfl
    by_cases underscore : char = '_'
    · subst underscore; rfl
    simp [likeEscaped,backslash,percent,underscore]
  rw [searchPattern,escaped]

theorem holds_searchPattern (collation : Collation) (search displayName : String) :
    Holds (ilike collation displayName (searchPattern search)) ↔
      search.toList.map collation.fold <:+: displayName.toList.map collation.fold := by
  rw [searchPattern_eq,holds_ilike_contains]

/-- Lower case folds these texts character by character, as the database does. -/
def FoldsAs (casing : Casing) (collation : Collation) (text : String) : Prop :=
  casing.lowered text.toList = text.toList.map collation.fold

instance (casing : Casing) (collation : Collation) (text : String) : Decidable (FoldsAs casing collation text) :=
  inferInstanceAs (Decidable (_ = _))

def nameContains (collation : Collation) (search : String) (host : HostRecord) : Bool :=
  decide (search.toList.map collation.fold <:+: host.displayName.toList.map collation.fold)

theorem holds_searchFilter (collation : Collation) {search : String} {params : Params}
    (pattern : params.searchPattern = searchPattern search) (row : Joined) :
    Holds (searchFilter collation params row) ↔ nameContains collation search row.h = true := by
  rw [searchFilter,pattern,holds_searchPattern,nameContains,decide_eq_true_eq]

section Pages

variable (collation : Collation) (dev : Bool) (orgId : String) (hostGroups : Finset (Option String))
  (major minor : Int) (lifecycleType : LifecycleType) (search : String) (hosts : List HostRecord)

/-- The permitted hosts of the version and lifecycle type whose display name holds the search text. -/
def searchedRows : List Joined :=
  (permitted dev orgId hostGroups hosts).filter (fun row =>
    decide (Matches major minor lifecycleType row) && nameContains collation search row.h)

theorem queryRhelSystems_searched (offset limit : Nat) :
    queryRhelSystems collation dev orgId hostGroups major minor lifecycleType offset limit (some search) hosts =
      (do
        let rows := searchedRows collation dev orgId hostGroups major minor lifecycleType search hosts
        let systems ← (rows.mergeSort (displayOrder collation)).mapM systemInfoOf
        return ⟨⟨(page offset limit systems).length,rows.length⟩,page offset limit systems⟩) := by
  by_cases empty : search = ""
  · subst empty
    have every : ∀ row : Joined, nameContains collation "" row.h = true := by
      intro row
      simp [nameContains]
    have rows := query_rows dev orgId hostGroups major minor lifecycleType hosts
      {orgId := queriedOrg dev orgId,major := toString major,minor := toString minor
       hostGroups := hostGroups,searchPattern := searchPattern ""} rfl rfl rfl rfl
    simp only [queryRhelSystems,searched,bne_self_eq_false,Bool.false_eq_true,if_false,
      Option.getD_some,rows,searchedRows,every,Bool.and_true]
  · have rows := query_rows_extra dev orgId hostGroups major minor lifecycleType hosts [searchFilter collation]
      (fun row => nameContains collation search row.h)
      {orgId := queriedOrg dev orgId,major := toString major,minor := toString minor
       hostGroups := hostGroups,searchPattern := searchPattern search} rfl rfl rfl rfl
      (fun row => by rw [List.forall_mem_singleton]; exact holds_searchFilter collation rfl row)
    simp only [queryRhelSystems,searched,bne_iff_ne,ne_eq,empty,not_false_eq_true,if_true,
      Option.getD_some,rows,searchedRows]

/-- Any number of pages that is enough lists these hosts, and every page reports how many they are. -/
def SearchLists : Prop :=
  let rows := searchedRows collation dev orgId hostGroups major minor lifecycleType search hosts
  ∀ limit count, rows.length ≤ count * limit →
    ∃ pages, (List.range count).mapM (fun index => queryRhelSystems collation dev orgId hostGroups major minor
        lifecycleType (index * limit) limit (some search) hosts) = .ok pages ∧
      (∀ page ∈ pages, page.metaData.total = rows.length) ∧
      ((pages.flatMap (·.data)).map (fun system => (system.id,system.displayName))).Perm
        (rows.map (fun row => (row.h.id,row.h.displayName)))

/-- The casts of the statement succeed for versions in the range of int4. -/
theorem search_lists (majorRange : int4Range major) (minorRange : int4Range minor) :
    SearchLists collation dev orgId hostGroups major minor lifecycleType search hosts := by
  unfold SearchLists
  intro rows limit count enough
  let systemOf := fun row : Joined =>
    (⟨row.h.id,row.h.displayName,major,some (row.osMinor.getD minor)⟩ : SystemInfo)
  have sorted := List.mergeSort_perm rows (displayOrder collation)
  have reads : ∀ row ∈ rows.mergeSort (displayOrder collation), systemInfoOf row = .ok (systemOf row) := by
    intro row member
    have kept := (List.mem_filter.mp (sorted.mem_iff.mp member)).2
    rw [Bool.and_eq_true,decide_eq_true_eq] at kept
    exact (systemInfo_matches major minor lifecycleType kept.1 _).mpr ⟨fun _ => ⟨majorRange,fun _ => minorRange⟩,rfl⟩
  have systems := Except.mapM_total _ reads
  have answers : ∀ index ∈ List.range count, queryRhelSystems collation dev orgId hostGroups major minor
      lifecycleType (index * limit) limit (some search) hosts =
        .ok (let data := page (index * limit) limit ((rows.mergeSort (displayOrder collation)).map systemOf)
          ⟨⟨data.length,rows.length⟩,data⟩) := by
    intro index _
    rw [queryRhelSystems_searched]
    exact Except.bind_ok.mpr ⟨_,systems,rfl⟩
  refine ⟨_,Except.mapM_total _ answers,fun response member => ?_,?_⟩
  · obtain ⟨index,-,rfl⟩ := List.mem_map.mp member
    rfl
  · have size : ((rows.mergeSort (displayOrder collation)).map systemOf).length ≤ count * limit := by
      rw [List.length_map,sorted.length_eq]
      exact enough
    rw [List.flatMap_map,pages_all limit count _ size,List.map_map]
    exact sorted.map _

end Pages

theorem searchedFor_iff {casing : Casing} {collation : Collation} {search : String} {system : SystemInfo}
    (folded : FoldsAs casing collation search) (named : FoldsAs casing collation system.displayName) :
    searchedFor casing (some search) system = true ↔
      search.toList.map collation.fold <:+: system.displayName.toList.map collation.fold := by
  unfold FoldsAs at folded named
  by_cases empty : search = ""
  · simp [searchedFor,searched,empty]
  · simp [searchedFor,searched,empty,folded,named]

/-- ILIKE with the escaped pattern finds the search text itself, so that the pages list exactly the
permitted hosts of the version and type whose folded names hold the folded text; where lower case
folds as the database does, the search of the other drill-downs keeps the same names. -/
theorem search_literal (collation : Collation) (search : String) :
    (∀ displayName, Holds (ilike collation displayName (searchPattern search)) ↔
      search.toList.map collation.fold <:+: displayName.toList.map collation.fold) ∧
    (∀ dev orgId hostGroups major minor lifecycleType hosts, int4Range major → int4Range minor →
      SearchLists collation dev orgId hostGroups major minor lifecycleType search hosts) ∧
    ∀ casing (system : SystemInfo), FoldsAs casing collation search →
      FoldsAs casing collation system.displayName →
      (searchedFor casing (some search) system = true ↔
        search.toList.map collation.fold <:+: system.displayName.toList.map collation.fold) :=
  ⟨holds_searchPattern collation search,
    fun dev orgId hostGroups major minor lifecycleType hosts =>
      search_lists collation dev orgId hostGroups major minor lifecycleType search hosts,
    fun _ _ => searchedFor_iff⟩

private def namedHost (id : Nat) (displayName : String) : HostRecord :=
  ⟨⟨id⟩,"org",displayName,[],some ⟨"org",some ⟨some "RHEL",some 9,some 4⟩,none,none⟩,none⟩

/-- The underscore of the search is no wildcard: of the two names only the first holds it. -/
theorem search_literal_wildcards :
    let collation : Collation := ⟨fun left right => decide (left ≤ right),Char.toLower⟩
    Holds (ilike collation "WEB\\_1%" (searchPattern "b\\_1%")) ∧
      (∃ pages, (List.range 1).mapM (fun index => queryRhelSystems collation false "org" ∅ 9 4 .mainline
          (index * 10) 10 (some "b_") [namedHost 1 "WEB_1",namedHost 2 "webs1"]) = .ok pages ∧
        (pages.flatMap (·.data)).map (fun system => (system.id,system.displayName)) = [(⟨1⟩,"WEB_1")]) ∧
      searchedFor .ascii (some "b_") ⟨⟨1⟩,"WEB_1",9,some 4⟩ = true := by
  intro collation
  have literal := search_literal collation "b_"
  refine ⟨((search_literal collation "b\\_1%").1 _).mpr (by decide),?_,
    (literal.2.2 .ascii ⟨⟨1⟩,"WEB_1",9,some 4⟩ (by decide) (by decide)).mpr (by decide)⟩
  have rows : (searchedRows collation false "org" ∅ 9 4 .mainline "b_"
      [namedHost 1 "WEB_1",namedHost 2 "webs1"]).map (fun row => (row.h.id,row.h.displayName)) =
        [(⟨1⟩,"WEB_1")] := by decide
  have size := congrArg List.length rows
  rw [List.length_map] at size
  obtain ⟨pages,read,-,listed⟩ := literal.2.1 false "org" ∅ 9 4 .mainline
    [namedHost 1 "WEB_1",namedHost 2 "webs1"] (by decide) (by decide) 10 1 (by rw [size]; decide)
  rw [rows] at listed
  exact ⟨pages,read,List.perm_singleton.mp listed⟩

end Roadmap
