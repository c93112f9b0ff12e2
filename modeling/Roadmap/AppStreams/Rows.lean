import Roadmap.AppStreams.Kept
import Roadmap.AppStreams.Relevant

/-! The rows of a response at each stream identity. Installed rows stand for the kept
keys, related rows for the first suggestion of an identity that no host uses. -/
namespace Roadmap
open Dict

def RelevantAppStream.identity (row : RelevantAppStream) : StreamIdentity :=
  (row.displayName,row.applicationStreamName,row.osMajor,row.osMinor)

section Rows

variable (casing : Casing) (today : Date) (catalogue : Catalogue)

def installedRows (systems : List HostRowWithPackages) : List RelevantAppStream :=
  (mappingOf casing catalogue systems).items.filterMap (installedRow today)

def relatedRows (systems : List HostRowWithPackages) : List RelevantAppStream :=
  (relatedAppStreams casing today catalogue (keptKeys casing catalogue systems)).filterMap (relatedRow today)

/-- The first key that the streams of the hosts suggest at an identity. -/
def suggestedAt (systems : List HostRowWithPackages) (identity : StreamIdentity) : Option AppStreamKey :=
  Keyed.find AppStreamKey.identity
    ((keptKeys casing catalogue systems).flatMap (suggestions casing today catalogue)) identity

theorem distinct_keys {ν : Type} (dict : Dict AppStreamKey ν) :
    Keyed.Distinct AppStreamKey.identity dict.keys := by
  refine List.pairwise_map.mpr (List.pairwise_map.mpr (dict.distinct.imp ?_))
  intro first second apart same
  exact Bool.false_ne_true (apart.symm.trans ((AppStreamKey.beq_iff _ _).mpr same))

theorem find_eraseDups (keys : List AppStreamKey) (identity : StreamIdentity) :
    Keyed.find AppStreamKey.identity keys.eraseDups identity =
      Keyed.find AppStreamKey.identity keys identity := by
  have filtered := eraseDups_filter (fun key : AppStreamKey => decide (key.identity = identity))
    (fun left right same => by rw [(AppStreamKey.beq_iff left right).mp same]) keys
  rw [Keyed.find,Keyed.find,← List.head?_filter,← List.head?_filter,← filtered]
  cases keys.filter (fun key => decide (key.identity = identity)) with
  | nil => rfl
  | cons key rest => rw [List.eraseDups_cons]; rfl

/-! Installed rows. -/

private theorem installedRow_identity {entry : AppStreamKey × Finset SystemInfo} {row : RelevantAppStream}
    (shown : installedRow today entry = some row) : row.identity = entry.1.identity := by
  rw [installedRow] at shown
  split at shown
  · contradiction
  · rw [← Option.some.inj shown]; rfl

private theorem relatedRow_identity (key : AppStreamKey) (row : RelevantAppStream)
    (shown : relatedRow today key = some row) : row.identity = key.identity := by
  rw [relatedRow] at shown
  split at shown
  · contradiction
  · rw [← Option.some.inj shown]; rfl

def heldRow (systems : List HostRowWithPackages) (key : AppStreamKey) : Option RelevantAppStream :=
  installedRow today (key,(mappingOf casing catalogue systems).heldAt key)

theorem installedRows_eq (systems : List HostRowWithPackages) :
    installedRows casing today catalogue systems =
      (keptKeys casing catalogue systems).filterMap (heldRow casing today catalogue systems) := by
  rw [installedRows,items_heldAt,List.filterMap_map]
  rfl

theorem distinct_installedRows (systems : List HostRowWithPackages) :
    Keyed.Distinct RelevantAppStream.identity (installedRows casing today catalogue systems) := by
  rw [installedRows_eq]
  exact Keyed.distinct_filterMap _ (fun _ _ => installedRow_identity today) (distinct_keys _)

theorem find_installedRows (systems : List HostRowWithPackages) (identity : StreamIdentity) :
    Keyed.find RelevantAppStream.identity (installedRows casing today catalogue systems) identity =
      (keptAt casing catalogue systems identity).bind (heldRow casing today catalogue systems) := by
  rw [installedRows_eq]
  exact Keyed.find_filterMap _ (fun _ _ => installedRow_identity today) (distinct_keys _) identity

/-! Related rows. -/

theorem relatedAppStreams_eq (appStreams : List AppStreamKey) :
    relatedAppStreams casing today catalogue appStreams =
      (appStreams.flatMap (suggestions casing today catalogue)).eraseDups.filter
        (fun key => !appStreams.any (· == key)) := by
  have grouped := keys_group (fun _ _ => ())
    ((appStreams.flatMap (suggestions casing today catalogue)).map (fun key => (key,())))
    (empty : Dict AppStreamKey Unit)
  rw [group,List.foldl_map] at grouped
  refine congrArg (List.filter _) (grouped.trans ?_)
  simp [keys,empty,List.map_map,Function.comp_def]

theorem distinct_relatedRows (systems : List HostRowWithPackages) :
    Keyed.Distinct RelevantAppStream.identity (relatedRows casing today catalogue systems) := by
  apply Keyed.distinct_filterMap _ (relatedRow_identity today)
  exact (distinct_keys _).sublist (List.Sublist.map _ List.filter_sublist)

/-- A related row shows an unused identity, by its first suggestion. -/
theorem find_relatedRows (systems : List HostRowWithPackages) (identity : StreamIdentity) :
    Keyed.find RelevantAppStream.identity (relatedRows casing today catalogue systems) identity =
      if (keptAt casing catalogue systems identity).isNone then
        (suggestedAt casing today catalogue systems identity).bind (relatedRow today)
      else none := by
  have listed : Keyed.Distinct AppStreamKey.identity
      (relatedAppStreams casing today catalogue (keptKeys casing catalogue systems)) :=
    (distinct_keys _).sublist (List.Sublist.map _ List.filter_sublist)
  have unkept : ∀ key : AppStreamKey, (!(keptKeys casing catalogue systems).any (· == key)) =
      (keptAt casing catalogue systems key.identity).isNone := by
    intro key
    rw [Bool.eq_iff_iff,Option.isNone_iff_eq_none,keptAt,Keyed.find_eq_none]
    simp only [Bool.not_eq_true',List.any_eq_false,AppStreamKey.beq_iff,ne_eq]
  rw [relatedRows,Keyed.find_filterMap _ (relatedRow_identity today) listed,relatedAppStreams_eq]
  simp only [unkept]
  rw [Keyed.find_filter AppStreamKey.identity
    (fun identity => (keptAt casing catalogue systems identity).isNone),find_eraseDups]
  split <;> rfl

/-! Suggestions at an identity. -/

private theorem find_suggestions (source : AppStreamKey) (identity : StreamIdentity) :
    Keyed.find AppStreamKey.identity (suggestions casing today catalogue source) identity = none ↔
      ∀ app ∈ catalogue.modulesPackages, suggests casing today source.appStreamEntity app = true →
        app.identity ≠ identity := by
  rw [Keyed.find_eq_none]
  simp only [suggestions,List.mem_map,List.mem_filter]
  constructor
  · exact fun unsuggested app listed suggested => unsuggested ⟨source.name,app⟩ ⟨app,⟨listed,suggested⟩,rfl⟩
  · rintro unsuggested key ⟨app,⟨listed,suggested⟩,rfl⟩
    exact unsuggested app listed suggested

theorem suggestedAt_none {systems : List HostRowWithPackages} {identity : StreamIdentity} :
    suggestedAt casing today catalogue systems identity = none ↔
      ∀ source ∈ keptKeys casing catalogue systems, ∀ app ∈ catalogue.modulesPackages,
        suggests casing today source.appStreamEntity app = true → app.identity ≠ identity := by
  simp only [← find_suggestions]
  rw [suggestedAt,Keyed.find,List.find?_flatMap,List.findSome?_eq_none_iff]
  rfl

theorem suggestedAt_some {systems : List HostRowWithPackages} {identity : StreamIdentity}
    {key : AppStreamKey} (first : suggestedAt casing today catalogue systems identity = some key) :
    key.identity = identity ∧ ∃ source ∈ keptKeys casing catalogue systems, key.name = source.name ∧
      key.appStreamEntity ∈ catalogue.modulesPackages ∧
        suggests casing today source.appStreamEntity key.appStreamEntity = true := by
  refine ⟨Keyed.find_key _ first,?_⟩
  obtain ⟨source,kept,listed⟩ := List.mem_flatMap.mp (Keyed.find_mem _ first)
  obtain ⟨app,member,rfl⟩ := List.mem_map.mp listed
  obtain ⟨listed,suggested⟩ := List.mem_filter.mp member
  exact ⟨source,kept,rfl,listed,suggested⟩

/-- Keys that suggest nothing at the identity may be left out. -/
theorem suggestedAt_filter (own : AppStreamKey → Bool) {systems : List HostRowWithPackages}
    {identity : StreamIdentity} (idle : ∀ source ∈ keptKeys casing catalogue systems,
      own source = false → ∀ app ∈ catalogue.modulesPackages,
        suggests casing today source.appStreamEntity app = true → app.identity ≠ identity) :
    suggestedAt casing today catalogue systems identity = Keyed.find AppStreamKey.identity
      (((keptKeys casing catalogue systems).filter own).flatMap (suggestions casing today catalogue))
        identity := by
  simp only [← find_suggestions] at idle
  exact Keyed.find_flatMap_filter _ _ own idle

/-! Responses. -/

theorem mem_installedRows {systems : List HostRowWithPackages} {row : RelevantAppStream}
    (listed : row ∈ installedRows casing today catalogue systems) :
    ∃ key ∈ keptKeys casing catalogue systems, key.appStreamEntity.rolling = false ∧
      row = relevantAppStream today key ((mappingOf casing catalogue systems).heldAt key) false := by
  rw [installedRows_eq] at listed
  obtain ⟨key,kept,shown⟩ := List.mem_filterMap.mp listed
  rw [heldRow,installedRow] at shown
  split at shown
  · contradiction
  next fixed => exact ⟨key,kept,by simpa using fixed,(Option.some.inj shown).symm⟩

theorem mem_relatedRows {systems : List HostRowWithPackages} {row : RelevantAppStream}
    (listed : row ∈ relatedRows casing today catalogue systems) : row.related = true := by
  obtain ⟨suggestion,-,shown⟩ := List.mem_filterMap.mp listed
  rw [relatedRow] at shown
  split at shown
  · contradiction
  · rw [← Option.some.inj shown]
    rfl

/-- Sorting needs names of one kind. -/
def Sortable (rows : List RelevantAppStream) : Prop :=
  (∀ row ∈ rows, row.name = "") ∨ ∀ row ∈ rows, row.name ≠ ""

instance (rows : List RelevantAppStream) : Decidable (Sortable rows) := inferInstanceAs (Decidable (_ ∨ _))

/-- A stream that names a row: its own, or that of an identity that no host uses and that it
is the first to suggest. -/
def NamesRow (systems : List HostRowWithPackages) (key : AppStreamKey) : Prop :=
  key.appStreamEntity.rolling = false ∧ (key ∈ keptKeys casing catalogue systems ∨
    keptAt casing catalogue systems key.identity = none ∧
      suggestedAt casing today catalogue systems key.identity = some key)

def NamesTogether (systems : List HostRowWithPackages) : Prop :=
  ∀ left right, NamesRow casing today catalogue systems left → NamesRow casing today catalogue systems right →
    (left.name = "" ↔ right.name = "")

theorem row_named (systems : List HostRowWithPackages) (name : String) :
    (∃ row ∈ installedRows casing today catalogue systems ++ relatedRows casing today catalogue systems,
      row.name = name) ↔ ∃ key, NamesRow casing today catalogue systems key ∧ key.name = name := by
  constructor
  · rintro ⟨row,listed,rfl⟩
    rcases List.mem_append.mp listed with installed | related
    · obtain ⟨key,kept,shown,rfl⟩ := mem_installedRows casing today catalogue installed
      exact ⟨key,⟨shown,Or.inl kept⟩,rfl⟩
    · have found := Keyed.find_of_mem _ (distinct_relatedRows casing today catalogue systems) related
      rw [find_relatedRows] at found
      split at found
      next free =>
        obtain ⟨key,suggested,shown⟩ := Option.bind_eq_some_iff.mp found
        have same := (suggestedAt_some casing today catalogue suggested).1
        rw [relatedRow] at shown
        split at shown
        · contradiction
        next fixed =>
          refine ⟨key,⟨by simpa using fixed,Or.inr ?_⟩,by rw [← Option.some.inj shown]; rfl⟩
          rw [same]
          exact ⟨Option.isNone_iff_eq_none.mp free,suggested⟩
      next => contradiction
  · rintro ⟨key,⟨fixed,kept | ⟨free,suggested⟩⟩,rfl⟩
    · refine ⟨relevantAppStream today key ((mappingOf casing catalogue systems).heldAt key) false,
        List.mem_append_left _ ?_,rfl⟩
      rw [installedRows_eq]
      refine List.mem_filterMap.mpr ⟨key,kept,?_⟩
      simp only [heldRow,installedRow,fixed,Bool.false_eq_true,if_false]
    · have found : Keyed.find RelevantAppStream.identity (relatedRows casing today catalogue systems)
          key.identity = some (relevantAppStream today key ∅ true) := by
        rw [find_relatedRows,free,suggested]
        simp only [Option.isNone_none,if_true,Option.bind_some,relatedRow,fixed,Bool.false_eq_true,if_false]
      exact ⟨_,List.mem_append_right _ (Keyed.find_mem _ found),rfl⟩

theorem namesTogether_iff (systems : List HostRowWithPackages) : NamesTogether casing today catalogue systems ↔
    Sortable (installedRows casing today catalogue systems ++ relatedRows casing today catalogue systems) := by
  constructor
  · intro together
    by_cases empty : ∃ key, NamesRow casing today catalogue systems key ∧ key.name = ""
    · obtain ⟨unnamed,names,same⟩ := empty
      refine Or.inl (fun row listed => ?_)
      obtain ⟨key,named,equal⟩ := (row_named casing today catalogue systems _).mp ⟨row,listed,rfl⟩
      rw [← equal]
      exact (together unnamed key names named).mp same
    · refine Or.inr (fun row listed same => empty ?_)
      exact (row_named casing today catalogue systems "").mp ⟨row,listed,same⟩
  · rintro sortable left right inLeft inRight
    obtain ⟨one,listedOne,sameOne⟩ := (row_named casing today catalogue systems _).mpr ⟨left,inLeft,rfl⟩
    obtain ⟨two,listedTwo,sameTwo⟩ := (row_named casing today catalogue systems _).mpr ⟨right,inRight,rfl⟩
    rw [← sameOne,← sameTwo]
    rcases sortable with unnamed | named
    · exact iff_of_true (unnamed one listedOne) (unnamed two listedTwo)
    · exact iff_of_false (named one listedOne) (named two listedTwo)

theorem response_rows {systems : List HostRowWithPackages} {response : RelevantAppStreamsResponse}
    (answered : getRelevantAppStreamsForHosts casing today catalogue true systems = .ok response) :
    let rows := installedRows casing today catalogue systems ++ relatedRows casing today catalogue systems
    Parsed systems ∧ Sortable rows ∧ response.metaData = recountStreams rows ∧ response.data.Perm rows := by
  obtain ⟨mapping,passed,built⟩ := Except.bind_ok.mp answered
  obtain ⟨parsed,rfl⟩ := systemsByAppStream_ok casing catalogue passed
  refine ⟨parsed,?_⟩
  rw [buildRelevantAppStreams,sortedByAttrs] at built
  split at built
  next sortable =>
    rw [← Except.ok.inj built]
    exact ⟨sortable,rfl,List.mergeSort_perm _ _⟩
  next => contradiction

theorem answer_of_sortable {systems : List HostRowWithPackages} (parsed : Parsed systems)
    (sortable : Sortable (installedRows casing today catalogue systems ++
      relatedRows casing today catalogue systems)) :
    ∃ response, getRelevantAppStreamsForHosts casing today catalogue true systems = .ok response := by
  have built : ∃ response, buildRelevantAppStreams casing today catalogue
      (mappingOf casing catalogue systems) true = .ok response := by
    rw [buildRelevantAppStreams,sortedByAttrs]
    split
    · exact ⟨_,rfl⟩
    next mixed => exact absurd sortable mixed
  obtain ⟨response,built⟩ := built
  exact ⟨response,Except.bind_ok.mpr ⟨_,systemsByAppStream_group casing catalogue parsed,built⟩⟩

end Rows

end Roadmap
