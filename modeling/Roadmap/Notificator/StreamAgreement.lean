import Roadmap.Notificator.AppStreams

/-! The application stream sections of the report against the rows of the endpoint. The report
takes the stored status of every stream; the endpoint computes the status anew and leaves out
rolling streams. -/
namespace Roadmap
namespace Notificator

/-- What `update_support_status` stores on a day. -/
def statusOn (day : Date) (entity : AppStreamEntity) : SupportStatus :=
  calculateSupportStatus (.ofOption entity.startDate) (.ofOption entity.endDate) day 6

def LoadedOn (day : Date) (systemsByStream : SystemsByStream) : Prop :=
  ∀ entry ∈ systemsByStream.items, entry.1.appStreamEntity.supportStatus = statusOn day entry.1.appStreamEntity

section Rows

variable (status : SupportStatus) (osMajor : Option Int)

def installedWith (response : RelevantAppStreamsResponse) : List RelevantAppStream :=
  response.data.filter
    (fun row => decide (row.related = false ∧ row.supportStatus = status ∧ row.osMajor = osMajor))

def rowHosts (rows : List RelevantAppStream) : Finset SystemInfo :=
  rows.foldr (fun row hosts => row.systemsDetail ∪ hosts) ∅

/-- The report and the endpoint give the same numbers of streams and of hosts. -/
structure Agree (sections : AppstreamSections) (response : RelevantAppStreamsResponse) : Prop where
  count : (reported sections status osMajor).count = (installedWith status osMajor response).length
  systemsCount : (reported sections status osMajor).systemsCount =
    (rowHosts (installedWith status osMajor response)).card

variable (loadedOn today : Date)

def shows (entry : AppStreamKey × Finset SystemInfo) : Bool :=
  let entity := entry.1.appStreamEntity
  decide (entity.rolling = false ∧ entry.2 ≠ ∅ ∧ statusOn today entity = status ∧ entity.osMajor = osMajor)

/-- Counted, but without a row: rolling, without hosts, or of another status by now. -/
def inExcess (entry : AppStreamKey × Finset SystemInfo) : Bool :=
  let entity := entry.1.appStreamEntity
  decide (statusOn loadedOn entity = status ∧ entity.osMajor = osMajor ∧
    (entity.rolling = true ∨ entry.2 = ∅ ∨ statusOn today entity ≠ status))

/-- With a row, but not counted: of the status by now. -/
def missed (entry : AppStreamKey × Finset SystemInfo) : Bool :=
  let entity := entry.1.appStreamEntity
  decide (entity.rolling = false ∧ entry.2 ≠ ∅ ∧ statusOn today entity = status ∧ entity.osMajor = osMajor ∧
    statusOn loadedOn entity ≠ status)

structure Balanced (items : List (AppStreamKey × Finset SystemInfo)) : Prop where
  streams : (items.filter (inExcess status osMajor loadedOn today)).length =
    (items.filter (missed status osMajor loadedOn today)).length
  hosts : (hostsOf (items.filter (inExcess status osMajor loadedOn today)) \
      hostsOf (items.filter (shows status osMajor today))).card =
    (hostsOf (items.filter (missed status osMajor loadedOn today)) \
      hostsOf (items.filter (counts status osMajor))).card

theorem mem_rowHosts (rows : List RelevantAppStream) (info : SystemInfo) :
    info ∈ rowHosts rows ↔ ∃ row ∈ rows, info ∈ row.systemsDetail := by
  induction rows with
  | nil => simp [rowHosts]
  | cons row rest ih =>
    rw [rowHosts,List.foldr_cons,← rowHosts,Finset.mem_union,ih]
    simp

theorem installedRow_shows (used : status ≠ .notInstalled) (entry : AppStreamKey × Finset SystemInfo) :
    (installedRow today entry).filter
        (fun row => decide (row.related = false ∧ row.supportStatus = status ∧ row.osMajor = osMajor)) =
      if shows status osMajor today entry then some (relevantAppStream today entry.1 entry.2 false) else none := by
  by_cases rolls : entry.1.appStreamEntity.rolling = true
  · simp [installedRow,shows,rolls]
  by_cases empty : entry.2 = ∅
  · simp [installedRow,shows,rolls,empty,relevantAppStream,used.symm]
  · have hosts : entry.2.card ≠ 0 := fun zero => empty (Finset.card_eq_zero.mp zero)
    simp [installedRow,shows,rolls,empty,relevantAppStream,hosts,statusOn,Option.filter]

theorem installedWith_perm (used : status ≠ .notInstalled) {casing : Casing} {catalogue : Catalogue}
    {systemsByStream : SystemsByStream} {related : Bool} {response : RelevantAppStreamsResponse}
    (answered : buildRelevantAppStreams casing today catalogue systemsByStream related = .ok response) :
    (installedWith status osMajor response).Perm
      ((systemsByStream.items.filter (shows status osMajor today)).map
        (fun entry => relevantAppStream today entry.1 entry.2 false)) := by
  let wanted := fun row : RelevantAppStream =>
    decide (row.related = false ∧ row.supportStatus = status ∧ row.osMajor = osMajor)
  have rows : response.data.Perm (relevantRows casing today catalogue systemsByStream related) := by
    rw [buildRelevantAppStreams,sortedByAttrs] at answered
    split at answered
    · rw [← Except.ok.inj answered]
      exact List.mergeSort_perm _ _
    · contradiction
  have installed : (systemsByStream.items.filterMap (installedRow today)).filter wanted =
      (systemsByStream.items.filter (shows status osMajor today)).map
        (fun entry => relevantAppStream today entry.1 entry.2 false) := by
    rw [List.filter_filterMap,← List.filterMap_eq_map,List.filterMap_filter]
    exact congrArg (fun row => systemsByStream.items.filterMap row)
      (funext (installedRow_shows status osMajor today used))
  have others : ((relatedAppStreams casing today catalogue systemsByStream.keys).filterMap
      (relatedRow today)).filter wanted = [] := by
    refine List.filter_eq_nil_iff.mpr (fun row member => ?_)
    obtain ⟨key,-,shown⟩ := List.mem_filterMap.mp member
    rw [relatedRow] at shown
    split at shown
    · contradiction
    · simp [wanted,← Option.some.inj shown,relevantAppStream]
  refine (rows.filter wanted).trans (List.Perm.of_eq ?_)
  rw [relevantRows]
  split
  · rw [List.filter_append,others,installed,List.append_nil]
  · exact installed

end Rows

theorem length_filter_eq_iff {α : Type} (first second : α → Bool) (items : List α) :
    (items.filter first).length = (items.filter second).length ↔
      (items.filter (fun item => first item && !second item)).length =
        (items.filter (fun item => second item && !first item)).length := by
  have split : ∀ one other : α → Bool, (items.filter one).length =
      (items.filter (fun item => one item && other item)).length +
        (items.filter (fun item => one item && !other item)).length := by
    intro one other
    rw [List.length_eq_length_filter_add other,List.filter_filter,List.filter_filter]
    simp only [Bool.and_comm]
  have common : items.filter (fun item => first item && second item) =
      items.filter (fun item => second item && first item) :=
    List.filter_congr (fun item _ => Bool.and_comm _ _)
  rw [split first second,split second first,common]
  omega

/-- Nothing is counted in excess or missed where no stream rolls and no status has changed. -/
theorem balanced_of_unchanged {status : SupportStatus} {osMajor : Option Int} {loadedOn today : Date}
    {items : List (AppStreamKey × Finset SystemInfo)}
    (unchanged : ∀ entry ∈ items, entry.1.appStreamEntity.rolling = false ∧ entry.2 ≠ ∅ ∧
      statusOn today entry.1.appStreamEntity = statusOn loadedOn entry.1.appStreamEntity) :
    Balanced status osMajor loadedOn today items := by
  have excess : items.filter (inExcess status osMajor loadedOn today) = [] := by
    refine List.filter_eq_nil_iff.mpr (fun entry member => ?_)
    obtain ⟨fixed,used,same⟩ := unchanged entry member
    simp only [inExcess,fixed,used,same,decide_eq_true_eq]
    grind
  have missing : items.filter (missed status osMajor loadedOn today) = [] := by
    refine List.filter_eq_nil_iff.mpr (fun entry member => ?_)
    obtain ⟨fixed,used,same⟩ := unchanged entry member
    simp only [missed,same,decide_eq_true_eq]
    grind
  constructor
  · rw [excess,missing]
  · rw [excess,missing]
    simp [hostsOf]

theorem card_eq_iff {α : Type} [DecidableEq α] (first second : Finset α) :
    first.card = second.card ↔ (first \ second).card = (second \ first).card := by
  have one := Finset.card_sdiff_add_card_inter first second
  have other := Finset.card_sdiff_add_card_inter second first
  rw [Finset.inter_comm] at other
  omega

theorem hostsOf_sdiff (first second : AppStreamKey × Finset SystemInfo → Bool)
    (items : List (AppStreamKey × Finset SystemInfo)) :
    hostsOf (items.filter first) \ hostsOf (items.filter second) =
      hostsOf (items.filter (fun entry => first entry && !second entry)) \ hostsOf (items.filter second) := by
  ext info
  simp only [Finset.mem_sdiff,mem_hostsOf,List.mem_filter,Bool.and_eq_true,Bool.not_eq_true']
  constructor
  · intro ⟨⟨entry,⟨member,chosen⟩,holds⟩,absent⟩
    have other : second entry = false := by
      by_contra shown
      exact absent ⟨entry,⟨member,by simpa using shown⟩,holds⟩
    exact ⟨⟨entry,⟨member,chosen,other⟩,holds⟩,absent⟩
  · intro ⟨⟨entry,⟨member,chosen,_⟩,holds⟩,absent⟩
    exact ⟨⟨entry,⟨member,chosen⟩,holds⟩,absent⟩

section Agreement

variable {loadedOn today : Date} {systemsByStream : SystemsByStream} (loaded : LoadedOn loadedOn systemsByStream)
  (status : SupportStatus) (osMajor : Option Int)

include loaded

/-- The streams counted in excess and the missed ones, as what tells two selections apart. -/
theorem excess_and_missed :
    systemsByStream.items.filter (inExcess status osMajor loadedOn today) = systemsByStream.items.filter
      (fun entry => counts status osMajor entry && !shows status osMajor today entry) ∧
    systemsByStream.items.filter (missed status osMajor loadedOn today) = systemsByStream.items.filter
      (fun entry => shows status osMajor today entry && !counts status osMajor entry) := by
  constructor
  · refine List.filter_congr (fun entry member => ?_)
    rw [Bool.eq_iff_iff]
    simp only [inExcess,counts,shows,loaded entry member,Bool.and_eq_true,Bool.not_eq_true',
      decide_eq_true_eq,decide_eq_false_iff_not]
    grind
  · refine List.filter_congr (fun entry member => ?_)
    rw [Bool.eq_iff_iff]
    simp only [missed,counts,shows,loaded entry member,Bool.and_eq_true,Bool.not_eq_true',
      decide_eq_true_eq,decide_eq_false_iff_not]
    grind

theorem agree_iff {casing : Casing} {catalogue : Catalogue} {related : Bool}
    {response : RelevantAppStreamsResponse}
    (answered : buildRelevantAppStreams casing today catalogue systemsByStream related = .ok response)
    (order : SetOrder String) {status : SupportStatus} (listed : status ∈ notifyStatuses) :
    Agree status osMajor (getRelevantAppstreams order systemsByStream) response ↔
      Balanced status osMajor loadedOn today systemsByStream.items := by
  have used : status ≠ .notInstalled := fun same => absurd listed (by rw [same]; decide)
  have rows := installedWith_perm status osMajor today used answered
  have shown : rowHosts (installedWith status osMajor response) =
      hostsOf (systemsByStream.items.filter (shows status osMajor today)) := by
    ext info
    simp only [mem_rowHosts,mem_hostsOf,rows.mem_iff,List.mem_map,exists_exists_and_eq_and]
    rfl
  obtain ⟨excess,missing⟩ : systemsByStream.items.filter (inExcess status osMajor loadedOn today) = _ ∧ _ :=
    excess_and_missed loaded status osMajor
  have streams := length_filter_eq_iff (counts status osMajor) (shows status osMajor today) systemsByStream.items
  have hosts := card_eq_iff (hostsOf (systemsByStream.items.filter (counts status osMajor)))
    (hostsOf (systemsByStream.items.filter (shows status osMajor today)))
  rw [hostsOf_sdiff,hostsOf_sdiff (shows status osMajor today),← excess,← missing] at hosts
  rw [← excess,← missing] at streams
  constructor
  · intro agree
    have count := agree.count
    have systemsCount := agree.systemsCount
    rw [reported_eq listed,rows.length_eq,List.length_map] at count
    rw [reported_eq listed,shown] at systemsCount
    exact ⟨streams.mp count,hosts.mp systemsCount⟩
  · intro balanced
    refine ⟨?_,?_⟩
    · rw [reported_eq listed,rows.length_eq,List.length_map]
      exact streams.mpr balanced.streams
    · rw [reported_eq listed,shown]
      exact hosts.mpr balanced.hosts

end Agreement

private def php80 (rolling : Bool) : AppStreamEntity := {
  name := "php",displayName := "PHP 8.0",applicationStreamName := "PHP 8.0",stream := "8.0",impl := .module
  startDate := some (.mk 2022 5 17),endDate := some (.mk 2024 11 30),osMajor := some 9,rolling := rolling
  supportStatus := .retired}

private def phpMapping (rolling : Bool) : SystemsByStream :=
  Dict.empty.set ⟨"php",php80 rolling⟩ {⟨⟨1⟩,"host",9,some 4⟩}

private theorem phpMapping_loaded (rolling : Bool) : LoadedOn (.mk 2025 1 1) (phpMapping rolling) := by
  intro entry member
  rw [List.mem_singleton.mp member]
  cases rolling <;> decide

private theorem phpMapping_answers (rolling : Bool) : ∃ response, buildRelevantAppStreams .ascii (.mk 2026 1 1)
    ⟨[],.empty,.empty⟩ (phpMapping rolling) false = .ok response := by
  cases rolling <;> exact ⟨_,rfl⟩

end Notificator
end Roadmap
