import Roadmap.Notificator.AppStreams

/-! The shape of the application stream sections: every section has the same RHEL major
versions, and a host counts once in each of them. -/
namespace Roadmap
namespace Notificator
open Dict

def osKeysOf (items : List (AppStreamKey × Finset SystemInfo)) : Finset String :=
  (items.map (fun entry => osKey entry.1.appStreamEntity.osMajor)).toFinset

theorem mem_osKeysOf (items : List (AppStreamKey × Finset SystemInfo)) (key : String) :
    key ∈ osKeysOf items ↔ ∃ entry ∈ items, osKey entry.1.appStreamEntity.osMajor = key := by
  simp [osKeysOf]

theorem allOsKeys_eq (items : List (AppStreamKey × Finset SystemInfo)) (tally : AppstreamTally) :
    (items.foldl countAppstream tally).allOsKeys = tally.allOsKeys ∪ osKeysOf items := by
  induction items generalizing tally with
  | nil => simp [osKeysOf]
  | cons entry rest ih =>
    have added : (countAppstream tally entry).allOsKeys =
        insert (osKey entry.1.appStreamEntity.osMajor) tally.allOsKeys := by
      by_cases notified : entry.1.appStreamEntity.supportStatus ∈ notifyStatuses <;>
        simp [countAppstream,notified]
    rw [List.foldl_cons,ih,added,osKeysOf,osKeysOf,List.map_cons,List.toFinset_cons,Finset.insert_union,
      Finset.union_insert]

theorem mem_streamEvents {items : List (AppStreamKey × Finset SystemInfo)} {event : String × String × Finset SystemInfo}
    (member : event ∈ streamEvents items) : event.2.1 ∈ osKeysOf items := by
  obtain ⟨entry,present,rfl⟩ := List.mem_map.mp member
  exact (mem_osKeysOf items _).mpr ⟨entry,(List.mem_filter.mp present).1,rfl⟩

section Shape

variable (items : List (AppStreamKey × Finset SystemInfo)) {status : SupportStatus}
  (listed : status ∈ notifyStatuses)

include listed

theorem section_present : ((resolveSystems (items.foldl countAppstream emptyTally)).get?
    (appstreamKey status)).isSome := by
  have start : (emptyTally.sections.get? (appstreamKey status)).isSome := by
    rcases List.mem_pair.mp listed with rfl | rfl <;> rfl
  refine isSome_get?_groupAt _ _ ?_
  rw [(fold_countAppstream items emptyTally).1]
  exact isSome_get?_groupAt _ _ start

/-- The keys of a section before the sections are filled up. -/
theorem resolved_keys {key : String} (present : ((resolveSystems (items.foldl countAppstream emptyTally)).at?
    (appstreamKey status) key).isSome) : key ∈ osKeysOf items := by
  obtain ⟨sections,unique⟩ := fold_countAppstream items emptyTally
  obtain ⟨noSection,noSystems⟩ := at?_emptyTally listed key
  rw [resolveSystems,isSome_at?_groupAt,sections,isSome_at?_groupAt,noSection] at present
  rcases present with (old | ⟨_,event⟩) | ⟨systems,entry⟩
  · simp at old
  · obtain ⟨event,member,same⟩ := List.mem_map.mp event
    have listedKey : event.2.1 = key := congrArg (fun event => event.2.1) same
    exact listedKey ▸ mem_streamEvents member
  · have held : (((items.foldl countAppstream emptyTally).uniqueSystems).at? (appstreamKey status) key).isSome := by
      rw [(mem_entries _ _ _ _).mp entry]
      rfl
    rw [unique,isSome_at?_groupAt,noSystems] at held
    rcases held with old | ⟨_,event⟩
    · simp at old
    · exact mem_streamEvents event

/-- Every section lists the os keys of all streams, whatever their status. -/
theorem section_keys (order : SetOrder String) (systemsByStream : SystemsByStream) (key : String) :
    ((getRelevantAppstreams order systemsByStream).at? (appstreamKey status) key).isSome ↔
      key ∈ osKeysOf systemsByStream.items := by
  have keys : (systemsByStream.items.foldl countAppstream emptyTally).allOsKeys =
      osKeysOf systemsByStream.items := by
    rw [allOsKeys_eq]
    exact Finset.empty_union _
  have here := (mem_keys _ _).mpr (section_present systemsByStream.items listed)
  rw [getRelevantAppstreams,fillSections,isSome_at?_groupAt]
  simp only [List.mem_flatMap,List.mem_map,order.members,Prod.mk.injEq,keys]
  constructor
  · rintro (old | ⟨_,_,_,_,inside,_,rfl,_⟩)
    · exact resolved_keys systemsByStream.items listed old
    · exact inside
  · intro inside
    exact Or.inr ⟨(),_,here,key,inside,rfl,rfl,trivial⟩

end Shape

section Hosts

variable (entries : List (AppStreamKey × Finset SystemInfo))

theorem hostsOf_card_le : (hostsOf entries).card ≤ (entries.map (fun entry => entry.2.card)).sum := by
  induction entries with
  | nil => exact Nat.le_refl _
  | cons entry rest ih =>
    rw [hostsOf,List.foldr_cons,← hostsOf,List.map_cons,List.sum_cons]
    exact (Finset.card_union_le _ _).trans (Nat.add_le_add_left ih _)

theorem card_le_hostsOf {entry : AppStreamKey × Finset SystemInfo} (member : entry ∈ entries) :
    entry.2.card ≤ (hostsOf entries).card :=
  Finset.card_le_card (fun info inside => (mem_hostsOf entries info).mpr ⟨entry,member,inside⟩)

end Hosts

/-- The streams of a mapping that a section counts under an os major version. -/
def streamsIn (systemsByStream : SystemsByStream) (status : SupportStatus) (osMajor : Option Int) :
    List (AppStreamKey × Finset SystemInfo) :=
  systemsByStream.items.filter (counts status osMajor)

theorem appstream_notification_counts (order : SetOrder String) (systemsByStream : SystemsByStream) :
    ∀ status ∈ notifyStatuses,
      (∃ group, (getRelevantAppstreams order systemsByStream).get? (appstreamKey status) = some group ∧
        ∀ key, key ∈ group.keys ↔
          ∃ entry ∈ systemsByStream.items, osKey entry.1.appStreamEntity.osMajor = key) ∧
      ∀ osMajor,
        ((∃ entry ∈ systemsByStream.items, entry.1.appStreamEntity.osMajor = osMajor) →
          (getRelevantAppstreams order systemsByStream).at? (appstreamKey status) (osKey osMajor) = some
            ⟨(streamsIn systemsByStream status osMajor).length,
              (hostsOf (streamsIn systemsByStream status osMajor)).card⟩) ∧
        (hostsOf (streamsIn systemsByStream status osMajor)).card ≤
          ((streamsIn systemsByStream status osMajor).map (fun entry => entry.2.card)).sum ∧
        ∀ entry ∈ streamsIn systemsByStream status osMajor,
          entry.2.card ≤ (hostsOf (streamsIn systemsByStream status osMajor)).card := by
  intro status listed
  constructor
  · have present : ((getRelevantAppstreams order systemsByStream).get? (appstreamKey status)).isSome :=
      isSome_get?_groupAt _ _ (section_present systemsByStream.items listed)
    obtain ⟨group,found⟩ := Option.isSome_iff_exists.mp present
    refine ⟨group,found,fun key => ?_⟩
    rw [← mem_osKeysOf,← section_keys listed order systemsByStream key,at?,found,mem_keys]
    rfl
  · intro osMajor
    refine ⟨fun seen => ?_,hostsOf_card_le _,fun entry member => card_le_hostsOf _ member⟩
    obtain ⟨entry,member,rfl⟩ := seen
    have inside := (mem_osKeysOf systemsByStream.items _).mpr ⟨entry,member,rfl⟩
    obtain ⟨shown,found⟩ := Option.isSome_iff_exists.mp ((section_keys listed order systemsByStream _).mpr inside)
    have value := reported_eq listed entry.1.appStreamEntity.osMajor order systemsByStream
    rw [reported,found] at value
    rw [found]
    exact congrArg some value

private def retiredModule (name stream : String) : AppStreamKey := ⟨name,{
  name := name,applicationStreamName := name,stream := stream,impl := .module,osMajor := some 9
  startDate := some (.mk 2022 5 17),endDate := some (.mk 2024 11 30),supportStatus := .retired}⟩

private def oneHostTwice : SystemsByStream :=
  (Dict.empty.set (retiredModule "php" "8.0") {⟨⟨1⟩,"host",9,some 4⟩}).set (retiredModule "ruby" "3.0")
    {⟨⟨1⟩,"host",9,some 4⟩}

theorem appstream_notification_counts_twice : ∃ order, (getRelevantAppstreams order oneHostTwice).at?
    (appstreamKey .retired) (osKey (some 9)) = some ⟨2,1⟩ := by
  obtain ⟨order⟩ : Nonempty (SetOrder String) := SetOrder.nonempty
  have counted := ((appstream_notification_counts order oneHostTwice .retired (by decide)).2 (some 9)).1
    ⟨_,.head _,rfl⟩
  exact ⟨order,counted⟩

end Notificator
end Roadmap
