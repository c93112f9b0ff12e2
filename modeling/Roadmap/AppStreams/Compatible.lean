import Roadmap.AppStreams.Rows

/-! Batches of hosts that never meet under one stream identity with records that differ. At
every identity the rows for all their hosts are those of the batches, combined. -/
namespace Roadmap
open Dict

/-- A related row without the name of the stream that produced it. -/
def RelevantAppStream.nameless (row : RelevantAppStream) : RelevantAppStream :=
  if row.related then {row with name := ""} else row

theorem nameless_identity (row : RelevantAppStream) : row.nameless.identity = row.identity := by
  unfold RelevantAppStream.nameless
  split <;> rfl

def uniteHosts (left right : RelevantAppStream) : RelevantAppStream :=
  let systems := left.systemsDetail ∪ right.systemsDetail
  {left with count := systems.card,systemsDetail := systems,systems := getSystemUuids systems}

/-- Two records that the rows show alike: both are left out, or their type and dates agree. -/
def SameRecord (first second : AppStreamEntity) : Prop :=
  first.rolling = second.rolling ∧ (first.rolling = false →
    first.applicationStreamType = second.applicationStreamType ∧ first.startDate = second.startDate ∧
      first.endDate = second.endDate)

theorem SameRecord.symm {first second : AppStreamEntity} (same : SameRecord first second) :
    SameRecord second first :=
  ⟨same.1.symm,fun shown => by
    obtain ⟨type,start,finish⟩ := same.2 (same.1.trans shown)
    exact ⟨type.symm,start.symm,finish.symm⟩⟩

theorem SameRecord.trans {first second third : AppStreamEntity} (left : SameRecord first second)
    (right : SameRecord second third) : SameRecord first third :=
  ⟨left.1.trans right.1,fun shown => by
    obtain ⟨type,start,finish⟩ := left.2 shown
    obtain ⟨type',start',finish'⟩ := right.2 (left.1.symm.trans shown)
    exact ⟨type.trans type',start.trans start',finish.trans finish'⟩⟩

section Batches

variable (casing : Casing) (today : Date) (catalogue : Catalogue)

def Suggested (systems : List HostRowWithPackages) (app : AppStreamEntity) : Prop :=
  ∃ key ∈ usedKeys casing catalogue systems,
    app ∈ catalogue.modulesPackages ∧ suggests casing today key.appStreamEntity app = true

def relatedAt (systems : List HostRowWithPackages) (identity : StreamIdentity) : Option RelevantAppStream :=
  (Keyed.find RelevantAppStream.identity (relatedRows casing today catalogue systems) identity).map (·.nameless)

/-- Streams of one identity that batches may keep for each other: their rows are alike, and
they suggest the same records, of those that no host uses. -/
structure Alike (A B : List HostRowWithPackages) (left right : AppStreamKey) : Prop where
  record : SameRecord left.appStreamEntity right.appStreamEntity
  name : left.appStreamEntity.rolling = false → left.name = right.name
  suggested : ∀ app ∈ catalogue.modulesPackages, Unused casing catalogue A app.identity →
    Unused casing catalogue B app.identity →
      suggests casing today left.appStreamEntity app = suggests casing today right.appStreamEntity app

/-- The two batches never meet under one identity with records that differ. -/
structure Compatible (A B : List HostRowWithPackages) : Prop where
  used : ∀ left ∈ usedKeys casing catalogue A, ∀ right ∈ usedKeys casing catalogue B,
    left.identity = right.identity → Alike casing today catalogue A B left right
  suggested : ∀ left right, Suggested casing today catalogue A left →
    Suggested casing today catalogue B right → left.identity = right.identity →
      Unused casing catalogue A left.identity → Unused casing catalogue B left.identity →
        SameRecord left right
  hiddenFirst : ∀ key ∈ usedKeys casing catalogue A, key.appStreamEntity.rolling = true →
    Unused casing catalogue B key.identity → ∀ app, Suggested casing today catalogue B app →
      app.identity = key.identity → app.rolling = true
  hiddenSecond : ∀ key ∈ usedKeys casing catalogue B, key.appStreamEntity.rolling = true →
    Unused casing catalogue A key.identity → ∀ app, Suggested casing today catalogue A app →
      app.identity = key.identity → app.rolling = true

variable {casing today catalogue} {A B : List HostRowWithPackages}

theorem Alike.symm {left right : AppStreamKey} (alike : Alike casing today catalogue A B left right) :
    Alike casing today catalogue A B right left where
  record := alike.record.symm
  name shown := (alike.name (alike.record.1.trans shown)).symm
  suggested app listed unusedA unusedB := (alike.suggested app listed unusedA unusedB).symm

theorem Alike.trans {left middle right : AppStreamKey} (first : Alike casing today catalogue A B left middle)
    (second : Alike casing today catalogue A B middle right) :
    Alike casing today catalogue A B left right where
  record := first.record.trans second.record
  name shown := (first.name shown).trans (second.name (first.record.1.symm.trans shown))
  suggested app listed unusedA unusedB :=
    (first.suggested app listed unusedA unusedB).trans (second.suggested app listed unusedA unusedB)

theorem Compatible.symm (compatible : Compatible casing today catalogue A B) :
    Compatible casing today catalogue B A where
  used left inB right inA same := by
    have alike := (compatible.used right inA left inB same.symm).symm
    exact ⟨alike.record,alike.name,fun app listed unusedB unusedA => alike.suggested app listed unusedA unusedB⟩
  suggested left right inB inA same unusedB unusedA :=
    (compatible.suggested right left inA inB same.symm (same ▸ unusedA) (same ▸ unusedB)).symm
  hiddenFirst := compatible.hiddenSecond
  hiddenSecond := compatible.hiddenFirst

section Merge

variable {whole : List HostRowWithPackages} (order : EitherOrder A B whole)
  (compatible : Compatible casing today catalogue A B)

include order compatible

private theorem kept_alike {key left right : AppStreamKey} (used : key ∈ usedKeys casing catalogue whole)
    (inA : left ∈ usedKeys casing catalogue A) (inB : right ∈ usedKeys casing catalogue B)
    (same : key.identity = left.identity) (equal : left.identity = right.identity) :
    Alike casing today catalogue A B left key := by
  rcases (mem_usedKeys_either casing catalogue order key).mp used with first | second
  · have toRight := compatible.used key first right inB (same.trans equal)
    exact (compatible.used left inA right inB equal).trans toRight.symm
  · exact compatible.used left inA key second same.symm

omit order compatible in
theorem heldRow_alone {first second : List HostRowWithPackages}
    (order : EitherOrder first second whole) {key : AppStreamKey}
    (unused : Unused casing catalogue second key.identity) :
    heldRow casing today catalogue whole key = heldRow casing today catalogue first key := by
  rw [heldRow,heldAt_either casing catalogue order,heldAt_unused casing catalogue unused,Finset.union_empty]
  rfl

end Merge

/-! Installed rows. -/

variable (today) in
private theorem relevantAppStream_alike {left right : AppStreamKey}
    (record : SameRecord left.appStreamEntity right.appStreamEntity)
    (shown : left.appStreamEntity.rolling = false) (same : left.identity = right.identity)
    (systems : Finset SystemInfo) (related : Bool) :
    {relevantAppStream today left systems related with name := right.name} =
      relevantAppStream today right systems related := by
  obtain ⟨type,start,finish⟩ := record.2 shown
  simp only [AppStreamKey.identity,AppStreamEntity.identity,Prod.mk.injEq] at same
  obtain ⟨display,stream,major,minor⟩ := same
  simp only [relevantAppStream,display,stream,major,minor,type,start,finish,record.1]

private theorem uniteHosts_row {left right : AppStreamKey} {first second : Finset SystemInfo}
    (used : first.Nonempty) :
    uniteHosts (relevantAppStream today left first false) (relevantAppStream today right second false) =
      relevantAppStream today left (first ∪ second) false := by
  have hosts : first.card ≠ 0 := Finset.card_ne_zero.mpr used
  have more : (first ∪ second).card ≠ 0 := Finset.card_ne_zero.mpr (used.mono Finset.subset_union_left)
  simp only [uniteHosts,relevantAppStream,hosts,more,if_false]

private theorem heldRow_both (compatible : Compatible casing today catalogue A B) {key left right : AppStreamKey}
    (used : key ∈ usedKeys casing catalogue (A ++ B)) (inA : left ∈ usedKeys casing catalogue A)
    (inB : right ∈ usedKeys casing catalogue B) (same : key.identity = left.identity)
    (equal : left.identity = right.identity) :
    heldRow casing today catalogue (A ++ B) key = Option.merge uniteHosts
      (heldRow casing today catalogue A left) (heldRow casing today catalogue B right) := by
  have order : EitherOrder A B (A ++ B) := Or.inl rfl
  have alike := kept_alike order compatible used inA inB same equal
  have other := compatible.used left inA right inB equal
  have held : (mappingOf casing catalogue (A ++ B)).heldAt key =
      (mappingOf casing catalogue A).heldAt left ∪ (mappingOf casing catalogue B).heldAt right := by
    rw [heldAt_either casing catalogue order,
      heldAt_congr (mappingOf casing catalogue A) ((AppStreamKey.beq_iff key left).mpr same),
      heldAt_congr (mappingOf casing catalogue B) ((AppStreamKey.beq_iff key right).mpr (same.trans equal))]
  simp only [heldRow,installedRow,held,← alike.record.1,← other.record.1]
  cases rolls : left.appStreamEntity.rolling with
  | true => rfl
  | false =>
    have row := relevantAppStream_alike today alike.record rolls same.symm
      ((mappingOf casing catalogue A).heldAt left ∪ (mappingOf casing catalogue B).heldAt right) false
    rw [← alike.name rolls] at row
    simp only [Bool.false_eq_true,if_false,Option.merge_some_some]
    rw [uniteHosts_row (heldAt_used casing catalogue inA)]
    exact congrArg some row.symm

theorem find_installedRows_either (compatible : Compatible casing today catalogue A B)
    (identity : StreamIdentity) :
    Keyed.find RelevantAppStream.identity (installedRows casing today catalogue (A ++ B)) identity =
      Option.merge uniteHosts
        (Keyed.find RelevantAppStream.identity (installedRows casing today catalogue A) identity)
        (Keyed.find RelevantAppStream.identity (installedRows casing today catalogue B) identity) := by
  have order : EitherOrder A B (A ++ B) := Or.inl rfl
  have swapped : EitherOrder B A (A ++ B) := Or.inr rfl
  simp only [find_installedRows]
  cases inB : keptAt casing catalogue B identity with
  | none =>
    have unused := (keptAt_none casing catalogue).mp inB
    rw [keptAt_alone casing catalogue order unused]
    cases inA : keptAt casing catalogue A identity with
    | none => rfl
    | some left =>
      have same := (keptAt_some casing catalogue inA).2
      simp only [Option.bind_some,Option.bind_none,Option.merge_none_right]
      exact heldRow_alone order (same.symm ▸ unused)
  | some right =>
    obtain ⟨usedB,sameB⟩ := keptAt_some casing catalogue inB
    cases inA : keptAt casing catalogue A identity with
    | none =>
      have unused := (keptAt_none casing catalogue).mp inA
      rw [keptAt_alone casing catalogue swapped unused,inB]
      simp only [Option.bind_some,Option.bind_none,Option.merge_none_left]
      exact heldRow_alone swapped (sameB.symm ▸ unused)
    | some left =>
      obtain ⟨usedA,sameA⟩ := keptAt_some casing catalogue inA
      cases inWhole : keptAt casing catalogue (A ++ B) identity with
      | none =>
        have used := (mem_usedKeys_either casing catalogue order left).mpr (Or.inl usedA)
        exact absurd sameA ((keptAt_none casing catalogue).mp inWhole left used)
      | some key =>
        obtain ⟨used,same⟩ := keptAt_some casing catalogue inWhole
        exact heldRow_both compatible used usedA usedB (same.trans sameA.symm) (sameA.trans sameB.symm)

/-! Related rows. -/

theorem keptAt_of_kept {systems : List HostRowWithPackages} {key : AppStreamKey}
    (kept : key ∈ keptKeys casing catalogue systems) :
    keptAt casing catalogue systems key.identity = some key :=
  Keyed.find_of_mem _ (distinct_keys _) kept

theorem suggested_of_kept {systems : List HostRowWithPackages} {source : AppStreamKey}
    {app : AppStreamEntity} (kept : source ∈ keptKeys casing catalogue systems)
    (listed : app ∈ catalogue.modulesPackages)
    (suggested : suggests casing today source.appStreamEntity app = true) :
    Suggested casing today catalogue systems app :=
  ⟨source,used_of_kept casing catalogue kept,listed,suggested⟩

section Related

variable {whole : List HostRowWithPackages} (order : EitherOrder A B whole)
  (compatible : Compatible casing today catalogue A B) {identity : StreamIdentity}
  (unusedA : Unused casing catalogue A identity) (unusedB : Unused casing catalogue B identity)

include order compatible unusedA unusedB

/-- A kept key of all hosts suggests what the key of the second batch suggests. -/
private theorem suggests_kept {key right : AppStreamKey} (kept : key ∈ keptKeys casing catalogue whole)
    (inB : keptAt casing catalogue B key.identity = some right) {app : AppStreamEntity}
    (listed : app ∈ catalogue.modulesPackages) (same : app.identity = identity) :
    suggests casing today key.appStreamEntity app = suggests casing today right.appStreamEntity app := by
  obtain ⟨usedB,sameB⟩ := keptAt_some casing catalogue inB
  cases inA : keptAt casing catalogue A key.identity with
  | none =>
    have alone := keptAt_alone casing catalogue order.symm ((keptAt_none casing catalogue).mp inA)
    rw [keptAt_of_kept kept,inB] at alone
    rw [Option.some.inj alone]
  | some left =>
    obtain ⟨usedA,sameA⟩ := keptAt_some casing catalogue inA
    have equal := sameA.trans sameB.symm
    have alike := kept_alike order compatible (used_of_kept casing catalogue kept) usedA usedB sameA.symm equal
    subst same
    exact (alike.symm.trans (compatible.used left usedA right usedB equal)).suggested app listed unusedA unusedB

theorem suggestedAt_alone (silent : suggestedAt casing today catalogue B identity = none) :
    suggestedAt casing today catalogue whole identity = suggestedAt casing today catalogue A identity := by
  let own := fun key : AppStreamKey => (keptAt casing catalogue B key.identity).isNone
  have foreign : ∀ key ∈ usedKeys casing catalogue B, own key = false := by
    intro key used
    cases inB : keptAt casing catalogue B key.identity with
    | none => exact absurd rfl ((keptAt_none casing catalogue).mp inB key used)
    | some right => simp [own,inB]
  have respects : ∀ left right : AppStreamKey, left.identity = right.identity → own left = own right := by
    intro left right same
    simp only [own,same]
  have quiet := suggestedAt_none casing today catalogue |>.mp silent
  rw [suggestedAt_filter casing today catalogue own,suggestedAt_filter casing today catalogue own,
    keptKeys_alone casing catalogue order foreign respects]
  · intro key kept notOwn app listed suggested same
    obtain ⟨right,inB⟩ := Option.isSome_iff_exists.mp (Option.isNone_eq_false_iff.mp notOwn)
    obtain ⟨usedB,sameB⟩ := keptAt_some casing catalogue inB
    have alike := compatible.used key (used_of_kept casing catalogue kept) right usedB sameB.symm
    subst same
    exact quiet right (Keyed.find_mem _ inB) app listed
      (alike.suggested app listed unusedA unusedB ▸ suggested) rfl
  · intro key kept notOwn app listed suggested same
    obtain ⟨right,inB⟩ := Option.isSome_iff_exists.mp (Option.isNone_eq_false_iff.mp notOwn)
    have agree := suggests_kept order compatible unusedA unusedB kept inB listed same
    exact quiet right (Keyed.find_mem _ inB) app listed (agree ▸ suggested) same

/-- What both batches suggest all hosts suggest, by a record that shows the same row. -/
theorem suggestedAt_both {left right : AppStreamKey}
    (inA : suggestedAt casing today catalogue A identity = some left)
    (inB : suggestedAt casing today catalogue B identity = some right) :
    SameRecord left.appStreamEntity right.appStreamEntity ∧ ∃ key,
      suggestedAt casing today catalogue whole identity = some key ∧
        SameRecord left.appStreamEntity key.appStreamEntity := by
  obtain ⟨sameLeft,source,kept,-,listed,suggested⟩ := suggestedAt_some casing today catalogue inA
  obtain ⟨sameRight,other,keptB,-,listedB,suggestedB⟩ := suggestedAt_some casing today catalogue inB
  subst sameLeft
  have fromA := suggested_of_kept kept listed suggested
  have fromB := suggested_of_kept keptB listedB suggestedB
  have leftRight := compatible.suggested _ _ fromA fromB sameRight.symm unusedA unusedB
  refine ⟨leftRight,?_⟩
  cases inWhole : suggestedAt casing today catalogue whole left.identity with
  | none =>
    -- The source of the first batch has a kept key among all hosts, which suggests the record too.
    have used := (mem_usedKeys_either casing catalogue order source).mpr
      (Or.inl (used_of_kept casing catalogue kept))
    obtain ⟨key,keptWhole,same⟩ := kept_of_used casing catalogue used
    have agree := suggests_kept order.symm compatible.symm unusedB unusedA keptWhole
      (same.symm ▸ keptAt_of_kept kept) listed rfl
    exact absurd rfl ((suggestedAt_none casing today catalogue).mp inWhole key keptWhole _ listed
      (agree.trans suggested))
  | some key =>
    obtain ⟨same,origin,keptWhole,-,listedWhole,suggestedWhole⟩ := suggestedAt_some casing today catalogue inWhole
    refine ⟨key,rfl,?_⟩
    rcases (mem_usedKeys_either casing catalogue order origin).mp
      (used_of_kept casing catalogue keptWhole) with first | second
    · have unused : Unused casing catalogue A key.identity ∧ Unused casing catalogue B key.identity :=
        same.symm ▸ ⟨unusedA,unusedB⟩
      have wholeRight := compatible.suggested _ _ ⟨origin,first,listedWhole,suggestedWhole⟩ fromB
        (same.trans sameRight.symm) unused.1 unused.2
      exact leftRight.trans wholeRight.symm
    · exact compatible.suggested _ _ fromA ⟨origin,second,listedWhole,suggestedWhole⟩ same.symm
        unusedA unusedB

end Related

private theorem relatedRow_alike {left right : AppStreamKey}
    (record : SameRecord left.appStreamEntity right.appStreamEntity) (same : left.identity = right.identity) :
    (relatedRow today left).map (·.nameless) = (relatedRow today right).map (·.nameless) := by
  rw [relatedRow,relatedRow,← record.1]
  cases rolls : left.appStreamEntity.rolling with
  | true => rfl
  | false =>
    have row := relevantAppStream_alike today record rolls same ∅ true
    simp only [Bool.false_eq_true,if_false,Option.map_some,← row]
    rfl

theorem relatedAt_either (compatible : Compatible casing today catalogue A B) {identity : StreamIdentity}
    (unusedA : Unused casing catalogue A identity) (unusedB : Unused casing catalogue B identity) :
    relatedAt casing today catalogue (A ++ B) identity = Option.merge (fun left _ => left)
      (relatedAt casing today catalogue A identity) (relatedAt casing today catalogue B identity) := by
  have order : EitherOrder A B (A ++ B) := Or.inl rfl
  have keptA := (keptAt_none casing catalogue).mpr unusedA
  have keptB := (keptAt_none casing catalogue).mpr unusedB
  have keptBoth := (keptAt_alone casing catalogue order unusedB).trans keptA
  simp only [relatedAt,find_relatedRows,keptA,keptB,keptBoth,Option.isNone_none,if_true]
  cases inB : suggestedAt casing today catalogue B identity with
  | none =>
    rw [suggestedAt_alone order compatible unusedA unusedB inB]
    exact Option.merge_none_right.symm
  | some right =>
    cases inA : suggestedAt casing today catalogue A identity with
    | none =>
      rw [suggestedAt_alone order.symm compatible.symm unusedB unusedA inA,inB]
      exact Option.merge_none_left.symm
    | some left =>
      obtain ⟨leftRight,key,inBoth,leftKey⟩ := suggestedAt_both order compatible unusedA unusedB inA inB
      have same := (suggestedAt_some casing today catalogue inA).1.trans
        (suggestedAt_some casing today catalogue inBoth).1.symm
      rw [inBoth,Option.bind_some,Option.bind_some,Option.bind_some,← relatedRow_alike leftKey same,
        relatedRow,relatedRow,← leftRight.1]
      cases left.appStreamEntity.rolling <;> rfl

theorem relatedAt_kept {systems : List HostRowWithPackages} {identity : StreamIdentity}
    (used : ¬ Unused casing catalogue systems identity) :
    relatedAt casing today catalogue systems identity = none := by
  rw [relatedAt,find_relatedRows,if_neg]
  · rfl
  · rwa [Option.isNone_iff_eq_none,keptAt_none]

/-- Where the other batch uses the identity but does not show it, the stream is rolling, and
then no row shows it. -/
theorem relatedAt_hidden (compatible : Compatible casing today catalogue A B) {identity : StreamIdentity}
    (used : ¬ (Unused casing catalogue A identity ∧ Unused casing catalogue B identity))
    (hidden : Keyed.find RelevantAppStream.identity (installedRows casing today catalogue B) identity = none) :
    relatedAt casing today catalogue A identity = none := by
  by_cases unusedA : Unused casing catalogue A identity
  · cases inB : keptAt casing catalogue B identity with
    | none => exact absurd ⟨unusedA,(keptAt_none casing catalogue).mp inB⟩ used
    | some right =>
      obtain ⟨usedB,same⟩ := keptAt_some casing catalogue inB
      rw [find_installedRows,inB,Option.bind_some,heldRow,installedRow] at hidden
      split at hidden
      next rolls =>
        rw [relatedAt,find_relatedRows,(keptAt_none casing catalogue).mpr unusedA]
        cases inA : suggestedAt casing today catalogue A identity with
        | none => rfl
        | some left =>
          obtain ⟨sameLeft,source,kept,-,listed,suggested⟩ := suggestedAt_some casing today catalogue inA
          have hides := compatible.hiddenSecond right usedB rolls (same.symm ▸ unusedA) _
            (suggested_of_kept kept listed suggested) (sameLeft.trans same.symm)
          simp only [Option.isNone_none,if_true,Option.bind_some,relatedRow,hides,Option.map_none]
      next => contradiction
  · exact relatedAt_kept unusedA

end Batches

end Roadmap
