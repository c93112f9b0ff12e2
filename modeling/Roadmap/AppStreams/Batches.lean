import Roadmap.AppStreams.Compatible

/-! Responses for batches of hosts and the merge that the host-id endpoint documents:
installed rows are united by stream identity, related rows are collected by identity
without the streams installed in any batch, and the metadata is recalculated. -/
namespace Roadmap
open Dict

namespace RelevantAppStreamsResponse

def installed (response : RelevantAppStreamsResponse) : List RelevantAppStream :=
  response.data.filter (fun row => !row.related)

def related (response : RelevantAppStreamsResponse) : List RelevantAppStream :=
  response.data.filter (·.related)

def mergeInstalled (first second : RelevantAppStreamsResponse) : List RelevantAppStream :=
  Keyed.merge RelevantAppStream.identity uniteHosts first.installed second.installed

def mergeRelated (first second : RelevantAppStreamsResponse) : List RelevantAppStream :=
  (Keyed.merge RelevantAppStream.identity (fun left _ => left)
    (first.related.map (·.nameless)) (second.related.map (·.nameless))).filter (fun row =>
      row.identity ∉ (first.installed ++ second.installed).map (·.identity))

def merge (first second : RelevantAppStreamsResponse) : RelevantAppStreamsResponse :=
  let rows := mergeInstalled first second ++ mergeRelated first second
  ⟨recountStreams rows,rows⟩

/-- Up to the names of related rows and the order, the response for all hosts is the merge of
the responses for the batches, and these agree on the dates and status of a stream. -/
def Determine (first second whole : RelevantAppStreamsResponse) : Prop :=
  (whole.data.map (·.nameless)).Perm (first.merge second).data ∧
  whole.metaData = (first.merge second).metaData ∧
  ∀ left ∈ first.installed, ∀ right ∈ second.installed, left.identity = right.identity →
    left.startDate = right.startDate ∧ left.endDate = right.endDate ∧
      left.supportStatus = right.supportStatus

instance (first second whole : RelevantAppStreamsResponse) : Decidable (first.Determine second whole) :=
  inferInstanceAs (Decidable (_ ∧ _ ∧ _))

end RelevantAppStreamsResponse

section Batches

variable {casing : Casing} {today : Date} {catalogue : Catalogue} {A B : List HostRowWithPackages}

/-! Responses. -/

section Responses

variable {first second : RelevantAppStreamsResponse}

private theorem recountStreams_perm {rows others : List RelevantAppStream} (same : rows.Perm others) :
    recountStreams rows = recountStreams others := by
  rw [recountStreams,recountStreams,same.length_eq,(same.map (·.count)).sum_nat]

private theorem recountStreams_nameless (rows : List RelevantAppStream) :
    recountStreams (rows.map (·.nameless)) = recountStreams rows := by
  have count : ∀ row : RelevantAppStream, row.nameless.count = row.count := by
    intro row
    unfold RelevantAppStream.nameless
    split <;> rfl
  simp only [recountStreams,List.length_map,List.map_map,Function.comp_def,count]

variable (casing today catalogue) in
structure Lists (systems : List HostRowWithPackages) (response : RelevantAppStreamsResponse) : Prop where
  installed : response.installed.Perm (installedRows casing today catalogue systems)
  related : response.related.Perm (relatedRows casing today catalogue systems)

private theorem lists_of_answer {systems : List HostRowWithPackages} {response : RelevantAppStreamsResponse}
    (answered : getRelevantAppStreamsForHosts casing today catalogue true systems = .ok response) :
    Lists casing today catalogue systems response := by
  obtain ⟨-,-,-,rows⟩ := response_rows casing today catalogue answered
  have installed : ∀ row ∈ installedRows casing today catalogue systems, row.related = false := by
    intro row listed
    obtain ⟨key,-,-,rfl⟩ := mem_installedRows casing today catalogue listed
    rfl
  have related : ∀ row ∈ relatedRows casing today catalogue systems, row.related = true := by
    intro row listed
    exact mem_relatedRows casing today catalogue listed
  constructor
  · refine (rows.filter _).trans (List.Perm.of_eq ?_)
    rw [List.filter_append,List.filter_eq_self.mpr (fun row listed => by simp [installed row listed]),
      List.filter_eq_nil_iff.mpr (fun row listed => by simp [related row listed]),List.append_nil]
  · refine (rows.filter _).trans (List.Perm.of_eq ?_)
    rw [List.filter_append,List.filter_eq_nil_iff.mpr (fun row listed => by simp [installed row listed]),
      List.nil_append,List.filter_eq_self.mpr related]

private theorem Lists.distinct {systems : List HostRowWithPackages} {response : RelevantAppStreamsResponse}
    (lists : Lists casing today catalogue systems response) :
    Keyed.Distinct RelevantAppStream.identity response.installed ∧
      Keyed.Distinct RelevantAppStream.identity response.related :=
  ⟨Keyed.distinct_perm _ (distinct_installedRows casing today catalogue systems) lists.installed.symm,
    Keyed.distinct_perm _ (distinct_relatedRows casing today catalogue systems) lists.related.symm⟩

variable (compatible : Compatible casing today catalogue A B)
  (inFirst : Lists casing today catalogue A first) (inSecond : Lists casing today catalogue B second)

include compatible inFirst inSecond

private theorem installedRows_merge :
    (installedRows casing today catalogue (A ++ B)).Perm (first.mergeInstalled second) := by
  have keeps : ∀ left right, (uniteHosts left right).identity = left.identity := fun _ _ => rfl
  refine Keyed.perm_merge keeps inFirst.distinct.1 inSecond.distinct.1
    (distinct_installedRows casing today catalogue _) (fun identity => ?_)
  rw [find_installedRows_either compatible,Keyed.find_perm _ inFirst.distinct.1 inFirst.installed,
    Keyed.find_perm _ inSecond.distinct.1 inSecond.installed]

omit compatible inSecond in
private theorem Lists.namelessDistinct : Keyed.Distinct RelevantAppStream.identity
    (first.related.map (·.nameless)) := by
  rw [Keyed.Distinct,List.map_map]
  simp only [Function.comp_def,nameless_identity]
  exact inFirst.distinct.2

omit compatible in
private theorem find_mergeRelated (identity : StreamIdentity) :
    Keyed.find RelevantAppStream.identity (first.mergeRelated second) identity =
      if decide (identity ∉ (first.installed ++ second.installed).map (·.identity)) then
        Option.merge (fun left _ => left) (relatedAt casing today catalogue A identity)
          (relatedAt casing today catalogue B identity)
      else none := by
  let kept := fun identity => decide (identity ∉ (first.installed ++ second.installed).map (·.identity))
  rw [RelevantAppStreamsResponse.mergeRelated,Keyed.find_filter _ kept,Keyed.find_merge (fun _ _ => rfl),
    Keyed.find_map _ nameless_identity,Keyed.find_map _ nameless_identity,
    Keyed.find_perm _ inFirst.distinct.2 inFirst.related,
    Keyed.find_perm _ inSecond.distinct.2 inSecond.related]
  rfl

omit compatible in
private theorem not_installed (identity : StreamIdentity) :
    identity ∉ (first.installed ++ second.installed).map (·.identity) ↔
      Keyed.find RelevantAppStream.identity (installedRows casing today catalogue A) identity = none ∧
      Keyed.find RelevantAppStream.identity (installedRows casing today catalogue B) identity = none := by
  rw [← Keyed.find_perm _ inFirst.distinct.1 inFirst.installed,
    ← Keyed.find_perm _ inSecond.distinct.1 inSecond.installed,Keyed.find_eq_none,Keyed.find_eq_none]
  simp only [List.map_append,List.mem_append,List.mem_map,not_or,not_exists,not_and]

private theorem relatedRows_merge :
    ((relatedRows casing today catalogue (A ++ B)).map (·.nameless)).Perm (first.mergeRelated second) := by
  have merged : Keyed.Distinct RelevantAppStream.identity (first.mergeRelated second) := by
    apply List.Nodup.sublist (List.Sublist.map _ List.filter_sublist)
    exact Keyed.distinct_merge (fun _ _ => rfl) inFirst.namelessDistinct inSecond.namelessDistinct
  have listed : Keyed.Distinct RelevantAppStream.identity
      ((relatedRows casing today catalogue (A ++ B)).map (·.nameless)) := by
    rw [Keyed.Distinct,List.map_map]
    simp only [Function.comp_def,nameless_identity]
    exact distinct_relatedRows casing today catalogue (A ++ B)
  refine Keyed.perm_of_find _ listed merged (fun identity => ?_)
  rw [Keyed.find_map _ nameless_identity,find_mergeRelated inFirst inSecond]
  simp only [decide_eq_true_eq,not_installed inFirst inSecond]
  by_cases unused : Unused casing catalogue A identity ∧ Unused casing catalogue B identity
  · have keptA := (keptAt_none casing catalogue).mpr unused.1
    have keptB := (keptAt_none casing catalogue).mpr unused.2
    rw [if_pos]
    · exact relatedAt_either compatible unused.1 unused.2
    · simp only [find_installedRows,keptA,keptB,Option.bind_none,and_self]
  · have used : ¬ Unused casing catalogue (A ++ B) identity := by
      intro whole
      refine unused ⟨fun key inA => whole key ?_,fun key inB => whole key ?_⟩
      · exact (mem_usedKeys_either casing catalogue (Or.inl rfl) key).mpr (Or.inl inA)
      · exact (mem_usedKeys_either casing catalogue (Or.inl rfl) key).mpr (Or.inr inB)
    refine (relatedAt_kept used).trans ?_
    split
    next hidden =>
      rw [relatedAt_hidden compatible unused hidden.2,
        relatedAt_hidden compatible.symm (fun both => unused both.symm) hidden.1]
      rfl
    next => rfl

private theorem installedRows_agree {left right : RelevantAppStream} (inA : left ∈ first.installed)
    (inB : right ∈ second.installed) (same : left.identity = right.identity) :
    left.startDate = right.startDate ∧ left.endDate = right.endDate ∧
      left.supportStatus = right.supportStatus := by
  obtain ⟨key,keptA,shown,rfl⟩ := mem_installedRows casing today catalogue (inFirst.installed.subset inA)
  obtain ⟨other,keptB,-,rfl⟩ := mem_installedRows casing today catalogue (inSecond.installed.subset inB)
  have usedA := used_of_kept casing catalogue keptA
  have usedB := used_of_kept casing catalogue keptB
  obtain ⟨-,start,finish⟩ := (compatible.used key usedA other usedB same).record.2 shown
  have countA := Finset.card_ne_zero.mpr (heldAt_used casing catalogue usedA)
  have countB := Finset.card_ne_zero.mpr (heldAt_used casing catalogue usedB)
  simp only [relevantAppStream,start,finish,countA,countB,if_false,and_self]

end Responses

/-- Of compatible batches that are answered, all hosts are answered, and as the two responses
determine, exactly when the streams that name its rows have names of one kind. -/
theorem app_stream_batches_merge {first second : RelevantAppStreamsResponse}
    (answeredA : getRelevantAppStreamsForHosts casing today catalogue true A = .ok first)
    (answeredB : getRelevantAppStreamsForHosts casing today catalogue true B = .ok second)
    (compatible : Compatible casing today catalogue A B) :
    (∃ whole, getRelevantAppStreamsForHosts casing today catalogue true (A ++ B) = .ok whole ∧
      first.Determine second whole) ↔ NamesTogether casing today catalogue (A ++ B) := by
  have inFirst := lists_of_answer answeredA
  have inSecond := lists_of_answer answeredB
  rw [namesTogether_iff]
  constructor
  · rintro ⟨whole,answered,-⟩
    exact (response_rows casing today catalogue answered).2.1
  intro sortable
  have parsed : Parsed (A ++ B) := fun system member => (List.mem_append.mp member).elim
    ((response_rows casing today catalogue answeredA).1 system)
    ((response_rows casing today catalogue answeredB).1 system)
  obtain ⟨whole,answered⟩ := answer_of_sortable casing today catalogue parsed sortable
  obtain ⟨-,-,counted,rows⟩ := response_rows casing today catalogue answered
  have unnamed : (installedRows casing today catalogue (A ++ B)).map (·.nameless) =
      installedRows casing today catalogue (A ++ B) := by
    refine (List.map_congr_left (fun row listed => ?_)).trans (List.map_id _)
    obtain ⟨key,-,-,rfl⟩ := mem_installedRows casing today catalogue listed
    rfl
  have merged := (rows.map (·.nameless)).trans (List.Perm.of_eq List.map_append)
  rw [unnamed] at merged
  have same := merged.trans ((installedRows_merge compatible inFirst inSecond).append
    (relatedRows_merge compatible inFirst inSecond))
  refine ⟨whole,answered,same,?_,?_⟩
  · rw [counted,← recountStreams_perm rows,← recountStreams_nameless,recountStreams_perm same]
    rfl
  · exact fun left inA right inB => installedRows_agree compatible inFirst inSecond inA inB

end Batches

private def nodejs (stream : String) (osMinor : Int) (startDate endDate : Date) : AppStreamEntity := {
  name := "nodejs",displayName := "Node.js ".append stream
  applicationStreamName := "Node.js ".append stream,applicationStreamType := some .stream
  stream := stream,startDate := some startDate,endDate := some endDate,impl := .module
  osMajor := some 9,osMinor := some osMinor}

private def nodejsModules : Catalogue :=
  ⟨[nodejs "18" 1 (.mk 2022 11 15) (.mk 2025 4 30),nodejs "20" 3 (.mk 2023 11 7) (.mk 2026 4 30),
    nodejs "22" 5 (.mk 2024 11 12) (.mk 2027 4 30)],.empty,.empty⟩

private def nodejsSystem (id : Nat) (stream : String) : HostRowWithPackages :=
  ⟨⟨⟨id⟩,"host",some "RHEL",some 9,some 4,none,none⟩,some [⟨"nodejs",stream,some ["installed"]⟩],none⟩

private def nodejsBatches : List HostRowWithPackages × List HostRowWithPackages :=
  ([nodejsSystem 1 "18"],[nodejsSystem 2 "18",nodejsSystem 3 "20"])

private theorem nodejs_compatible :
    Compatible .ascii (.mk 2025 1 1) nodejsModules nodejsBatches.1 nodejsBatches.2 := by
  have used : ∀ left ∈ usedKeys .ascii nodejsModules nodejsBatches.1,
      ∀ right ∈ usedKeys .ascii nodejsModules nodejsBatches.2,
        left.identity = right.identity → left.name = right.name ∧
          left.appStreamEntity = right.appStreamEntity := by decide +kernel
  have records : ∀ left ∈ nodejsModules.modulesPackages, ∀ right ∈ nodejsModules.modulesPackages,
      left.identity = right.identity → left = right := by decide +kernel
  have fixed : ∀ key ∈ usedKeys .ascii nodejsModules (nodejsBatches.1 ++ nodejsBatches.2),
      key.appStreamEntity.rolling = false := by decide +kernel
  constructor
  · intro left inA right inB same
    obtain ⟨name,record⟩ := used left inA right inB same
    refine ⟨?_,fun _ => name,fun _ _ _ _ => by rw [record]⟩
    rw [record]
    exact ⟨rfl,fun _ => ⟨rfl,rfl,rfl⟩⟩
  · rintro left right ⟨-,-,inLeft,-⟩ ⟨-,-,inRight,-⟩ same - -
    rw [records left inLeft right inRight same]
    exact ⟨rfl,fun _ => ⟨rfl,rfl,rfl⟩⟩
  · intro key inA rolls
    have first := fixed key ((mem_usedKeys_either .ascii nodejsModules (Or.inl rfl) key).mpr (Or.inl inA))
    exact absurd rolls (by simp [first])
  · intro key inB rolls
    have second := fixed key ((mem_usedKeys_either .ascii nodejsModules (Or.inl rfl) key).mpr (Or.inr inB))
    exact absurd rolls (by simp [second])

/-- Node.js 18 is in both batches, and what is suggested beside it is in one. -/
theorem app_stream_batches_merge_nodejs :
    let answer := getRelevantAppStreamsForHosts .ascii (.mk 2025 1 1) nodejsModules true
    ∃ first second whole, answer nodejsBatches.1 = .ok first ∧ answer nodejsBatches.2 = .ok second ∧
      answer (nodejsBatches.1 ++ nodejsBatches.2) = .ok whole ∧ first.Determine second whole := by
  intro answer
  have answers : ∀ systems ∈ [nodejsBatches.1,nodejsBatches.2],(answer systems).toBool = true := by decide +kernel
  obtain ⟨first,answeredA⟩ := Except.exists_ok (answers nodejsBatches.1 (by simp))
  obtain ⟨second,answeredB⟩ := Except.exists_ok (answers nodejsBatches.2 (by simp))
  have together : NamesTogether .ascii (.mk 2025 1 1) nodejsModules (nodejsBatches.1 ++ nodejsBatches.2) :=
    (namesTogether_iff _ _ _ _).mpr (by decide +kernel)
  obtain ⟨whole,answered,determined⟩ :=
    (app_stream_batches_merge answeredA answeredB nodejs_compatible).mpr together
  exact ⟨first,second,whole,answeredA,answeredB,answered,determined⟩

private def toolset (name : String) (endDate : Date) : AppStreamEntity := {
  name := name,displayName := "GCC Toolset 16",applicationStreamName := "gcc-toolset 16"
  applicationStreamType := some .stream,stream := "16",startDate := some (.mk 2026 11 1)
  endDate := some endDate,impl := .package,initialProductVersion := some "9.9"
  osMajor := some 9,osMinor := some 9}

private def toolset16 : Catalogue where
  appStreamModules := []
  appStreamPackages :=
    let packages : Dict String AppStreamEntity := .empty
    let gcc := toolset "gcc-toolset-16-gcc" (.mk 2030 11 9)
    let binutils := toolset "gcc-toolset-16-binutils" (.mk 2031 11 9)
    Dict.empty.set 9 ((packages.set gcc.name gcc).set binutils.name binutils)
  modulePackages := .empty

private def toolsetHost (id : Nat) (package : String) : HostRowWithPackages :=
  ⟨⟨⟨id⟩,"host",some "RHEL",some 9,some 9,none,none⟩,none,some [package]⟩

private def undetermined : Except PyError RelevantAppStreamsResponse →
    Except PyError RelevantAppStreamsResponse → Except PyError RelevantAppStreamsResponse → Bool
  | .ok first,.ok second,.ok whole => !decide (first.Determine second whole)
  | _,_,_ => false

/-- The stream ends in 2030 for one host, in 2031 for the other, and the merge cannot tell
when it ends. -/
theorem toolset_dates_differ :
    let answer := getRelevantAppStreamsForHosts .ascii (.mk 2026 12 1) toolset16 true
    let A := [toolsetHost 1 "gcc-toolset-16-gcc-0:16.1-1.el9.x86_64"]
    let B := [toolsetHost 2 "gcc-toolset-16-binutils-0:16.1-1.el9.x86_64"]
    (∀ left ∈ A, ∀ right ∈ B, left.id ≠ right.id) ∧ ∃ first second whole, answer A = .ok first ∧
      answer B = .ok second ∧ answer (A ++ B) = .ok whole ∧ ¬ first.Determine second whole := by
  intro answer A B
  have failed : undetermined (answer A) (answer B) (answer (A ++ B)) = true := by decide +kernel
  refine ⟨by decide,?_⟩
  unfold undetermined at failed
  split at failed
  next first second whole inA inB inWhole =>
    exact ⟨first,second,whole,inA,inB,inWhole,by simpa using failed⟩
  next => contradiction

end Roadmap
