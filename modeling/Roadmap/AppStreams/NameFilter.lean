import Roadmap.AppStreams.Endpoints

/-! The filter of the catalogue against what its criteria ask for. The name of an item is
searched as it is written, the name of its application stream with its case folded. -/
namespace Roadmap

section Filter

variable (casing : Casing)

/-- `if wanted := value: data = [item for item in data if keep]` -/
def whenGiven {α β : Type} (value : Option β) (keep : β → α → Bool) (data : List α) : List α :=
  match value with
  | some wanted => data.filter (keep wanted)
  | none => data

/-- `filter_app_stream_results` on the list, one step a criterion; an empty text is none. -/
def filterAppStreamData (params : FilterParams) (data : List AppStreamEntity) : List AppStreamEntity :=
  let data := whenGiven (params.name.filter (· ≠ ""))
    (fun name item => Text.contains (casing.casefold name) item.name) data
  let data := whenGiven params.kind (fun kind item => kind = item.impl) data
  let data := whenGiven (params.applicationStreamName.filter (· ≠ ""))
    (fun name item => Text.contains (casing.casefold name) (casing.casefold item.applicationStreamName)) data
  whenGiven params.applicationStreamType (fun type item => some type = item.applicationStreamType) data

def meetsOthers (params : FilterParams) (item : AppStreamEntity) : Bool :=
  params.kind.all (fun kind => kind = item.impl) &&
  params.applicationStreamName.all (fun name =>
    Text.contains (casing.casefold name) (casing.casefold item.applicationStreamName)) &&
  params.applicationStreamType.all (fun type => some type = item.applicationStreamType)

def meets (params : FilterParams) (item : AppStreamEntity) : Bool :=
  params.name.all (fun name => Text.contains (casing.casefold name) (casing.casefold item.name)) &&
  meetsOthers casing params item

/-- Every item that meets the other criteria holds the folded name as it is written, or not even
with its case folded. -/
def WrittenFolded (params : FilterParams) (data : List AppStreamEntity) : Prop :=
  ∀ name, params.name = some name → ∀ item ∈ data, meetsOthers casing params item = true →
    Text.contains (casing.casefold name) item.name =
      Text.contains (casing.casefold name) (casing.casefold item.name)

theorem contains_empty (text : String) : Text.contains (casing.casefold "") text = true := by
  simp [Text.contains,Casing.casefold]

theorem all_given (value : Option String) (text : String) :
    (value.filter (· ≠ "")).all (fun name => Text.contains (casing.casefold name) text) =
      value.all (fun name => Text.contains (casing.casefold name) text) := by
  cases value with
  | none => rfl
  | some name =>
    by_cases empty : name = ""
    · subst empty
      simp [contains_empty]
    · simp [empty]

theorem whenGiven_eq {α β : Type} (value : Option β) (keep : β → α → Bool) (data : List α) :
    whenGiven value keep data = data.filter (fun item => value.all (fun wanted => keep wanted item)) := by
  cases value <;> simp [whenGiven]

theorem filterAppStreamData_eq (params : FilterParams) (data : List AppStreamEntity) :
    filterAppStreamData casing params data = data.filter (fun item =>
      params.name.all (fun name => Text.contains (casing.casefold name) item.name) &&
        meetsOthers casing params item) := by
  simp only [filterAppStreamData,whenGiven_eq,List.filter_filter,all_given]
  refine List.filter_congr (fun item _ => ?_)
  simp only [meetsOthers]
  ac_rfl

/-- The filter of the list is that of its items, as the endpoints apply it. -/
theorem filterAppStreamData_items (params : FilterParams) (data : List AppStreamEntity) :
    filterAppStreamData casing params data = data.filter (filterAppStreamResults casing params) := by
  rw [filterAppStreamData_eq]
  refine List.filter_congr (fun item _ => ?_)
  have given : filterAppStreamResults casing params item =
      ((params.name.filter (· ≠ "")).all (fun name => Text.contains (casing.casefold name) item.name) &&
        params.kind.all (fun kind => kind = item.impl) &&
        (params.applicationStreamName.filter (· ≠ "")).all (fun name =>
          Text.contains (casing.casefold name) (casing.casefold item.applicationStreamName)) &&
        params.applicationStreamType.all (fun type => some type = item.applicationStreamType)) := rfl
  rw [given,all_given,all_given,meetsOthers]
  ac_rfl

theorem filter_eq_iff {α : Type} (first second : α → Bool) (data : List α) :
    data.filter first = data.filter second ↔ ∀ item ∈ data, first item = second item := by
  refine ⟨fun same item member => ?_,List.filter_congr⟩
  have listed := congrArg (fun kept => item ∈ kept) same
  simp only [List.mem_filter,member,true_and,eq_iff_iff] at listed
  exact Bool.eq_iff_iff.mpr listed

theorem exact_iff (params : FilterParams) (data : List AppStreamEntity) :
    filterAppStreamData casing params data = data.filter (meets casing params) ↔
      WrittenFolded casing params data := by
  rw [filterAppStreamData_eq,filter_eq_iff]
  unfold WrittenFolded meets
  cases params.name with
  | none => simp
  | some name =>
    simp only [Option.all_some,Option.some.injEq,forall_eq']
    refine forall₂_congr (fun item _ => ?_)
    cases meetsOthers casing params item <;> simp

theorem filter_twice (params : FilterParams) (data : List AppStreamEntity) :
    filterAppStreamData casing params (filterAppStreamData casing params data) =
      filterAppStreamData casing params data := by
  simp only [filterAppStreamData_eq,List.filter_filter,Bool.and_self]

theorem kept_by_name {data : List AppStreamEntity} {item : AppStreamEntity} (member : item ∈ data) {name : String}
    (same : casing.casefold name = casing.casefold item.name) :
    item ∈ filterAppStreamData casing {name := some name} data ↔
      Text.contains (casing.casefold item.name) item.name = true := by
  rw [filterAppStreamData_eq,List.mem_filter]
  simp [meetsOthers,member,same]

end Filter

/-- The filter keeps what meets the criteria exactly where no name needs its case folded to be found,
an item by its own name exactly where it holds the folding of that name, and nothing more or less when
it is applied once more. -/
theorem catalogue_filter_exact_iff (casing : Casing) :
    (∀ params data, filterAppStreamData casing params data = data.filter (meets casing params) ↔
      WrittenFolded casing params data) ∧
    (∀ data, ∀ item ∈ data, ∀ name, casing.casefold name = casing.casefold item.name →
      (item ∈ filterAppStreamData casing {name := some name} data ↔
        Text.contains (casing.casefold item.name) item.name = true)) ∧
    ∀ params data, filterAppStreamData casing params (filterAppStreamData casing params data) =
      filterAppStreamData casing params data := by
  refine ⟨exact_iff casing,fun data item member name same => kept_by_name casing member same,filter_twice casing⟩

private def pyMySQL : AppStreamEntity := {
  name := "python3.11-PyMySQL",applicationStreamName := "Python 3.11",applicationStreamType := some .stream
  stream := "3.11",impl := .package,initialProductVersion := some "8.8",osMajor := some 8,osMinor := some 8
  startDate := some (.mk 2023 5 16),endDate := some (.mk 2026 5 31)}

theorem pyMySQL_not_found : ¬ (pyMySQL ∈ filterAppStreamData .ascii {name := some "python3.11-PyMySQL"} [pyMySQL]) ∧
    pyMySQL ∈ [pyMySQL].filter (meets .ascii {name := some "python3.11-PyMySQL"}) := by
  decide

end Roadmap
