import Roadmap.Base.Dict
import Roadmap.Base.Effects
import Roadmap.Base.Except
import Roadmap.Base.Json

/-! The OpenAPI documents: one for the root and one for each version, each built at its first
request and kept. The second version's document is annotated in place at every request. -/
namespace Roadmap

namespace Documents
open Effects

/-- The other fields of an operation are only passed on. -/
structure Operation where
  summary : Option String
  description : Option String
  rest : Json

inductive Entry where
  | operation (operation : Operation)
  | other (value : Json)

abbrev PathItem := Dict String Entry

structure Schema where
  paths : Dict String PathItem
  servers : Option (List String)
  components : Option (Dict String Json)
  security : Option Json
  rest : Json

def openapiMethods : List String := ["get","post","put","patch","delete","options","head","trace"]

def summaryPrefix : String := "[NOT RECOMMENDED]"

def notice : String :=
  "**Notice:** This endpoint is still in early development and is not recommended for use. " ++
    "Prefer the corresponding v1 endpoint where available."

def startsWith (start text : String) : Bool := start.toList.isPrefixOf text.toList

def annotateSummary (existing : Option String) : String :=
  match existing.filter (· ≠ "") with
  | none => summaryPrefix
  | some existing =>
    if startsWith (summaryPrefix ++ " ") existing then existing else summaryPrefix ++ " " ++ existing

def annotateDescription (existing : Option String) : String :=
  match existing.filter (· ≠ "") with
  | none => notice
  | some existing => if startsWith notice existing then existing else notice ++ "\n\n" ++ existing

def annotateEntry (method : String) : Entry → Entry
  | .operation operation =>
    if method ∈ openapiMethods then .operation {operation with
      summary := some (annotateSummary operation.summary)
      description := some (annotateDescription operation.description)}
    else .operation operation
  | .other value => .other value

def annotateV2Openapi (schema : Schema) : Schema :=
  {schema with paths := schema.paths.mapValues (fun _ item => item.mapValues annotateEntry)}

/-- `path.removeprefix(path_prefix) or "/"` of a path with this prefix. -/
def relative (pathPrefix path : String) : String :=
  let rest := path.toList.drop pathPrefix.length
  if rest = [] then "/" else .ofList rest

def filteredPaths (pathPrefix : String) (paths : Dict String PathItem) : Dict String PathItem :=
  Dict.group Dict.assign ((paths.items.filter (fun entry => startsWith pathPrefix entry.1)).map
    (fun entry => (relative pathPrefix entry.1,entry.2))) .empty

def securitySchemes : Json :=
  .obj [("Authorization",.obj [("in",.str "header"),("name",.str "Authorization"),("type",.str "apiKey")])]

/-- What `_extend_openapi` makes of the schema that FastAPI generates. -/
def extended (pathPrefix : Option String) (generated : Schema) : Except PyError Schema :=
  let schema := match pathPrefix with
    | none => generated
    | some pathPrefix => {generated with
        paths := filteredPaths pathPrefix generated.paths
        servers := some [pathPrefix]}
  match schema.components with
  | none => .error .keyError
  | some components => .ok {schema with
      components := some (components.set "securitySchemes" securitySchemes)
      security := some (.arr [.obj [("Authorization",.arr [])]])}

/-- What the application keeps, and the number of calls of `get_openapi`. -/
structure App where
  openapiSchema : Option Schema := none
  openapiSchemaByPrefix : Option (Dict String Schema) := none
  calls : Nat := 0

section Serving

variable (generated : Schema)

def build (pathPrefix : Option String) : EStateM PyError App Schema := do
  modify (fun app => {app with calls := app.calls + 1})
  raised (extended pathPrefix generated)

def cached (app : App) (pathPrefix : String) : Option Schema :=
  app.openapiSchemaByPrefix.bind (fun cache => cache.get? pathPrefix)

def keep (pathPrefix : String) (schema : Schema) (app : App) : App :=
  {app with openapiSchemaByPrefix := some ((app.openapiSchemaByPrefix.getD .empty).set pathPrefix schema)}

def extendOpenapi : Option String → EStateM PyError App Schema
  | none => do
    match (← get).openapiSchema with
    | some schema => return schema
    | none =>
      let schema ← build generated none
      modify (fun app => {app with openapiSchema := some schema})
      return schema
  | some pathPrefix => do
    match cached (← get) pathPrefix with
    | some schema => return schema
    | none =>
      let schema ← build generated (some pathPrefix)
      modify (keep pathPrefix schema)
      return schema

inductive DocsRequest where
  | root
  | v1
  | v2
  deriving DecidableEq

def pathPrefix : DocsRequest → Option String
  | .root => none
  | .v1 => some "/api/roadmap/v1"
  | .v2 => some "/api/roadmap/v2"

/-- The kept document of the second version is the one that is annotated. -/
def getV2Openapi : EStateM PyError App Schema := do
  let schema ← extendOpenapi generated (some "/api/roadmap/v2")
  modify (keep "/api/roadmap/v2" (annotateV2Openapi schema))
  return annotateV2Openapi schema

def serve : DocsRequest → EStateM PyError App Schema
  | .v2 => getV2Openapi generated
  | request => extendOpenapi generated (pathPrefix request)

/-- The replies to requests one after the other, and what is kept in the end. -/
def serveAll (requests : List DocsRequest) : List (Except PyError Schema) × App :=
  requests.foldl (fun served request => match (serve generated request).run served.2 with
    | .ok schema app => (served.1 ++ [.ok schema],app)
    | .error error app => (served.1 ++ [.error error],app)) ([],{})

end Serving

/-! What the annotation does when it is repeated. -/

section Annotation

theorem startsWith_append (start rest : String) : startsWith start (start ++ rest) = true := by
  simp [startsWith]

theorem nonempty_of_startsWith {start text : String} (begun : start ≠ "") (begins : startsWith start text = true) :
    Option.filter (· ≠ "") (Option.some text) = Option.some text := by
  have nonempty : text ≠ "" := by
    rintro rfl
    exact begun (String.toList_eq_nil_iff.mp (List.prefix_nil.mp (List.isPrefixOf_iff_prefix.mp begins)))
  simp [nonempty]

theorem annotateSummary_marked {text : String} (start : startsWith (summaryPrefix ++ " ") text = true) :
    annotateSummary (some text) = text := by
  rw [annotateSummary,nonempty_of_startsWith (by decide) start]
  exact if_pos start

theorem annotateSummary_starts {summary : Option String} (named : summary.filter (· ≠ "") ≠ none) :
    startsWith (summaryPrefix ++ " ") (annotateSummary summary) = true := by
  rw [annotateSummary]
  split
  · contradiction
  · split
    · assumption
    · exact startsWith_append _ _

theorem annotateSummary_unnamed {summary : Option String} (unnamed : summary.filter (· ≠ "") = none) :
    annotateSummary summary = summaryPrefix := by
  rw [annotateSummary,unnamed]

/-- A summary is settled at once unless it was missing. -/
theorem annotateSummary_again (summary : Option String) :
    annotateSummary (some (annotateSummary summary)) = annotateSummary summary ↔
      summary.filter (· ≠ "") ≠ none := by
  constructor
  · intro same unnamed
    rw [annotateSummary_unnamed unnamed] at same
    revert same
    decide
  · exact fun named => annotateSummary_marked (annotateSummary_starts named)

theorem annotateDescription_starts (description : Option String) :
    startsWith notice (annotateDescription description) = true := by
  rw [annotateDescription]
  split
  · simpa using startsWith_append notice ""
  · split
    · assumption
    · rw [String.append_assoc]
      exact startsWith_append _ _

theorem annotateDescription_again (description : Option String) :
    annotateDescription (some (annotateDescription description)) = annotateDescription description := by
  have start := annotateDescription_starts description
  have marked : notice ≠ "" := by
    intro empty
    have front := (String.append_eq_empty_iff.mp empty).1
    revert front
    decide
  rw [annotateDescription.eq_def (Option.some _),nonempty_of_startsWith marked start]
  exact if_pos start

/-- An operation that FastAPI has given a summary. -/
def Entry.Named (method : String) : Entry → Prop
  | .operation details => method ∈ openapiMethods → details.summary.filter (· ≠ "") ≠ none
  | .other _ => True

def Named (schema : Schema) : Prop :=
  ∀ path ∈ schema.paths.items, ∀ entry ∈ path.2.items, entry.2.Named entry.1

theorem annotateEntry_again (method : String) (entry : Entry) :
    annotateEntry method (annotateEntry method entry) = annotateEntry method entry ↔ entry.Named method := by
  cases entry with
  | other value => simp [annotateEntry,Entry.Named]
  | operation operation =>
    by_cases listed : method ∈ openapiMethods
    · simp [annotateEntry,Entry.Named,listed,annotateDescription_again,annotateSummary_again]
    · simp [annotateEntry,Entry.Named,listed]

theorem annotateSummary_nonempty (summary : Option String) :
    (some (annotateSummary summary)).filter (· ≠ "") ≠ none := by
  by_cases unnamed : summary.filter (· ≠ "") = none
  · rw [annotateSummary_unnamed unnamed]
    decide
  · rw [nonempty_of_startsWith (by decide) (annotateSummary_starts unnamed)]
    exact Option.some_ne_none _

theorem annotateEntry_named (method : String) (entry : Entry) : (annotateEntry method entry).Named method := by
  cases entry with
  | other value => trivial
  | operation details =>
    by_cases listed : method ∈ openapiMethods
    · rw [annotateEntry,if_pos listed]
      exact fun _ => annotateSummary_nonempty details.summary
    · rw [annotateEntry,if_neg listed]
      exact fun other => absurd other listed

theorem named_annotated (schema : Schema) : Named (annotateV2Openapi schema) := by
  intro path member entry inside
  obtain ⟨before,-,rfl⟩ := List.mem_map.mp member
  obtain ⟨plain,-,rfl⟩ := List.mem_map.mp inside
  exact annotateEntry_named plain.1 plain.2

theorem annotate_again (schema : Schema) :
    annotateV2Openapi (annotateV2Openapi schema) = annotateV2Openapi schema ↔ Named schema := by
  simp only [annotateV2Openapi,Dict.mapValues_mapValues,Schema.mk.injEq,and_true,Dict.mapValues_eq_iff,
    annotateEntry_again,Named]

/-- Every operation bears the mark and the notice. -/
def Noticed (schema : Schema) : Prop :=
  ∀ path ∈ schema.paths.items, ∀ entry ∈ path.2.items, ∀ details, entry.2 = .operation details →
    entry.1 ∈ openapiMethods → ∃ summary description,
      details.summary = some summary ∧ startsWith summaryPrefix summary = true ∧
      details.description = some description ∧ startsWith notice description = true

theorem annotateSummary_begins (summary : Option String) :
    startsWith summaryPrefix (annotateSummary summary) = true := by
  by_cases unnamed : summary.filter (· ≠ "") = none
  · rw [annotateSummary_unnamed unnamed]
    decide
  · have start := annotateSummary_starts unnamed
    simp only [startsWith,List.isPrefixOf_iff_prefix,String.toList_append] at start ⊢
    exact (List.prefix_append _ _).trans start

theorem noticed_annotated (schema : Schema) : Noticed (annotateV2Openapi schema) := by
  intro path member entry inside details same listed
  obtain ⟨before,-,rfl⟩ := List.mem_map.mp member
  obtain ⟨⟨method,plain⟩,-,rfl⟩ := List.mem_map.mp inside
  cases plain with
  | other value => cases same
  | operation old =>
    simp only [annotateEntry,if_pos listed,Entry.operation.injEq] at same
    subst same
    exact ⟨_,_,rfl,annotateSummary_begins _,rfl,annotateDescription_starts _⟩

def annotateItem (item : PathItem) : PathItem := item.mapValues annotateEntry

theorem get?_annotated (times : Nat) (schema : Schema) (key : String) :
    (annotateV2Openapi^[times] schema).paths.get? key = (schema.paths.get? key).map annotateItem^[times] := by
  induction times with
  | zero => exact (Option.map_id_apply).symm
  | succ times ih =>
    rw [Function.iterate_succ_apply',annotateV2Openapi]
    change ((annotateV2Openapi^[times] schema).paths.mapValues (fun _ item => annotateItem item)).get? key = _
    rw [Dict.get?_mapValues,ih,Option.map_map,← Function.iterate_succ']

end Annotation

/-! The paths of a version are keyed relative to its prefix. -/

/-- Below its prefix every path is found again, and nothing else is. The prefix itself and the
prefix with a slash share a key. -/
structure Scoped (pathPrefix : String) (paths filtered : Dict String PathItem) : Prop where
  below : ∀ key, key ≠ "" → key ≠ "/" → filtered.get? key = paths.get? (pathPrefix ++ key)
  unnamed : filtered.get? "" = none
  base : ∀ item, filtered.get? "/" = some item →
    paths.get? pathPrefix = some item ∨ paths.get? (pathPrefix ++ "/") = some item
  kept : (filtered.get? "/").isSome = ((paths.get? pathPrefix).isSome || (paths.get? (pathPrefix ++ "/")).isSome)

section Scope

variable (pathPrefix : String) (paths : Dict String PathItem)

theorem relative_eq_iff (path key : String) :
    (startsWith pathPrefix path = true ∧ relative pathPrefix path = key) ↔
      (key ≠ "" ∧ path = pathPrefix ++ key) ∨ (key = "/" ∧ path = pathPrefix) := by
  constructor
  · rintro ⟨start,rfl⟩
    obtain ⟨rest,whole⟩ := List.isPrefixOf_iff_prefix.mp start
    have split : path = pathPrefix ++ String.ofList rest := by
      apply String.toList_injective
      simp [← whole]
    have left : path.toList.drop pathPrefix.length = rest := by simp [← whole,← String.length_toList]
    rw [relative,left]
    by_cases empty : rest = []
    · exact Or.inr ⟨by simp [empty],by simpa [empty] using split⟩
    · refine Or.inl ⟨?_,?_⟩
      · simp [empty]
      · simpa [empty] using split
  · rintro (⟨named,rfl⟩ | ⟨rfl,rfl⟩)
    · have left : (pathPrefix ++ key).toList.drop pathPrefix.length = key.toList := by
        simp [← String.length_toList]
      refine ⟨startsWith_append _ _,?_⟩
      rw [relative,left]
      simp [named]
    · refine ⟨by simpa using startsWith_append path "",?_⟩
      simp [relative,← String.length_toList]

theorem get?_filteredPaths (key : String) : (filteredPaths pathPrefix paths).get? key =
    ((paths.items.filter (fun entry => decide ((key ≠ "" ∧ entry.1 = pathPrefix ++ key) ∨
      (key = "/" ∧ entry.1 = pathPrefix)))).map Prod.snd).getLast? := by
  rw [filteredPaths,Dict.get?_group_assign,Dict.itemsAt,List.filter_map,List.map_map,List.filter_filter]
  refine congrArg (fun entries => (List.map _ entries).getLast?) (List.filter_congr (fun entry _ => ?_))
  rw [Bool.eq_iff_iff]
  simp only [Function.comp_apply,Bool.and_eq_true,beq_iff_eq,decide_eq_true_eq]
  rw [and_comm]
  exact relative_eq_iff pathPrefix entry.1 key

theorem get?_base {item : PathItem} (found : (filteredPaths pathPrefix paths).get? "/" = some item) :
    paths.get? pathPrefix = some item ∨ paths.get? (pathPrefix ++ "/") = some item := by
  rw [get?_filteredPaths] at found
  obtain ⟨entry,member,rfl⟩ := List.mem_map.mp (List.mem_of_getLast? found)
  obtain ⟨listed,named⟩ := List.mem_filter.mp member
  have here := (Dict.mem_items paths entry).mp listed
  rcases of_decide_eq_true named with ⟨-,same⟩ | ⟨-,same⟩
  · exact Or.inr (same ▸ here)
  · exact Or.inl (same ▸ here)

theorem base_kept {path : String} {item : PathItem} (found : paths.get? path = some item)
    (base : path = pathPrefix ++ "/" ∨ path = pathPrefix) :
    ((filteredPaths pathPrefix paths).get? "/").isSome = true := by
  have listed := (Dict.mem_items paths (path,item)).mpr found
  have member : (path,item) ∈ paths.items.filter (fun entry => decide (("/" ≠ "" ∧ entry.1 = pathPrefix ++ "/") ∨
      ("/" = "/" ∧ entry.1 = pathPrefix))) := by
    refine List.mem_filter.mpr ⟨listed,decide_eq_true ?_⟩
    exact base.imp (fun same => ⟨by decide,same⟩) (fun same => ⟨rfl,same⟩)
  rw [get?_filteredPaths,List.getLast?_isSome]
  exact List.ne_nil_of_mem (List.mem_map_of_mem member)

theorem filteredPaths_scoped : Scoped pathPrefix paths (filteredPaths pathPrefix paths) := by
  refine ⟨fun key named other => ?_,?_,fun item found => get?_base pathPrefix paths found,?_⟩
  · rw [get?_filteredPaths,Dict.get?_itemsAt paths,Dict.itemsAt]
    simp [named,other,Bool.beq_eq_decide_eq]
  · rw [get?_filteredPaths]
    simp
  · rw [Bool.eq_iff_iff,Bool.or_eq_true]
    constructor
    · intro kept
      obtain ⟨item,found⟩ := Option.isSome_iff_exists.mp kept
      exact (get?_base pathPrefix paths found).imp (fun here => by simp [here]) (fun here => by simp [here])
    · rintro (kept | kept)
      · obtain ⟨item,found⟩ := Option.isSome_iff_exists.mp kept
        exact base_kept pathPrefix paths found (Or.inr rfl)
      · obtain ⟨item,found⟩ := Option.isSome_iff_exists.mp kept
        exact base_kept pathPrefix paths found (Or.inl rfl)

end Scope

/-- A document kept under a prefix has the paths below it. -/
theorem extended_scoped {generated : Schema} {pathPrefix : String} {schema : Schema}
    (made : extended (some pathPrefix) generated = .ok schema) :
    Scoped pathPrefix generated.paths schema.paths := by
  simp only [extended] at made
  split at made
  · cases made
  · cases made
    exact filteredPaths_scoped pathPrefix generated.paths

end Documents

end Roadmap
