import Roadmap.Api.Documents

/-! Which document each request gets, over any requests. -/
namespace Roadmap.Documents
open Effects

section Replies

variable {generated : Schema}

/-- Only the document of the second version is annotated. -/
def marked (request : DocsRequest) (times : Nat) : Schema → Schema :=
  match request with
  | .v2 => annotateV2Openapi^[times]
  | _ => id

/-- The reply to a request, by the number of earlier requests for the second version. -/
def reply (generated : Schema) (request : DocsRequest) (earlier : Nat) : Except PyError Schema :=
  (extended (pathPrefix request) generated).map (marked request (earlier + 1))

def held (app : App) : Option String → Option Schema
  | none => app.openapiSchema
  | some pathPrefix => cached app pathPrefix

def store (pathPrefix : Option String) (schema : Schema) (app : App) : App :=
  match pathPrefix with
  | none => {app with openapiSchema := some schema}
  | some pathPrefix => keep pathPrefix schema app

def called (app : App) : App := {app with calls := app.calls + 1}

theorem held_called (app : App) (pathPrefix : Option String) : held (called app) pathPrefix = held app pathPrefix := by
  cases pathPrefix <;> rfl

theorem held_store (pathPrefix other : Option String) (schema : Schema) (app : App) :
    held (store pathPrefix schema app) other = if pathPrefix = other then some schema else held app other := by
  cases pathPrefix with
  | none => cases other <;> rfl
  | some pathPrefix =>
    cases other with
    | none => rfl
    | some other =>
      have kept : (app.openapiSchemaByPrefix.getD .empty).get? other = cached app other := by
        cases found : app.openapiSchemaByPrefix <;> simp [cached,found]
      simp only [held,store,cached,keep,Option.bind_some,Dict.get?_set,beq_iff_eq,Option.some.injEq]
      split
      · rfl
      · exact kept

theorem calls_store (pathPrefix : Option String) (schema : Schema) (app : App) :
    (store pathPrefix schema app).calls = app.calls := by
  cases pathPrefix <;> rfl

theorem run_extendOpenapi (pathPrefix : Option String) (app : App) :
    (extendOpenapi generated pathPrefix).run app =
      match held app pathPrefix with
      | some schema => .ok schema app
      | none => match extended pathPrefix generated with
        | .ok schema => .ok schema (store pathPrefix schema (called app))
        | .error error => .error error (called app) := by
  cases pathPrefix with
  | none => cases found : app.openapiSchema <;> cases made : extended none generated <;>
      simp [extendOpenapi,build,held,store,called,found,made]
  | some pathPrefix =>
    cases found : cached app pathPrefix <;> cases made : extended (some pathPrefix) generated <;>
      simp [extendOpenapi,build,held,store,called,found,made]

theorem pathPrefix_injective : Function.Injective pathPrefix := by
  intro first second same
  cases first <;> cases second <;> first | rfl | simp [pathPrefix] at same

/-- A schema without components is built, and refused, at every request. -/
def calls (generated : Schema) (requests : List DocsRequest) : Nat :=
  if generated.components.isSome then requests.toFinset.card else requests.length

/-- What is kept after these requests. -/
structure Kept (generated : Schema) (requests : List DocsRequest) (app : App) : Prop where
  held : ∀ request, held app (pathPrefix request) = if request ∈ requests then
    (extended (pathPrefix request) generated).toOption.map (marked request (requests.count .v2)) else none
  calls : app.calls = calls generated requests

theorem kept_start : Kept generated [] {} :=
  ⟨fun request => by cases request <;> rfl,by cases found : generated.components <;> simp [calls,found]⟩

theorem extended_ok (documented : generated.components.isSome = true) (pathPrefix : Option String) :
    ∃ schema, extended pathPrefix generated = .ok schema := by
  obtain ⟨components,found⟩ := Option.isSome_iff_exists.mp documented
  cases pathPrefix <;> simp [extended,found]

theorem card_snoc (requests : List DocsRequest) (request : DocsRequest) :
    (requests ++ [request]).toFinset.card =
      if request ∈ requests then requests.toFinset.card else requests.toFinset.card + 1 := by
  rw [List.toFinset_append,List.toFinset_cons,List.toFinset_nil,Finset.union_insert,Finset.union_empty]
  split
  · next member => rw [Finset.insert_eq_of_mem (List.mem_toFinset.mpr member)]
  · next absent => rw [Finset.card_insert_of_notMem (fun member => absent (List.mem_toFinset.mp member))]

theorem components_of_ok {pathPrefix : Option String} {schema : Schema}
    (made : extended pathPrefix generated = .ok schema) : generated.components.isSome = true := by
  cases found : generated.components with
  | some components => rfl
  | none => cases pathPrefix <;> simp [extended,found] at made

theorem marked_absent {requests : List DocsRequest} {request : DocsRequest} (absent : request ∉ requests) :
    marked request (requests.count .v2) = id := by
  cases request with
  | v2 => rw [List.count_eq_zero_of_not_mem absent]; rfl
  | _ => rfl

/-- A document is built at its first request only, and then taken from what is kept. -/
theorem extend_kept {requests : List DocsRequest} {app : App} (kept : Kept generated requests app)
    (request : DocsRequest) : ∃ last,
    (extendOpenapi generated (pathPrefix request)).run app =
      (match (extended (pathPrefix request) generated).map (marked request (requests.count .v2)) with
      | .ok schema => .ok schema last
      | .error error => .error error last) ∧
    (∀ other, held last (pathPrefix other) = if other ∈ requests ++ [request] then
      (extended (pathPrefix other) generated).toOption.map (marked other (requests.count .v2)) else none) ∧
    last.calls = calls generated (requests ++ [request]) := by
  rw [run_extendOpenapi,kept.held]
  cases made : extended (pathPrefix request) generated with
  | error error =>
    refine ⟨called app,by simp [Except.toOption,Except.map],fun other => ?_,?_⟩
    · rw [held_called,kept.held]
      by_cases same : other = request
      · simp [same,made,Except.toOption]
      · simp [same]
    · have absent : ¬ generated.components.isSome = true := by
        intro documented
        obtain ⟨schema,built⟩ := extended_ok documented (pathPrefix request)
        rw [made] at built
        contradiction
      rw [called,kept.calls,calls,calls,if_neg absent,if_neg absent,List.length_append]
      rfl
  | ok schema =>
    have documented := components_of_ok made
    by_cases member : request ∈ requests
    · refine ⟨app,by simp [member,Except.toOption,Except.map],fun other => ?_,?_⟩
      · have already : other ∈ requests ++ [request] ↔ other ∈ requests := by
          rw [List.mem_append,List.mem_singleton]
          exact ⟨fun either => either.elim id (fun same => same ▸ member),Or.inl⟩
        simp only [kept.held,already]
      · rw [kept.calls,calls,calls,if_pos documented,if_pos documented,card_snoc,if_pos member]
    · have fresh := marked_absent member
      refine ⟨store (pathPrefix request) schema (called app),by simp [member,fresh,Except.map],fun other => ?_,?_⟩
      · rw [held_store,held_called,kept.held]
        by_cases same : request = other
        · subst same
          simp [made,fresh,Except.toOption]
        · have apart : pathPrefix request ≠ pathPrefix other := fun equal => same (pathPrefix_injective equal)
          simp [apart,Ne.symm same]
      · rw [calls_store,called,kept.calls,calls,calls,if_pos documented,if_pos documented,card_snoc,if_neg member]

/-- After a request for the second version the annotated document is what is kept for it. -/
theorem v2_kept {requests : List DocsRequest} {app : App} (kept : Kept generated requests app) : ∃ last,
    Kept generated (requests ++ [.v2]) last ∧ (getV2Openapi generated).run app =
      match reply generated .v2 (requests.count .v2) with
      | .ok schema => .ok schema last
      | .error error => .error error last := by
  obtain ⟨last,ran,holds,once⟩ := extend_kept kept .v2
  have more : (requests ++ [DocsRequest.v2]).count .v2 = requests.count .v2 + 1 := by simp
  have again : ∀ schema, annotateV2Openapi (marked .v2 (requests.count .v2) schema) =
      marked .v2 (requests.count .v2 + 1) schema :=
    fun schema => (Function.iterate_succ_apply' annotateV2Openapi _ schema).symm
  have unmarked : ∀ other, other ≠ .v2 → marked other (requests.count .v2 + 1) =
      marked other (requests.count .v2) := by
    intro other different
    cases other <;> first | rfl | exact absurd rfl different
  cases made : extended (pathPrefix .v2) generated with
  | error error =>
    rw [made] at ran
    refine ⟨last,⟨fun other => ?_,once⟩,?_⟩
    · rw [more,holds]
      by_cases same : other = .v2
      · rw [same,made]
        rfl
      · rw [unmarked other same]
    · change (extendOpenapi generated (pathPrefix .v2) >>= _).run app = _
      rw [EStateM.run_bind,ran,reply,made]
      rfl
  | ok schema =>
    rw [made] at ran
    let annotated := annotateV2Openapi (marked .v2 (requests.count .v2) schema)
    refine ⟨store (pathPrefix .v2) annotated last,⟨fun other => ?_,?_⟩,?_⟩
    · rw [more,held_store]
      by_cases same : .v2 = other
      · subst same
        simp [made,Except.toOption,annotated,again]
      · have apart : pathPrefix .v2 ≠ pathPrefix other := fun equal => same (pathPrefix_injective equal)
        rw [if_neg apart,holds,unmarked other (Ne.symm same)]
    · rw [calls_store]
      exact once
    · change (extendOpenapi generated (pathPrefix .v2) >>= _).run app = _
      rw [EStateM.run_bind,ran,reply,made]
      simp only [Except.map]
      rw [← again schema]
      rfl

theorem serve_kept {requests : List DocsRequest} {app : App} (kept : Kept generated requests app)
    (request : DocsRequest) : ∃ last, Kept generated (requests ++ [request]) last ∧
      (serve generated request).run app =
        match reply generated request (requests.count .v2) with
        | .ok schema => .ok schema last
        | .error error => .error error last := by
  by_cases second : request = .v2
  · rw [second]
    exact v2_kept kept
  · obtain ⟨last,ran,holds,once⟩ := extend_kept kept request
    have others : (requests ++ [request]).count .v2 = requests.count .v2 := by
      simp [List.count_append,second]
    have plain : reply generated request (requests.count .v2) =
        (extended (pathPrefix request) generated).map (marked request (requests.count .v2)) := by
      cases request <;> first | rfl | exact absurd rfl second
    have served : serve generated request = extendOpenapi generated (pathPrefix request) := by
      cases request <;> first | rfl | exact absurd rfl second
    exact ⟨last,⟨fun other => by rw [others]; exact holds other,once⟩,by rw [served,plain]; exact ran⟩

theorem serveAll_kept (generated : Schema) (requests : List DocsRequest) :
    Kept generated requests (serveAll generated requests).2 ∧ (serveAll generated requests).1 =
      requests.zipIdx.map (fun entry => reply generated entry.1 ((requests.take entry.2).count .v2)) := by
  induction requests using List.reverseRecOn with
  | nil => exact ⟨kept_start,rfl⟩
  | append_singleton requests request ih =>
    obtain ⟨kept,replies⟩ := ih
    obtain ⟨last,keeps,ran⟩ := serve_kept kept request
    have earlier : requests.zipIdx.map (fun entry =>
        reply generated entry.1 (((requests ++ [request]).take entry.2).count .v2)) =
          (serveAll generated requests).1 := by
      rw [replies]
      refine List.map_congr_left (fun entry member => ?_)
      have inside : entry.2 ≤ requests.length := by
        have bound := List.snd_lt_of_mem_zipIdx member
        omega
      rw [List.take_append_of_le_length inside]
    have served : serveAll generated (requests ++ [request]) =
        ((serveAll generated requests).1 ++ [reply generated request (requests.count .v2)],last) := by
      rw [serveAll,List.foldl_append,← serveAll,List.foldl_cons,List.foldl_nil,ran]
      cases reply generated request (requests.count .v2) <;> rfl
    rw [served,List.zipIdx_append,List.map_append,earlier]
    exact ⟨keeps,by simp⟩

end Replies

/-- The second version's document bears the notice at once, is settled from its second reply on, and
from the first exactly when every operation has a summary. -/
structure Settles (generated : Schema) : Prop where
  noticed : ∀ earlier schema, reply generated .v2 earlier = .ok schema → Noticed schema
  later : ∀ earlier, reply generated .v2 (earlier + 1) = reply generated .v2 1
  first : reply generated .v2 1 = reply generated .v2 0 ↔
    ∀ schema, extended (pathPrefix .v2) generated = .ok schema → Named schema

theorem settles (generated : Schema) : Settles generated := by
  have replies : ∀ earlier, reply generated .v2 earlier =
      (extended (pathPrefix .v2) generated).map (annotateV2Openapi^[earlier + 1]) := fun _ => rfl
  cases made : extended (pathPrefix .v2) generated with
  | error error =>
    refine ⟨fun earlier schema replied => ?_,fun earlier => ?_,?_⟩
    · rw [replies,made] at replied
      cases replied
    · rw [replies,replies,made]
      rfl
    · simp only [replies,made]
      exact ⟨fun _ => nofun,fun _ => rfl⟩
  | ok document =>
    have twice : ∀ earlier, annotateV2Openapi^[earlier + 2] document = annotateV2Openapi^[2] document := by
      intro earlier
      induction earlier with
      | zero => rfl
      | succ earlier ih =>
        rw [Function.iterate_succ_apply',ih]
        exact (annotate_again _).mpr (named_annotated document)
    refine ⟨fun earlier schema replied => ?_,fun earlier => ?_,?_⟩
    · rw [replies,made] at replied
      rw [← Except.ok.inj replied,Function.iterate_succ_apply']
      exact noticed_annotated _
    · rw [replies,replies,made]
      exact congrArg Except.ok (twice earlier)
    · simp only [replies,made,Except.map,Except.ok.injEq,forall_eq']
      exact annotate_again document

/-- Over any requests the root and first-version documents are what FastAPI generates, each built
once, however often the second version's is annotated. -/
theorem documents_served (generated : Schema) (requests : List DocsRequest) :
    (serveAll generated requests).1 =
        requests.zipIdx.map (fun entry => reply generated entry.1 ((requests.take entry.2).count .v2)) ∧
      (serveAll generated requests).2.calls = calls generated requests ∧ Settles generated := by
  obtain ⟨kept,replies⟩ := serveAll_kept generated requests
  exact ⟨replies,kept.calls,settles generated⟩

/-- A reply with the document of a version lists what lies below the version's prefix, under the
rest of the path. -/
def Versioned (generated : Schema) (requests : List DocsRequest) (version : DocsRequest) (versionPrefix : String) :
    Prop :=
  ∀ (position : Nat) (schema : Schema), requests[position]? = some version →
    (serveAll generated requests).1[position]? = some (.ok schema) → ∀ key, key ≠ "" → key ≠ "/" →
      schema.paths.get? key = (generated.paths.get? (versionPrefix ++ key)).map
        (if version = .v2 then annotateItem^[(requests.take position).count .v2 + 1] else id)

/-- The reply at a position is the one its request has after the requests before it. -/
theorem serveAll_reply {generated : Schema} {requests : List DocsRequest} {position : Nat} {request : DocsRequest}
    {replied : Except PyError Schema} (asked : requests[position]? = some request)
    (answered : (serveAll generated requests).1[position]? = some replied) :
    reply generated request ((requests.take position).count .v2) = replied := by
  rw [(serveAll_kept generated requests).2,List.getElem?_map,List.getElem?_zipIdx,asked] at answered
  simpa using answered

theorem version_documents_scoped (generated : Schema) (requests : List DocsRequest) :
    Versioned generated requests .v1 "/api/roadmap/v1" ∧ Versioned generated requests .v2 "/api/roadmap/v2" := by
  constructor
  · intro position schema asked answered key named other
    obtain ⟨document,made,rfl⟩ := Except.map_ok.mp (serveAll_reply asked answered)
    have below := (extended_scoped made).below key named other
    rw [if_neg (by decide),Option.map_id_apply,← below]
    rfl
  · intro position schema asked answered key named other
    obtain ⟨document,made,rfl⟩ := Except.map_ok.mp (serveAll_reply asked answered)
    have below := (extended_scoped made).below key named other
    rw [if_pos rfl,← below]
    exact get?_annotated _ document key

end Roadmap.Documents
