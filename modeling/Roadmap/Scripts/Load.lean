import Roadmap.Base.Effects
import Roadmap.Base.Except
import Roadmap.Base.Json
import Roadmap.Scripts.Hosts

/-! The hosts of a file on their way into the local database, a batch in each transaction. -/
namespace Roadmap.HostFile
open Effects

inductive LoadError where
  | host (error : PyError)
  | file (message : String)
  | indexError
  | database (message : String)

/-- Times are in microseconds. -/
structure HostEntry where
  id : Json
  displayName : Json
  createdOn : Int
  modifiedOn : Int
  ansibleHost : String
  staleTimestamp : Int
  reporter : String
  perReporterStaleness : Json
  orgId : String
  groups : Json
  tagsAlt : Json
  lastCheckIn : Int

structure StaticEntry where
  hostId : Json
  orgId : String
  operatingSystem : Json
  osRelease : Json
  dnfModules : Json

structure DynamicEntry where
  hostId : Json
  orgId : String
  installedPackages : Json
  installedProducts : Json

abbrev Entry := HostEntry × StaticEntry × DynamicEntry

/-- The rows of the three tables, or the three lists of a batch. -/
structure Records where
  hosts : List HostEntry
  static : List StaticEntry
  dynamic : List DynamicEntry

namespace Records

def empty : Records := ⟨[],[],[]⟩

def add (records : Records) (entry : Entry) : Records :=
  ⟨records.hosts ++ [entry.1],records.static ++ [entry.2.1],records.dynamic ++ [entry.2.2]⟩

def append (records batch : Records) : Records :=
  ⟨records.hosts ++ batch.hosts,records.static ++ batch.static,records.dynamic ++ batch.dynamic⟩

/-- The rows of these hosts, one in each table. -/
def rowsOf (entries : List Entry) : Records :=
  ⟨entries.map (·.1),entries.map (·.2.1),entries.map (·.2.2)⟩

theorem add_rowsOf (entries : List Entry) (entry : Entry) :
    (rowsOf entries).add entry = rowsOf (entries ++ [entry]) := by
  simp [add,rowsOf]

theorem append_rowsOf (first second : List Entry) :
    (rowsOf first).append (rowsOf second) = rowsOf (first ++ second) := by
  simp [append,rowsOf]

theorem length_rowsOf (entries : List Entry) : (rowsOf entries).hosts.length = entries.length :=
  List.length_map _

end Records

/-- What the loader meets: `str` of a value, the initial date and the current time of each host in
turn, and the database, which may refuse a transaction. -/
structure Loading where
  str : Json → String
  initDate : (place : Nat) → Int
  now : (place : Nat) → Int
  delete : Except String Unit
  insert : (committed batch : Records) → Except String Unit
  batchSize : ℕ+

structure Loader where
  committed : Records
  records : Records
  loaded : Nat
  place : Nat

section Program

variable (loading : Loading)

def buildRecords (place : Nat) (host : Json) : Except PyError Entry := do
  let hostId ← host.subscript "id"
  let systemProfile ← host.getOr "system_profile" (.obj [])
  let displayName ← host.get "display_name"
  let groups ← host.getOr "groups" (.arr [])
  let operatingSystem ← systemProfile.getOr "operating_system" (.obj [])
  let osRelease ← systemProfile.get "os_release"
  let dnfModules ← systemProfile.getOr "dnf_modules" (.arr [])
  let installedPackages ← systemProfile.getOr "installed_packages" (.arr [])
  let installedProducts ← systemProfile.getOr "installed_products" (.arr [])
  let initDate := loading.initDate place
  return ({
    id := hostId
    displayName := if displayName.truthy then displayName else .str (loading.str hostId)
    createdOn := initDate
    modifiedOn := initDate
    ansibleHost := "ansible_host"
    staleTimestamp := initDate + 30 * 24 * 60 * 60 * 1000000
    reporter := "toast loader"
    perReporterStaleness := .obj []
    orgId := "1234"
    groups := groups
    tagsAlt := .arr []
    lastCheckIn := loading.now place},
    ⟨hostId,"1234",operatingSystem,osRelease,dnfModules⟩,⟨hostId,"1234",installedPackages,installedProducts⟩)

abbrev Load (α : Type) := EStateM LoadError Loader α

def insertBatch : Load Unit := do
  let loader ← get
  raised ((loading.insert loader.committed loader.records).mapError .database)
  set {loader with
    committed := loader.committed.append loader.records
    records := .empty
    loaded := loader.loaded + loader.records.hosts.length}

def loadHost (host : Json) : Load Unit := do
  let loader ← get
  let entry ← raised ((buildRecords loading loader.place host).mapError .host)
  set {loader with records := loader.records.add entry,place := loader.place + 1}
  if loader.records.hosts.length + 1 = loading.batchSize then insertBatch loading

/-- How `iter_hosts` ends, after its last host. -/
def Ending.outcome : Ending → Except LoadError Unit
  | .returned => .ok ()
  | .valueError message => .error (.file message)
  | .indexError => .error .indexError

def insertRest : Load Unit := do
  if (← get).records.hosts ≠ [] then insertBatch loading

def load (hosts : List Json) (ending : Ending) : Load Unit := do
  raised (loading.delete.mapError .database)
  modify (fun loader => {loader with committed := .empty})
  -- the file is read as the loop goes: a broken one is noticed after its last good host
  hosts.foldlM (fun _ host => loadHost loading host) ()
  raised ending.outcome
  insertRest loading

/-- The rows of these hosts, in their order. -/
def Built (hosts : List Json) (entries : List Entry) : Prop :=
  List.Forall₂ (fun host entry => buildRecords loading host.2 host.1 = .ok entry) hosts.zipIdx entries

theorem Built.snoc {hosts : List Json} {entries : List Entry} (built : Built loading hosts entries) {host : Json}
    {entry : Entry} (made : buildRecords loading hosts.length host = .ok entry) :
    Built loading (hosts ++ [host]) (entries ++ [entry]) := by
  rw [Built,List.zipIdx_append]
  apply List.rel_append built
  apply List.Forall₂.cons
  · rw [Nat.zero_add]
    exact made
  · exact .nil

/-- Whole batches of the first hosts are committed. -/
def Whole (hosts : List Json) (loader : Loader) : Prop :=
  ∃ count entries, Built loading (hosts.take count) entries ∧ loader.committed = .rowsOf entries ∧
    ↑loading.batchSize ∣ entries.length ∧ loader.loaded = entries.length

/-- Between two hosts: what is committed is whole batches, and the rest waits in less than one. -/
structure Between (done : List Json) (first second : List Entry) (loader : Loader) : Prop where
  built : Built loading done (first ++ second)
  committed : loader.committed = .rowsOf first
  records : loader.records = .rowsOf second
  batches : ↑loading.batchSize ∣ first.length
  waiting : second.length < loading.batchSize
  loaded : loader.loaded = first.length
  place : loader.place = done.length

variable {loading} in
theorem Between.length {done : List Json} {first second : List Entry} {loader : Loader}
    (between : Between loading done first second loader) : done.length = first.length + second.length := by
  have same := List.Forall₂.length_eq between.built
  rwa [List.length_zipIdx,List.length_append] at same

variable {loading} in
theorem Between.whole {done rest : List Json} {first second : List Entry} {loader : Loader}
    (between : Between loading done first second loader) : Whole loading (done ++ rest) loader := by
  have inside : first.length ≤ done.length := by
    rw [between.length]
    exact Nat.le_add_right _ _
  refine ⟨first.length,first,?_,between.committed,between.batches,between.loaded⟩
  have taken := List.forall₂_take first.length between.built
  rw [List.take_left] at taken
  have split : done.zipIdx = (done.take first.length).zipIdx ++
      (done.drop first.length).zipIdx (0 + (done.take first.length).length) := by
    rw [← List.zipIdx_append,List.take_append_drop]
  have count : ((done.take first.length).zipIdx).length = first.length := by simp [inside]
  rw [split,List.take_left' count] at taken
  rw [Built,List.take_append_of_le_length inside]
  exact taken

/-- A transaction takes in the whole batch, or is refused and changes nothing. -/
theorem run_insertBatch {first second : List Entry} {loader : Loader} (committed : loader.committed = .rowsOf first)
    (records : loader.records = .rowsOf second) :
    (∃ message, (insertBatch loading).run loader = .error (.database message) loader) ∨
      (insertBatch loading).run loader = .ok () {loader with
        committed := .rowsOf (first ++ second)
        records := .rowsOf []
        loaded := loader.loaded + second.length} := by
  cases inserted : loading.insert (.rowsOf first) (.rowsOf second) with
  | error message =>
    refine Or.inl ⟨message,?_⟩
    simp [insertBatch,committed,records,inserted,Except.mapError]
  | ok _ =>
    refine Or.inr ?_
    simp [insertBatch,committed,records,inserted,Except.mapError,Records.append_rowsOf,Records.length_rowsOf]
    rfl

theorem loadHost_between {done : List Json} {first second : List Entry} {loader : Loader}
    (between : Between loading done first second loader) (host : Json) (rest : List Json) :
    (∃ last next later, (loadHost loading host).run loader = .ok () last ∧
        Between loading (done ++ [host]) next later last) ∨
      ∃ error last, (loadHost loading host).run loader = .error error last ∧
        Whole loading (done ++ host :: rest) last := by
  cases made : buildRecords loading done.length host with
  | error error =>
    refine Or.inr ⟨.host error,loader,?_,between.whole⟩
    simp [loadHost,between.place,made,Except.mapError]
  | ok entry =>
    have built := between.built.snoc loading made
    rw [List.append_assoc] at built
    have longer : (second ++ [entry]).length = second.length + 1 := List.length_append
    let joined : Loader := {loader with records := .rowsOf (second ++ [entry]),place := loader.place + 1}
    have place : joined.place = (done ++ [host]).length := by simp [joined,between.place]
    have ran : (loadHost loading host).run loader =
        if second.length + 1 = loading.batchSize then (insertBatch loading).run joined else .ok () joined := by
      by_cases full : second.length + 1 = loading.batchSize
      · simp [loadHost,between.place,between.records,made,Records.length_rowsOf,full,Except.mapError,
          Records.add_rowsOf,joined]
      · simp [loadHost,between.place,between.records,made,Records.length_rowsOf,full,Except.mapError,
          Records.add_rowsOf,joined]
    rw [ran]
    by_cases full : second.length + 1 = loading.batchSize
    · -- the batch is full: whole batches are committed before the transaction and after it
      rw [if_pos full]
      have transaction := @run_insertBatch loading first (second ++ [entry]) joined between.committed rfl
      rcases transaction with ⟨message,refused⟩ | inserted
      · exact Or.inr ⟨.database message,joined,refused,
          (between.whole : Whole loading (done ++ host :: rest) loader)⟩
      · refine Or.inl ⟨_,first ++ (second ++ [entry]),[],inserted,⟨?_,rfl,rfl,?_,loading.batchSize.pos,?_,place⟩⟩
        · rw [List.append_nil]
          exact built
        · rw [List.length_append,longer,full]
          exact between.batches.add (dvd_refl _)
        · exact (congrArg (· + (second ++ [entry]).length) between.loaded).trans List.length_append.symm
    · rw [if_neg full]
      have less := between.waiting
      refine Or.inl ⟨joined,first,second ++ [entry],rfl,⟨built,between.committed,rfl,between.batches,?_,
        between.loaded,place⟩⟩
      omega

theorem loadHosts_between (rest : List Json) {done : List Json} {first second : List Entry} {loader : Loader}
    (between : Between loading done first second loader) :
    (∃ last next later, (rest.foldlM (fun _ host => loadHost loading host) ()).run loader = .ok () last ∧
        Between loading (done ++ rest) next later last) ∨
      ∃ error last, (rest.foldlM (fun _ host => loadHost loading host) ()).run loader = .error error last ∧
        Whole loading (done ++ rest) last := by
  induction rest generalizing done first second loader with
  | nil => exact Or.inl ⟨loader,first,second,rfl,by rwa [List.append_nil]⟩
  | cons host rest ih =>
    rw [List.foldlM_cons,EStateM.run_bind]
    rcases loadHost_between loading between host rest with ⟨middle,next,later,ran,kept⟩ | ⟨error,last,ran,whole⟩
    · rw [ran,List.append_cons]
      exact ih kept
    · rw [ran]
      exact Or.inr ⟨error,last,rfl,whole⟩

theorem insertRest_between {hosts : List Json} {first second : List Entry} {loader : Loader}
    (between : Between loading hosts first second loader) :
    (∃ last entries, (insertRest loading).run loader = .ok () last ∧ Built loading hosts entries ∧
        last.committed = .rowsOf entries ∧ last.loaded = hosts.length) ∨
      ∃ error, (insertRest loading).run loader = .error error loader := by
  by_cases empty : second = []
  · subst empty
    have built := between.built
    rw [List.append_nil] at built
    refine Or.inl ⟨loader,first,?_,built,between.committed,between.loaded.trans between.length.symm⟩
    simp [insertRest,between.records,Records.rowsOf]
  · have ran : (insertRest loading).run loader = (insertBatch loading).run loader := by
      simp [insertRest,between.records,Records.rowsOf,empty]
    rw [ran]
    rcases run_insertBatch loading between.committed between.records with ⟨message,refused⟩ | inserted
    · exact Or.inr ⟨.database message,refused⟩
    · refine Or.inl ⟨_,first ++ second,inserted,between.built,rfl,?_⟩
      rw [between.length]
      exact congrArg (· + second.length) between.loaded

/-- A load that ends well has committed every host of the file, in its order. One that raises has
committed whole batches of the first hosts, unless the old rows could not be deleted. -/
def LoadsBatches (hosts : List Json) (ending : Ending) (old : Records) : Prop :=
  (∃ last entries, (load loading hosts ending).run ⟨old,.empty,0,0⟩ = .ok () last ∧
    ending.outcome = .ok () ∧ Built loading hosts entries ∧ last.committed = .rowsOf entries ∧
    last.loaded = hosts.length) ∨
  ∃ error last, (load loading hosts ending).run ⟨old,.empty,0,0⟩ = .error error last ∧
    (Whole loading hosts last ∨ (∃ message, loading.delete = .error message) ∧ last.committed = old)

theorem load_in_batches (hosts : List Json) (ending : Ending) (old : Records) :
    LoadsBatches loading hosts ending old := by
  cases deleted : loading.delete with
  | error message =>
    refine Or.inr ⟨.database message,⟨old,.empty,0,0⟩,?_,Or.inr ⟨⟨message,deleted⟩,rfl⟩⟩
    simp [load,deleted,Except.mapError]
  | ok _ =>
    have start : Between loading [] [] [] ⟨.empty,.empty,0,0⟩ :=
      ⟨.nil,rfl,rfl,dvd_zero _,loading.batchSize.pos,rfl,rfl⟩
    rcases loadHosts_between loading hosts start with ⟨last,first,second,ran,between⟩ | ⟨error,last,ran,whole⟩
    · rw [List.nil_append] at between
      have whole : Whole loading hosts last := by
        have all := @Between.whole loading hosts [] first second last between
        rwa [List.append_nil] at all
      cases ended : ending.outcome with
      | error error =>
        refine Or.inr ⟨error,last,?_,Or.inl whole⟩
        simp [load,deleted,Except.mapError,ran,ended]
      | ok _ =>
        have rested : (load loading hosts ending).run ⟨old,.empty,0,0⟩ = (insertRest loading).run last := by
          simp [load,deleted,Except.mapError,ran,ended]
        rw [LoadsBatches,rested]
        rcases insertRest_between loading between with ⟨final,entries,inserted,built,committed,count⟩ | ⟨error,refused⟩
        · exact Or.inl ⟨final,entries,inserted,ended,built,committed,count⟩
        · exact Or.inr ⟨error,last,refused,Or.inl whole⟩
    · refine Or.inr ⟨error,last,?_,Or.inl whole⟩
      simp [load,deleted,Except.mapError,ran]

end Program

end Roadmap.HostFile
