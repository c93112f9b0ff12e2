import Roadmap.AppStreams.Endpoints
import Roadmap.Data.Systems

/-! What a response leaves behind: the end dates of rolling streams, once the listing of all
items has shown them. -/
namespace Roadmap
open AppStreamEntity

section Served

variable {ρ : Type} [DecidableEq ρ] (casing : Casing) (table : LifecycleTable) (today : Date)
  (process : Process ρ)

/-- The process with other end dates and support statuses, the only fields that responses write. -/
def Process.withDates (dates : ρ → Option Date) (statuses : ρ → SupportStatus) : Process ρ :=
  {process with heap := fun ref =>
    {process.heap ref with endDate := dates ref,supportStatus := statuses ref}}

omit [DecidableEq ρ] in
theorem select_withDates (dates : ρ → Option Date) (statuses : ρ → SupportStatus) (request : Request) :
    (process.withDates dates statuses).select casing request = process.select casing request := by
  obtain ⟨listing,params⟩ := request
  cases listing <;> rfl

private def validated (refs : List ρ) (dates : ρ → Option Date) (statuses : ρ → SupportStatus) (ref : ρ) :
    SupportStatus :=
  if ref ∈ refs then ((process.heap ref).shown today (dates ref)).supportStatus else statuses ref

private theorem validateData_withDates (settled : ∀ ref, Settled casing table (process.heap ref))
    (refs : List ρ) (dates : ρ → Option Date) (statuses : ρ → SupportStatus) :
    validateData casing table today refs (process.withDates dates statuses).heap =
      .ok (process.withDates dates (validated today process refs dates statuses)).heap := by
  induction refs generalizing statuses with
  | nil => rfl
  | cons ref rest ih =>
    have step : ((process.withDates dates statuses).heap ref).validate casing table today =
        .ok ((process.heap ref).shown today (dates ref)) := settled ref today (dates ref) (statuses ref)
    let after := Function.update statuses ref ((process.heap ref).shown today (dates ref)).supportStatus
    have written : Function.update (process.withDates dates statuses).heap ref
        ((process.heap ref).shown today (dates ref)) = (process.withDates dates after).heap := by
      funext other
      by_cases same : other = ref
      · subst same
        simp [Process.withDates,shown,updateSupportStatus,after]
      · simp [Process.withDates,after,same]
    rw [validateData,List.foldlM_cons,step]
    refine (congrArg (rest.foldlM _) written).trans ((ih after).trans ?_)
    refine congrArg (fun statuses => Except.ok (process.withDates dates statuses).heap) (funext (fun other => ?_))
    by_cases same : other = ref
    · subst same
      by_cases again : other ∈ rest <;> simp [validated,again,after]
    · by_cases again : other ∈ rest <;> simp [validated,again,after,same]

/-- The end dates after the response model of all items has set those of rolling streams. -/
private def corrected (refs : List ρ) (dates : ρ → Option Date) (ref : ρ) : Option Date :=
  if ref ∈ refs then (rollingEndDate table (process.heap ref)).or (dates ref) else dates ref

private theorem setEndDates_withDates (refs : List ρ) (dates : ρ → Option Date)
    (statuses : ρ → SupportStatus) :
    setEndDates table refs (process.withDates dates statuses).heap =
      (process.withDates (corrected table process refs dates) statuses).heap := by
  induction refs generalizing dates with
  | nil => rfl
  | cons ref rest ih =>
    let after := Function.update dates ref ((rollingEndDate table (process.heap ref)).or (dates ref))
    have written : Function.update (process.withDates dates statuses).heap ref
        {(process.withDates dates statuses).heap ref with endDate := after ref} =
          (process.withDates after statuses).heap := by
      funext other
      by_cases same : other = ref
      · subst same
        simp [Process.withDates]
      · simp [Process.withDates,after,same]
    have read : after ref = (rollingEndDate table ((process.withDates dates statuses).heap ref)).or
        ((process.withDates dates statuses).heap ref).endDate := Function.update_self _ _ _
    rw [read] at written
    rw [setEndDates,List.foldl_cons]
    refine (congrArg (rest.foldl _) written).trans ((ih after).trans ?_)
    refine congrArg (fun dates => (process.withDates dates statuses).heap) (funext (fun other => ?_))
    by_cases same : other = ref
    · subst same
      by_cases again : other ∈ rest <;> simp [corrected,again,after,← Option.or_assoc]
    · by_cases again : other ∈ rest <;> simp [corrected,again,after,same]

private theorem data_validated (refs : List ρ) (dates : ρ → Option Date) (statuses : ρ → SupportStatus) :
    refs.map (process.withDates dates (validated today process refs dates statuses)).heap =
      refs.map (fun ref => (process.heap ref).shown today (dates ref)) := by
  refine List.map_congr_left (fun ref member => ?_)
  simp [Process.withDates,validated,member,shown,updateSupportStatus]

private def datesAfter (request : Request) (refs : List ρ) (dates : ρ → Option Date) : ρ → Option Date :=
  if request.listing = .items then corrected table process refs dates else dates

private theorem serve_selected (settled : ∀ ref, Settled casing table (process.heap ref))
    {request : Request} {refs : List ρ} (selected : process.select casing request = .ok refs)
    (dates : ρ → Option Date) (statuses : ρ → SupportStatus) : ∃ after,
      serve casing table today (process.withDates dates statuses) request =
        (.ok ⟨⟨refs.length,refs.length⟩,refs.map (fun ref =>
            (process.heap ref).shown today (datesAfter table process request refs dates ref))⟩,
          process.withDates (datesAfter table process request refs dates) after) := by
  have first := validateData_withDates casing table today process settled refs dates statuses
  have responded : ∃ after, respond casing table today (process.withDates dates statuses) request =
      .ok (⟨⟨refs.length,refs.length⟩,refs.map (fun ref =>
          (process.heap ref).shown today (datesAfter table process request refs dates ref))⟩,
        (process.withDates (datesAfter table process request refs dates) after).heap) := by
    rw [respond,select_withDates,selected]
    by_cases all : request.listing = .items
    · have second := validateData_withDates casing table today process settled refs
        (corrected table process refs dates) (validated today process refs dates statuses)
      refine ⟨validated today process refs (corrected table process refs dates)
        (validated today process refs dates statuses),?_⟩
      simp only [bind,Except.bind,pure,Except.pure,first,if_pos all,setEndDates_withDates,second,
        datesAfter,data_validated]
    · refine ⟨validated today process refs dates statuses,?_⟩
      simp only [bind,Except.bind,pure,Except.pure,first,if_neg all,datesAfter,data_validated]
  obtain ⟨after,responded⟩ := responded
  exact ⟨after,by rw [serve,responded]; rfl⟩

private theorem serve_failed {request : Request} {error : PyError}
    (failed : process.select casing request = .error error)
    (dates : ρ → Option Date) (statuses : ρ → SupportStatus) :
    serve casing table today (process.withDates dates statuses) request =
      (.error error,process.withDates dates statuses) := by
  rw [serve,respond,select_withDates,failed]
  rfl

def Selects (request : Request) (ref : ρ) : Prop :=
  ∃ refs, process.select casing request = .ok refs ∧ ref ∈ refs

/-- The listing of all items gives the entity another end date than that it was loaded with. -/
def Overwritten (entity : AppStreamEntity) : Prop :=
  ∃ date, rollingEndDate table entity = some date ∧ entity.endDate ≠ some date

/-- The later request shows no end date that the earlier one has overwritten. -/
def Undisturbed (earlier later : Request) : Prop :=
  earlier.listing = .items → later.listing ≠ .items →
    ∀ ref, Selects casing process earlier ref → Selects casing process later ref →
      ¬ Overwritten table (process.heap ref)

/-- The end dates once the marked entities have been in a listing of all items. -/
private def Marked (marked : ρ → Prop) (dates : ρ → Option Date) : Prop := ∀ ref,
  marked ref ∧ dates ref = (rollingEndDate table (process.heap ref)).or (process.heap ref).endDate ∨
    ¬ marked ref ∧ dates ref = (process.heap ref).endDate

variable {marked : ρ → Prop} {dates : ρ → Option Date} (shows : Marked table process marked dates)

include shows

omit [DecidableEq ρ] in
private theorem date_iff (ref : ρ) : dates ref = (process.heap ref).endDate ↔
    (marked ref → ¬ Overwritten table (process.heap ref)) := by
  rcases shows ref with ⟨was,date⟩ | ⟨never,date⟩
  · rw [date]
    unfold Overwritten
    cases rollingEndDate table (process.heap ref) with
    | none => simp
    | some written => simp [was,eq_comm]
  · simp [date,never]

omit [DecidableEq ρ] in
private theorem date_corrected (ref : ρ) :
    (rollingEndDate table (process.heap ref)).or (dates ref) =
      (rollingEndDate table (process.heap ref)).or (process.heap ref).endDate := by
  rcases shows ref with ⟨-,date⟩ | ⟨-,date⟩
  · rw [date,← Option.or_assoc,Option.or_self]
  · rw [date]

private theorem marked_after {request : Request} {refs : List ρ}
    (selected : process.select casing request = .ok refs) :
    Marked table process (fun ref => marked ref ∨ request.listing = .items ∧ Selects casing process request ref)
      (datesAfter table process request refs dates) := by
  intro ref
  have selects : Selects casing process request ref ↔ ref ∈ refs := by simp [Selects,selected]
  simp only [selects,datesAfter]
  by_cases all : request.listing = .items
  · by_cases inside : ref ∈ refs
    · refine .inl ⟨.inr ⟨all,inside⟩,?_⟩
      rw [if_pos all,corrected,if_pos inside,date_corrected table process shows]
    · simpa [all,corrected,inside] using shows ref
  · simpa [all] using shows ref

/-- A response is that of the fresh process unless it shows an end date overwritten before. -/
private theorem response_iff (settled : ∀ ref, Settled casing table (process.heap ref))
    (statuses : ρ → SupportStatus) (request : Request) :
    (serve casing table today (process.withDates dates statuses) request).1 =
        (serve casing table today process request).1 ↔
      (request.listing ≠ .items → ∀ ref, Selects casing process request ref → marked ref →
        ¬ Overwritten table (process.heap ref)) := by
  let base := fun ref => (process.heap ref).endDate
  have itself : process.withDates base (fun ref => (process.heap ref).supportStatus) = process := rfl
  cases selected : process.select casing request with
  | error error =>
    have failed := serve_failed casing table today process selected
    rw [← itself,failed,itself,failed]
    simp [Selects,selected]
  | ok refs =>
    obtain ⟨_,running⟩ := serve_selected casing table today process settled selected dates statuses
    obtain ⟨_,fresh⟩ := serve_selected casing table today process settled selected base
      (fun ref => (process.heap ref).supportStatus)
    rw [itself] at fresh
    have same : (serve casing table today (process.withDates dates statuses) request).1 =
        (serve casing table today process request).1 ↔ ∀ ref ∈ refs,
          datesAfter table process request refs dates ref = datesAfter table process request refs base ref := by
      rw [running,fresh]
      simp only [Except.ok.injEq,AppStreamsResponse.mk.injEq,true_and,List.map_inj_left]
      refine forall₂_congr (fun ref _ => ⟨fun equal => ?_,fun equal => by rw [equal]⟩)
      exact congrArg AppStreamEntity.endDate equal
    have selects : ∀ ref, Selects casing process request ref ↔ ref ∈ refs := by simp [Selects,selected]
    rw [same]
    simp only [selects,datesAfter]
    by_cases all : request.listing = .items
    · simp only [all,if_true,ne_eq,not_true,false_implies,iff_true]
      intro ref inside
      rw [corrected,corrected,if_pos inside,if_pos inside]
      exact date_corrected table process shows ref
    · simp only [ne_eq,all,not_false_eq_true,true_implies]
      exact forall₂_congr (fun ref _ => date_iff table process shows ref)

omit shows in
/-- What a run from marked entities shows, by induction on its requests. -/
private theorem responses_iff (settled : ∀ ref, Settled casing table (process.heap ref))
    (requests : List Request) (shows : Marked table process marked dates) (statuses : ρ → SupportStatus) :
    responses casing table today (process.withDates dates statuses) requests =
        requests.map (fun request => (serve casing table today process request).1) ↔
      (∀ request ∈ requests, request.listing ≠ .items → ∀ ref, Selects casing process request ref →
        marked ref → ¬ Overwritten table (process.heap ref)) ∧
      requests.Pairwise (Undisturbed casing table process) := by
  induction requests generalizing marked dates statuses with
  | nil => simp [responses]
  | cons request rest ih =>
    have head := response_iff casing table today process shows settled statuses request
    have next : ∃ marked' dates' statuses', Marked table process marked' dates' ∧
        (serve casing table today (process.withDates dates statuses) request).2 =
          process.withDates dates' statuses' ∧
        ∀ ref, marked' ref ↔ marked ref ∨ request.listing = .items ∧ Selects casing process request ref := by
      cases selected : process.select casing request with
      | error error =>
        refine ⟨marked,dates,statuses,shows,?_,fun ref => ?_⟩
        · rw [serve_failed casing table today process selected]
        · simp [Selects,selected]
      | ok refs =>
        obtain ⟨after,served⟩ := serve_selected casing table today process settled selected dates statuses
        exact ⟨_,_,after,marked_after casing table process shows selected,by rw [served],fun ref => Iff.rfl⟩
    obtain ⟨marked',dates',statuses',shows',left,grown⟩ := next
    rw [responses,List.map_cons,List.cons_eq_cons,head,left,ih shows' statuses',List.pairwise_cons,
      List.forall_mem_cons]
    simp only [grown]
    constructor
    · rintro ⟨now,later,pairs⟩
      refine ⟨⟨now,fun other member shown ref chosen was => later other member shown ref chosen (.inl was)⟩,
        fun other member all shown ref first second => ?_,pairs⟩
      exact later other member shown ref second (.inr ⟨all,first⟩)
    · rintro ⟨⟨now,later⟩,apart,pairs⟩
      refine ⟨now,fun other member shown ref chosen was => ?_,pairs⟩
      rcases was with before | ⟨all,first⟩
      · exact later other member shown ref chosen before
      · exact apart other member all shown ref first chosen

end Served

section Run

variable {ρ : Type} (casing : Casing) (table : LifecycleTable)

private theorem started_withDates {day today : Date} {tables : Tables ρ} {fields : ρ → AppStreamEntity}
    {running fresh : Process ρ} (started : Started casing table day tables fields running)
    (anew : Started casing table today tables fields fresh) :
    running = fresh.withDates (fun ref => (fresh.heap ref).endDate)
      (fun ref => (running.heap ref).supportStatus) := by
  have heaps : running.heap = fun ref => {fresh.heap ref with
      endDate := (fresh.heap ref).endDate,supportStatus := (running.heap ref).supportStatus} := by
    funext ref
    have again := (create_settled casing table (anew.created ref)).2 day
    have same := Except.ok.inj ((started.created ref).symm.trans again)
    rw [same]
    rfl
  obtain ⟨tables',streams,heap⟩ := running
  obtain ⟨-,shared,kept⟩ := started
  obtain ⟨-,shared',kept'⟩ := anew
  simp only at shared kept heaps
  subst shared kept
  rw [Process.withDates,Process.mk.injEq]
  refine ⟨shared'.symm,?_,heaps⟩
  rw [kept',heaps]
  rfl

/-- Every response of a run is that of a process started on the day of the run, provided
that no response shows an end date that the listing of all items has overwritten before. -/
theorem responses_as_started [DecidableEq ρ] {day today : Date} {tables : Tables ρ} {fields : ρ → AppStreamEntity}
    {running fresh : Process ρ} (started : Started casing table day tables fields running)
    (anew : Started casing table today tables fields fresh) (requests : List Request) :
    responses casing table today running requests =
        requests.map (fun request => (serve casing table today fresh request).1) ↔
      requests.Pairwise (Undisturbed casing table fresh) := by
  have settled : ∀ ref, Settled casing table (fresh.heap ref) :=
    fun ref => (create_settled casing table (anew.created ref)).1
  have unmarked : Marked table fresh (fun _ => False) (fun ref => (fresh.heap ref).endDate) :=
    fun _ => .inr ⟨not_false,rfl⟩
  rw [started_withDates casing table started anew,
    responses_iff casing table today fresh settled requests unmarked _]
  simp

end Run

private def ds389Fields : AppStreamEntity := {
  name := "389-ds",applicationStreamName := "389-ds 1.4",applicationStreamType := some .dependent
  stream := "1.4",impl := .module,osMajor := some 8,startDate := some (.mk 2019 5 7),rolling := true}

private def ds389Tables : Tables Unit := ⟨[()],.empty⟩

private def ds389Process : Process Unit :=
  ⟨ds389Tables,[],fun _ => {ds389Fields with displayName := "389 Ds 1.4"}⟩

private theorem ds389_started {day : Date}
    (created : ds389Fields.create .ascii osLifecycleDates day = .ok (ds389Process.heap ())) :
    Started .ascii osLifecycleDates day ds389Tables (fun _ => ds389Fields) ds389Process :=
  ⟨fun _ => created,rfl,rfl⟩

theorem responses_as_started_389 :
    let requests : List Request := [⟨.modules 8,{}⟩,⟨.items,{}⟩]
    responses .ascii osLifecycleDates (.mk 2025 11 20) ds389Process requests =
      requests.map (fun request =>
        (serve .ascii osLifecycleDates (.mk 2025 11 20) ds389Process request).1) := by
  refine (@responses_as_started Unit .ascii osLifecycleDates _ (.mk 2025 11 19) _ _ _ _ _
    (ds389_started (by decide)) (ds389_started (by decide)) _).mpr ?_
  simp [Undisturbed]

/-- The listing of the modules of RHEL 8 shows the end date that the listing of all items
has written. -/
theorem rolling_end_date_left :
    Started .ascii osLifecycleDates (.mk 2025 11 20) ds389Tables (fun _ => ds389Fields) ds389Process ∧
    let requests : List Request := [⟨.items,{}⟩,⟨.modules 8,{}⟩]
    responses .ascii osLifecycleDates (.mk 2025 11 20) ds389Process requests ≠ requests.map (fun request =>
      (serve .ascii osLifecycleDates (.mk 2025 11 20) ds389Process request).1) :=
  ⟨ds389_started (by decide),by decide +kernel⟩

end Roadmap
