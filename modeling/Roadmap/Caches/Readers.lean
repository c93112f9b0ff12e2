import Roadmap.Base.Interleaving
import Roadmap.Caches.Packages

/-! The requests and notifications of one process read hosts at the same time: between two hosts
another one may go on, and each notified organisation clears the caches for all of them. -/
namespace Roadmap
open Cached Effects Interleaving Memo

inductive ReadRequest where
  | systemsByAppStream (systems : List HostRowWithPackages)
  | packagesBySystem (systems : List HostRowWithPackages)
  | streamAndMatchHosts (index : Dict (Int × String) (Finset Nat)) (systems : List HostRowWithPackages)

inductive Reading where
  | systemsByStream (systems : SystemsByStream)
  | packagesBySystem (packages : PackagesBySystem)
  | matching (matching : Notificator.Matching)

/-- A function between two rounds of its loops, with what is left to read. -/
inductive HostReader where
  | scanning (scan : Scan) (systems : List HostRowWithPackages)
  | lookingUp (systemsByStream : SystemsByStream) (packageData : List ((String × Int) × List SystemInfo))
  | listing (packages : PackagesBySystem) (systems : List HostRowWithPackages)
  | matching (index : Dict (Int × String) (Finset Nat)) (matched : Notificator.Matching)
    (systems : List HostRowWithPackages)
  | finished (outcome : Except PyError Reading)

def ReadRequest.begun : ReadRequest → HostReader
  | .systemsByAppStream systems => .scanning ⟨.empty,.empty,.empty⟩ systems
  | .packagesBySystem systems => .listing .empty systems
  | .streamAndMatchHosts index systems => .matching index ⟨.empty,∅⟩ systems

section Process

variable (casing : Casing) (catalogue : Catalogue)

/-- What the request returns or raises without any cache. -/
def ReadRequest.result : ReadRequest → Except PyError Reading
  | .systemsByAppStream systems => (Roadmap.systemsByAppStream casing catalogue systems).map .systemsByStream
  | .packagesBySystem systems => (Roadmap.packagesBySystem systems).map .packagesBySystem
  | .streamAndMatchHosts index systems => (Notificator.streamAndMatchHosts index systems).map .matching

namespace HostReader

def round : HostReader → Cached HostReader
  | scanning scan [] => pure (.lookingUp scan.systemsByStream scan.packageData.items)
  | scanning scan (system :: systems) => do
    let scan ← Cached.scanSystem casing catalogue scan system
    return .scanning scan systems
  | lookingUp systemsByStream [] => pure (.finished (.ok (.systemsByStream systemsByStream)))
  | lookingUp systemsByStream (entry :: packageData) => do
    let systemsByStream ← Cached.matchPackages catalogue systemsByStream entry
    return .lookingUp systemsByStream packageData
  | listing packages [] => pure (.finished (.ok (.packagesBySystem packages)))
  | listing packages (system :: systems) => do
    let packages ← Cached.packagesOfSystem packages system
    return .listing packages systems
  | matching _ matched [] => pure (.finished (.ok (.matching matched)))
  | matching index matched (system :: systems) => do
    let matched ← Cached.matchHost index matched system
    return .matching index matched systems
  | finished outcome => pure (.finished outcome)

def settled : EStateM.Result PyError PackageCaches HostReader → HostReader × PackageCaches
  | .ok reader caches => (reader,caches)
  | .error error caches => (.finished (.error error),caches)

def advance (reader : HostReader) (caches : PackageCaches) : HostReader × PackageCaches :=
  settled ((reader.round casing catalogue).run caches)

/-- What is left to return or raise, without any cache. -/
def result : HostReader → Except PyError Reading
  | scanning scan systems => do
    let scan ← systems.foldlM (Roadmap.scanSystem casing catalogue) scan
    let systemsByStream ← scan.packageData.items.foldlM (Roadmap.matchPackages catalogue) scan.systemsByStream
    return .systemsByStream systemsByStream
  | lookingUp systemsByStream packageData => do
    let systemsByStream ← packageData.foldlM (Roadmap.matchPackages catalogue) systemsByStream
    return .systemsByStream systemsByStream
  | listing packages systems => do
    let packages ← systems.foldlM Roadmap.packagesOfSystem packages
    return .packagesBySystem packages
  | matching index matched systems => do
    let matched ← systems.foldlM (Notificator.matchHost index) matched
    return .matching matched
  | finished outcome => outcome

end HostReader

/-- Arguments of the two functions. -/
structure PackageArguments where
  packages : Finset String
  pairs : Finset (String × Int)

def PackageArguments.nothing : PackageArguments := ⟨∅,∅⟩

def PackageArguments.with (first second : PackageArguments) : PackageArguments :=
  ⟨first.packages ∪ second.packages,first.pairs ∪ second.pairs⟩

/-- What the next round may ask for. -/
def HostReader.asks : HostReader → PackageArguments
  | scanning _ (system :: _) => ⟨packagesOf system,∅⟩
  | lookingUp _ (entry :: _) => ⟨{entry.1.1},{entry.1}⟩
  | listing _ (system :: _) => ⟨packagesOf system,∅⟩
  | matching _ _ (system :: _) => ⟨packagesOf system,∅⟩
  | _ => .nothing

abbrev ReadingEvent := Interleaving.Event ReadRequest Unit

abbrev ReadingProcess := Interleaving.State PackageCaches HostReader

namespace ReadingProcess

def idle : PackageCaches := ⟨.empty,.empty⟩

/-- The one change of the caches from outside, `clear_caches()`. -/
def cleared (_ : Unit) (caches : PackageCaches) : PackageCaches :=
  match Cached.clearCaches.run caches with
  | .ok _ left => left
  | .error _ left => left

def handle (process : ReadingProcess) (event : ReadingEvent) : ReadingProcess :=
  Interleaving.step ReadRequest.begun (HostReader.advance casing catalogue) cleared process event

def after (events : List ReadingEvent) : ReadingProcess :=
  Interleaving.run ReadRequest.begun (HostReader.advance casing catalogue) cleared idle events

def askedBy (process : ReadingProcess) (asked : PackageArguments) : ReadingEvent → PackageArguments
  | .arrives _ => asked
  | .advances position => ((process.agents[position]?.map HostReader.asks).getD .nothing).with asked
  | .changes _ => .nothing

/-- What has been asked for since the caches were last cleared. -/
def asked (events : List ReadingEvent) : PackageArguments :=
  (events.foldl (fun (watched : ReadingProcess × PackageArguments) event =>
    (handle casing catalogue watched.1 event,askedBy watched.1 watched.2 event)) (⟨idle,[]⟩,.nothing)).2

end ReadingProcess

end Process

section Rounds

variable {casing : Casing} {catalogue : Catalogue} {asked : PackageArguments}

theorem settled_held {α : Type} {program : Cached α} {plain : Except PyError α}
    (agrees : Agrees (Held catalogue asked.packages asked.pairs) program plain) (next : α → HostReader)
    {caches : PackageCaches} (held : Held catalogue asked.packages asked.pairs caches) :
    (HostReader.settled ((program >>= fun value => pure (next value)).run caches)).1.result casing catalogue =
        (plain >>= fun value => (next value).result casing catalogue) ∧
      Held catalogue asked.packages asked.pairs
        (HostReader.settled ((program >>= fun value => pure (next value)).run caches)).2 := by
  obtain ⟨last,kept,ran⟩ := agrees caches held
  rw [EStateM.run_bind,ran]
  cases plain with
  | ok value => exact ⟨rfl,kept⟩
  | error error => exact ⟨rfl,kept⟩

/-- A round leaves what the reader will return. -/
theorem advance_held (reader : HostReader) {caches : PackageCaches}
    (before : Held catalogue asked.packages asked.pairs caches) :
    (reader.advance casing catalogue caches).1.result casing catalogue = reader.result casing catalogue ∧
      Held catalogue (reader.asks.with asked).packages (reader.asks.with asked).pairs
        (reader.advance casing catalogue caches).2 := by
  have held : Held catalogue (reader.asks.with asked).packages (reader.asks.with asked).pairs caches :=
    before.mono Finset.subset_union_right Finset.subset_union_right
  have packages : reader.asks.packages ⊆ (reader.asks.with asked).packages := Finset.subset_union_left
  have pairs : reader.asks.pairs ⊆ (reader.asks.with asked).pairs := Finset.subset_union_left
  cases reader with
  | finished outcome => exact ⟨rfl,held⟩
  | scanning scan systems =>
    cases systems with
    | nil => exact ⟨rfl,held⟩
    | cons system systems =>
      obtain ⟨same,kept⟩ := settled_held (scanSystem_agrees casing catalogue scan packages)
        (fun scan => .scanning scan systems) held
      refine ⟨same.trans ?_,kept⟩
      simp only [HostReader.result,List.foldlM_cons,bind_assoc]
  | lookingUp systemsByStream packageData =>
    cases packageData with
    | nil => exact ⟨rfl,held⟩
    | cons entry packageData =>
      have looked := matchPackages_agrees catalogue systemsByStream (Finset.singleton_subset_iff.mp packages)
        (Finset.singleton_subset_iff.mp pairs)
      obtain ⟨same,kept⟩ := settled_held looked (fun systems => .lookingUp systems packageData) held
      refine ⟨same.trans ?_,kept⟩
      simp only [HostReader.result,List.foldlM_cons,bind_assoc]
  | listing listed systems =>
    cases systems with
    | nil => exact ⟨rfl,held⟩
    | cons system systems =>
      obtain ⟨same,kept⟩ := settled_held (packagesOfSystem_agrees listed packages)
        (fun listed => .listing listed systems) held
      refine ⟨same.trans ?_,kept⟩
      simp only [HostReader.result,List.foldlM_cons,bind_assoc]
  | matching index matched systems =>
    cases systems with
    | nil => exact ⟨rfl,held⟩
    | cons system systems =>
      obtain ⟨same,kept⟩ := settled_held (matchHost_agrees index matched packages)
        (fun matched => .matching index matched systems) held
      refine ⟨same.trans ?_,kept⟩
      simp only [HostReader.result,List.foldlM_cons,bind_assoc]

/-- The loop the reader is in, and what is left of it. -/
def HostReader.rank : HostReader → Nat ×ₗ Nat
  | .scanning _ systems => toLex (2,systems.length)
  | .lookingUp _ packageData => toLex (1,packageData.length)
  | .listing _ systems => toLex (1,systems.length)
  | .matching _ _ systems => toLex (1,systems.length)
  | .finished _ => toLex (0,0)

def HostReader.Done (reader : HostReader) : Prop := ∃ outcome, reader = .finished outcome

theorem settled_shrinks {α : Type} (program : Cached α) (next : α → HostReader) (caches : PackageCaches)
    {bound : Nat ×ₗ Nat} (positive : toLex (0,0) < bound) (smaller : ∀ value, (next value).rank < bound) :
    (HostReader.settled ((program >>= fun value => pure (next value)).run caches)).1.rank < bound := by
  rw [EStateM.run_bind]
  cases program.run caches with
  | ok value last => exact smaller value
  | error error last => exact positive

theorem advance_shrinks : Shrinks HostReader.rank HostReader.Done (HostReader.advance casing catalogue) := by
  have inner : ∀ (level length : Nat), toLex (level,length) < toLex (level,length + 1) :=
    fun level length => Prod.Lex.toLex_lt_toLex.mpr (Or.inr ⟨rfl,Nat.lt_succ_self length⟩)
  have outer : ∀ {high low : Nat} (length other : Nat), low < high → toLex (low,other) < toLex (high,length) :=
    fun length other lower => Prod.Lex.toLex_lt_toLex.mpr (Or.inl lower)
  intro reader caches going
  cases reader with
  | finished outcome => exact absurd ⟨outcome,rfl⟩ going
  | scanning scan systems =>
    cases systems with
    | nil => exact outer 0 _ (by decide)
    | cons system systems => exact settled_shrinks _ _ caches (outer _ 0 (by decide)) (fun _ => inner 2 _)
  | lookingUp systemsByStream packageData =>
    cases packageData with
    | nil => exact outer 0 0 (by decide)
    | cons entry packageData => exact settled_shrinks _ _ caches (outer _ 0 (by decide)) (fun _ => inner 1 _)
  | listing listed systems =>
    cases systems with
    | nil => exact outer 0 0 (by decide)
    | cons system systems => exact settled_shrinks _ _ caches (outer _ 0 (by decide)) (fun _ => inner 1 _)
  | matching index matched systems =>
    cases systems with
    | nil => exact outer 0 0 (by decide)
    | cons system systems => exact settled_shrinks _ _ caches (outer _ 0 (by decide)) (fun _ => inner 1 _)

theorem begun_result (request : ReadRequest) :
    request.begun.result casing catalogue = request.result casing catalogue := by
  cases request with
  | systemsByAppStream systems =>
    simp only [ReadRequest.begun,HostReader.result,ReadRequest.result,Roadmap.systemsByAppStream]
    cases systems.foldlM (Roadmap.scanSystem casing catalogue) ⟨.empty,.empty,.empty⟩ with
    | error error => rfl
    | ok scan =>
      rw [Except.ok_bind,Except.ok_bind]
      cases scan.packageData.items.foldlM (Roadmap.matchPackages catalogue) scan.systemsByStream <;> rfl
  | packagesBySystem systems =>
    simp only [ReadRequest.begun,HostReader.result,ReadRequest.result,Roadmap.packagesBySystem]
    cases systems.foldlM Roadmap.packagesOfSystem .empty <;> rfl
  | streamAndMatchHosts index systems =>
    simp only [ReadRequest.begun,HostReader.result,ReadRequest.result,Notificator.streamAndMatchHosts]
    cases systems.foldlM (Notificator.matchHost index) ⟨.empty,∅⟩ <;> rfl

end Rounds

section Runs

variable (casing : Casing) (catalogue : Catalogue)

open ReadingProcess

theorem asked_snoc (events : List ReadingEvent) (event : ReadingEvent) :
    asked casing catalogue (events ++ [event]) =
      askedBy (after casing catalogue events) (asked casing catalogue events) event := by
  have process : ∀ watched : ReadingProcess × PackageArguments, (events.foldl (fun watched event =>
      (handle casing catalogue watched.1 event,askedBy watched.1 watched.2 event)) watched).1 =
        events.foldl (handle casing catalogue) watched.1 := by
    induction events with
    | nil => exact fun _ => rfl
    | cons first rest ih => exact fun watched => ih _
  rw [asked,List.foldl_append]
  exact congrArg (fun current => askedBy current _ event) (process (⟨idle,[]⟩,.nothing))

def Answers (request : ReadRequest) (reader : HostReader) : Prop :=
  reader.result casing catalogue = request.result casing catalogue

/-- At every time each reader still returns what its request returns alone, and the caches hold
results for arguments asked for since they were last cleared. -/
theorem process_held (events : List ReadingEvent) :
    Held catalogue (asked casing catalogue events).packages (asked casing catalogue events).pairs
        (after casing catalogue events).shared ∧
      List.Forall₂ (Answers casing catalogue) (arrivals events) (after casing catalogue events).agents := by
  have kept := @run_rule _ _ _ _ ReadRequest.begun (HostReader.advance casing catalogue) cleared idle
    (fun events process => Held catalogue (asked casing catalogue events).packages
        (asked casing catalogue events).pairs process.shared ∧
      List.Forall₂ (Answers casing catalogue) (arrivals events) process.agents)
    ⟨held_empty,.nil⟩ (fun events event ⟨held,readers⟩ => ?_)
  · exact kept events
  have settled : List.Forall₂ (Answers casing catalogue) (arrivals (events ++ [event]))
      (handle casing catalogue (after casing catalogue events) event).agents :=
    related_step (Answers casing catalogue) begun_result readers event (fun _ reader same => (advance_held reader held).1.trans same)
  refine ⟨?_,settled⟩
  rw [asked_snoc]
  cases event with
  | arrives request => exact held
  | changes kind => exact held_empty
  | advances position =>
    change Held _ _ _ (handle casing catalogue (after casing catalogue events) (.advances position)).shared
    simp only [handle,askedBy,Interleaving.step]
    cases found : (after casing catalogue events).agents[position]? with
    | none => exact held.mono Finset.subset_union_right Finset.subset_union_right
    | some reader => exact (@advance_held casing catalogue _ reader _ held).2

/-- However the readers take turns, and whenever the caches are cleared, each returns or raises
what its request does alone. A cache holds at most what it was asked for since. -/
theorem readings_undisturbed (events : List ReadingEvent) :
    List.Forall₂ (fun request reader => ∀ outcome, reader = HostReader.finished outcome →
        outcome = request.result casing catalogue)
      (arrivals events) (after casing catalogue events).agents ∧
    (after casing catalogue events).shared.nevras.entries.length ≤
      min 100000 (asked casing catalogue events).packages.card ∧
    (after casing catalogue events).shared.appStreams.entries.length ≤
      min 100000 (asked casing catalogue events).pairs.card := by
  obtain ⟨held,readers⟩ := process_held casing catalogue events
  refine ⟨readers.imp (fun request reader same outcome ended => ?_),held.sizes⟩
  subst ended
  exact same

/-- A reader whose turn comes again and again ends, with the result of its request. -/
theorem reading_ends (schedule : Nat → ReadingEvent) {time : Nat} {request : ReadRequest}
    (arrival : schedule time = .arrives request)
    (fair : ∀ now, ∃ later, schedule (now + later) =
      .advances (arrivals ((List.range time).map schedule)).length) :
    ∃ ending, time < ending ∧
      (after casing catalogue ((List.range ending).map schedule)).agents[
        (arrivals ((List.range time).map schedule)).length]? =
          some (.finished (request.result casing catalogue)) := by
  obtain ⟨-,earlier⟩ := process_held casing catalogue ((List.range time).map schedule)
  have present : (after casing catalogue ((List.range (time + 1)).map schedule)).agents[
      (arrivals ((List.range time).map schedule)).length]? = some request.begun := by
    rw [List.range_succ,List.map_append,after,List.map_singleton,run_snoc,arrival,earlier.length_eq]
    exact List.getElem?_concat_length
  obtain ⟨ending,reader,later,found,outcome,rfl⟩ := eventually_done advance_shrinks fair present
  refine ⟨ending,later,found.trans (congrArg some ?_)⟩
  obtain ⟨-,readers⟩ := process_held casing catalogue ((List.range ending).map schedule)
  obtain ⟨-,each⟩ := List.forall₂_iff_get.mp readers
  obtain ⟨among,asked⟩ := List.getElem?_eq_some_iff.mp (arrivals_at arrival later)
  obtain ⟨inside,held⟩ := List.getElem?_eq_some_iff.mp found
  have answers : Answers casing catalogue _ _ := each _ among inside
  rw [List.get_eq_getElem,List.get_eq_getElem,asked] at answers
  have ended : HostReader.result casing catalogue (.finished outcome) = request.result casing catalogue := by
    rw [← held]
    exact answers
  exact congrArg HostReader.finished ended

end Runs

private def vimHosts : List HostRowWithPackages :=
  [⟨⟨⟨1⟩,"a",some "RHEL",some 9,some 4,none,none⟩,none,some ["vim-2:8.2.2637-20.el9.x86_64"]⟩,
    ⟨⟨⟨2⟩,"b",some "RHEL",some 9,some 4,none,none⟩,none,some ["vim"]⟩]

/-- One request arrives and goes on; now and then the caches are cleared. -/
private def vimSchedule (now : Nat) : ReadingEvent :=
  if now = 0 then .arrives (.packagesBySystem vimHosts)
  else if now % 2 = 0 then .changes () else .advances 0

private theorem vim_again (now : Nat) : ∃ later, vimSchedule (now + later) = .advances 0 := by
  obtain even | odd := Nat.even_or_odd now
  · have here : now % 2 = 0 := Nat.even_iff.mp even
    have next : (now + 1) % 2 = 1 := by omega
    exact ⟨1,by simp [vimSchedule,next]⟩
  · have here : now % 2 = 1 := Nat.odd_iff.mp odd
    exact ⟨0,by simp [vimSchedule,here]; omega⟩

theorem reading_ends_vim : ∃ ending, 0 < ending ∧
    (ReadingProcess.after .ascii ⟨[],.empty,.empty⟩ ((List.range ending).map vimSchedule)).agents[
      (arrivals ((List.range 0).map vimSchedule)).length]? = some (.finished
        ((ReadRequest.packagesBySystem vimHosts).result .ascii ⟨[],.empty,.empty⟩)) :=
  reading_ends .ascii ⟨[],.empty,.empty⟩ vimSchedule rfl vim_again

end Roadmap
