import Roadmap.AppStreams.Kept
import Roadmap.Notificator
import Roadmap.VersionFilter

/-! Package strings that do not parse. The three loops over the inventory skip a row whose
version cannot be told, but nothing catches the exception of a package string. -/
namespace Roadmap

section Malformed

def parses (package : String) : Bool := (NEVRA.fromString package).toBool

theorem wellFormed_iff (package : String) : NEVRA.WellFormed package ↔ parses package = true := by
  unfold NEVRA.WellFormed parses
  cases NEVRA.fromString package <;> simp [Except.toBool]

def withoutMalformed (system : HostRowWithPackages) : HostRowWithPackages :=
  {system with packages := system.packages.map (fun packages => packages.filter parses)}

theorem withoutMalformed_formed {system : HostRowWithPackages} (formed : WellFormedPackages system) :
    withoutMalformed system = system := by
  obtain ⟨row,dnfModules,packages⟩ := system
  cases packages with
  | none => rfl
  | some packages =>
    have kept : packages.filter parses = packages :=
      List.filter_eq_self.mpr (fun package listed => (wellFormed_iff package).mp (formed package listed))
    simp only [withoutMalformed,Option.map_some,kept]

def told (system : HostRowWithPackages) : Bool := (hostInfo system).isSome

theorem not_told {system : HostRowWithPackages} (skipped : told system = false) :
    rhelMajorMinor system.toHostRow = none := by
  simpa [told,hostInfo] using skipped

variable (casing : Casing) (catalogue : Catalogue) (index : Dict (Int × String) (Finset Nat))
  (systems : List HostRowWithPackages)

theorem systemsByAppStream_told : systemsByAppStream casing catalogue systems =
    systemsByAppStream casing catalogue (systems.filter told) := by
  have same : told = Reader.aggregates .systemsByAppStream := by
    funext system
    simp [told,hostInfo,Reader.aggregates]
  rw [same]
  exact systemsByAppStream_aggregated systems casing catalogue

theorem packagesBySystem_told : packagesBySystem systems = packagesBySystem (systems.filter told) := by
  have skips : ∀ packages system, told system = false →
      packagesOfSystem packages system = .ok packages := by
    intro packages system skipped
    simp only [packagesOfSystem,not_told skipped]
  rw [packagesBySystem,Except.foldlM_skip _ skips]
  rfl

theorem streamAndMatchHosts_told : Notificator.streamAndMatchHosts index systems =
    Notificator.streamAndMatchHosts index (systems.filter told) := by
  have skips : ∀ matching system, told system = false →
      Notificator.matchHost index matching system = .ok matching := by
    intro matching system skipped
    simp only [Notificator.matchHost,not_told skipped]
  rw [Notificator.streamAndMatchHosts,Except.foldlM_skip _ skips]
  rfl

/-- The three loops complete, and malformed package strings do not show in what they return. -/
structure Tolerated : Prop where
  systemsByAppStream : ∃ mapping, systemsByAppStream casing catalogue systems = .ok mapping ∧
    systemsByAppStream casing catalogue (systems.map withoutMalformed) = .ok mapping
  packagesBySystem : ∃ packages, packagesBySystem systems = .ok packages ∧
    packagesBySystem (systems.map withoutMalformed) = .ok packages
  streamAndMatchHosts : ∃ matching, Notificator.streamAndMatchHosts index systems = .ok matching ∧
    Notificator.streamAndMatchHosts index (systems.map withoutMalformed) = .ok matching

/-- Where the rows that are read hold no malformed string, leaving out such strings changes
none of these rows. -/
private theorem told_withoutMalformed (parsed : Parsed systems) :
    (systems.map withoutMalformed).filter told = systems.filter told := by
  rw [List.filter_map]
  refine (List.map_congr_left (fun system member => ?_)).trans (List.map_id _)
  obtain ⟨present,read⟩ := List.mem_filter.mp member
  exact withoutMalformed_formed (parsed system present read)

/-- The loops tolerate an inventory exactly when every package string of every row whose
version can be told parses. -/
theorem malformed_tolerated : Tolerated casing catalogue index systems ↔ Parsed systems := by
  constructor
  · intro tolerated
    obtain ⟨mapping,passed,-⟩ := tolerated.systemsByAppStream
    exact (systemsByAppStream_ok casing catalogue passed).1
  · intro parsed
    have formed : ∀ system ∈ systems.filter told, WellFormedPackages system := by
      intro system member
      obtain ⟨present,read⟩ := List.mem_filter.mp member
      exact parsed system present read
    have readable := fun system member (_ : (hostPackages system).isSome) => formed system member
    have same := told_withoutMalformed systems parsed
    refine ⟨⟨_,systemsByAppStream_group casing catalogue parsed,?_⟩,
      ⟨_,(packagesBySystem_told systems).trans (packagesBySystem_ok _ formed),?_⟩,
      ⟨_,(streamAndMatchHosts_told index systems).trans
        (Notificator.streamAndMatchHosts_ok index readable),?_⟩⟩
    · rw [systemsByAppStream_told,same,← systemsByAppStream_told]
      exact systemsByAppStream_group casing catalogue parsed
    · rw [packagesBySystem_told,same]
      exact packagesBySystem_ok _ formed
    · rw [streamAndMatchHosts_told,same]
      exact Notificator.streamAndMatchHosts_ok index readable

end Malformed

private def brokenHost : HostRowWithPackages :=
  ⟨⟨⟨1⟩,"host",some "RHEL",some 9,some 4,none,none⟩,none,some ["bash"]⟩

/-- A package string without a version takes down the report of the whole organization. -/
theorem one_broken_package :
    ¬ Tolerated .ascii ⟨[],.empty,.empty⟩ .empty
      [brokenHost,⟨⟨⟨2⟩,"other",some "RHEL",some 9,some 4,none,none⟩,none,some []⟩] := by
  intro tolerated
  obtain ⟨packages,passed,-⟩ := tolerated.packagesBySystem
  exact nomatch passed

end Roadmap
