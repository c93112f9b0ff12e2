import Roadmap.AppStreams.EpochForm
import Roadmap.AppStreams.Scan

/-! The version of a package against the version of its stream. A stream of one component is
padded for the comparison; the version of a package is not. -/
namespace Roadmap

/-- The name ends with a version of one component, such as `Node.js 16`. -/
def MajorOnly (applicationStreamName : String) : Prop :=
  ∃ before version, applicationStreamName.toList = before ++ ' ' :: version ∧ ' ' ∉ version ∧
    version.head?.any Text.isDigit = true ∧ '.' ∉ version

theorem streamVersionDepth_eq_one (applicationStreamName : String) :
    streamVersionDepth applicationStreamName = 1 ↔ MajorOnly applicationStreamName := by
  have shallow : ∀ version : List Char, min (version.splitOn '.').length 2 = 1 ↔ '.' ∉ version := by
    intro version
    rw [← Text.length_splitOn_eq_one]
    omega
  unfold streamVersionDepth MajorOnly
  cases split : Text.rpartition ' ' applicationStreamName.toList with
  | none =>
    refine iff_of_false (by decide) ?_
    rintro ⟨before,version,same,free,-⟩
    rw [same,Text.rpartition_append free] at split
    contradiction
  | some parts =>
    obtain ⟨before,version⟩ := parts
    obtain ⟨same,free⟩ := Text.rpartition_eq_some.mp split
    constructor
    · intro one
      dsimp only at one
      split at one
      next digit => exact ⟨before,version,same,free,digit,(shallow version).mp one⟩
      next => contradiction
    · rintro ⟨start,rest,equal,absent,digit,single⟩
      have unique := Text.rpartition_eq_some.mpr ⟨equal,absent⟩
      rw [split] at unique
      cases unique
      dsimp only
      rw [if_pos digit]
      exact (shallow version).mpr single

namespace EpochPackage

variable (package : EpochPackage) {entity : AppStreamEntity}

/-- The stream compares equal to a package of its own version unless it has one component and
is compared by two. -/
theorem streamMatches_own (stream : entity.stream = .ofList package.version) {nevra : NEVRA}
    (read : NEVRA.fromString package.text = .ok nevra) : streamMatches entity nevra = true ↔
      package.others ≠ [] ∨ MajorOnly entity.applicationStreamName := by
  have parts : entity.stream.toList.splitOn '.' = package.first :: package.others := by
    rw [stream,String.toList_ofList,version]
    exact List.splitOn_intercalate '.' (fun part member => (package.components part member).2.1) (by simp)
  rw [package.decoded] at read
  rw [← Except.ok.inj read,streamMatches,parts,← streamVersionDepth_eq_one]
  by_cases shallow : streamVersionDepth entity.applicationStreamName = 1
  · simp [shallow]
  · cases several : package.others with
    | nil => simp [shallow]
    | cons second rest => simp [shallow]

end EpochPackage

/-- A package at the version of the stream it is filed under is recognised exactly when that
version has several components or the stream's name ends with a single one. -/
theorem own_version_recognised {catalogue : Catalogue} {package : EpochPackage} {osMajor : Int}
    {entity : AppStreamEntity}
    (filed : (catalogue.appStreamPackages.get? osMajor).bind
      (fun packages => packages.get? (.ofList package.name)) = some entity)
    (major : entity.osMajor = some osMajor) (stream : entity.stream = .ofList package.version) :
    appStreamFromPackage catalogue package.text osMajor =
        .ok (some ⟨entity.applicationStreamName,entity⟩) ↔
      package.others ≠ [] ∨ MajorOnly entity.applicationStreamName := by
  rw [← package.streamMatches_own stream package.decoded,appStreamFromPackage,package.decoded,Except.ok_bind]
  dsimp only
  rw [filed]
  simp only [major,true_and]
  split
  next matched => exact iff_of_true rfl matched
  next unmatched => exact iff_of_false nofun unmatched

private def filedAs (entity : AppStreamEntity) (osMajor : Int) : Catalogue :=
  ⟨[],Dict.empty.set osMajor (Dict.empty.set entity.name entity),.empty⟩

private theorem catalogue_filed (entity : AppStreamEntity) (osMajor : Int) :
    ((filedAs entity osMajor).appStreamPackages.get? osMajor).bind
      (fun packages => packages.get? entity.name) = some entity := by
  simp [filedAs]

private def nginx : AppStreamEntity := {
  name := "nginx",displayName := "NGINX 1.20",applicationStreamName := "NGINX 1.20",stream := "1.20"
  impl := .package,osMajor := some 9}

private def nginxPackage : EpochPackage where
  name := "nginx".toList
  epoch := ['0']
  first := ['1']
  others := [['2','0']]
  release := "1.el9".toList
  arch := "x86_64".toList
  named := by decide
  plainName := by decide
  plainEpoch := by decide
  components := by decide
  plainRelease := by decide
  plainArch := by decide

theorem own_version_recognised_nginx :
    appStreamFromPackage (filedAs nginx 9) nginxPackage.text 9 = .ok (some ⟨"NGINX 1.20",nginx⟩) := by
  have stream : nginx.stream = .ofList nginxPackage.version := by decide
  exact (own_version_recognised (catalogue_filed nginx 9) rfl stream).mpr (Or.inl (by decide))

private def osinfoDb : AppStreamEntity := {
  name := "osinfo-db",displayName := "OSInfo DB",applicationStreamName := "osinfo-db"
  applicationStreamType := some .full,stream := "20181011",impl := .package
  initialProductVersion := some "8.0",osMajor := some 8,osMinor := some 0
  startDate := some (.mk 2019 5 7),endDate := some (.mk 2029 5 31)}

private def osinfoPackage : EpochPackage where
  name := "osinfo-db".toList
  epoch := ['0']
  first := "20181011".toList
  others := []
  release := "1.el8".toList
  arch := "noarch".toList
  named := by decide
  plainName := by decide
  plainEpoch := by decide
  components := by decide
  plainRelease := by decide
  plainArch := by decide

/-- The package of a stream that is dated instead of numbered is not taken for the stream. -/
theorem osinfo_unrecognised : osinfoPackage.text = "osinfo-db-0:20181011-1.el8.noarch" ∧
    ((filedAs osinfoDb 8).appStreamPackages.get? 8).bind
      (fun packages => packages.get? (.ofList osinfoPackage.name)) = some osinfoDb ∧
    osinfoDb.osMajor = some 8 ∧ osinfoDb.stream = .ofList osinfoPackage.version ∧
    appStreamFromPackage (filedAs osinfoDb 8) osinfoPackage.text 8 = .ok none := by
  refine ⟨by decide,catalogue_filed osinfoDb 8,rfl,by decide,?_⟩
  rfl

end Roadmap
