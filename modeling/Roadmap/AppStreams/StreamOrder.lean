import Roadmap.AppStreams.Relevant

/-! The order of streams. Two streams are compared as versions if both are versions, and else
as texts, so that one stream between two others may be compared with them in another order. -/
namespace Roadmap

structure StrictOrderOn (less : String → String → Bool) (streams : Set String) : Prop where
  irrefl : ∀ a ∈ streams, less a a = false
  asymm : ∀ a ∈ streams, ∀ b ∈ streams, ¬ (less a b = true ∧ less b a = true)
  trans : ∀ a ∈ streams, ∀ b ∈ streams, ∀ c ∈ streams, less a b = true → less b c = true → less a c = true

section Order

variable (casing : Casing)

/-- A stream that is no version stands, as a text, between two that are versions, and the first
of these is not below the last as a version. -/
def Torn (streams : Set String) : Prop :=
  ∃ first ∈ streams, ∃ between ∈ streams, ∃ last ∈ streams, ∃ firstVersion lastVersion,
    normalizeVersion casing first = some firstVersion ∧ normalizeVersion casing between = none ∧
    normalizeVersion casing last = some lastVersion ∧
    first < between ∧ between < last ∧ lastVersion ≤ firstVersion

variable {casing} {a b c : String}

theorem streamsLt_versions {first second : Int ×ₗ Int ×ₗ Int} (versionA : normalizeVersion casing a = some first)
    (versionB : normalizeVersion casing b = some second) : streamsLt casing a b = true ↔ first < second := by
  simp [streamsLt,versionA,versionB]

theorem streamsLt_texts (noVersion : normalizeVersion casing a = none ∨ normalizeVersion casing b = none) :
    streamsLt casing a b = true ↔ a < b := by
  cases version : normalizeVersion casing a with
  | none => simp [streamsLt,version]
  | some first =>
    have other := noVersion.resolve_left (by simp [version])
    simp [streamsLt,version,other]

theorem streamsLt_irrefl (a : String) : streamsLt casing a a = false := by
  cases version : normalizeVersion casing a <;> simp [streamsLt,version]

theorem streamsLt_asymm (a b : String) : ¬ (streamsLt casing a b = true ∧ streamsLt casing b a = true) := by
  by_cases noVersion : normalizeVersion casing a = none ∨ normalizeVersion casing b = none
  · rw [streamsLt_texts noVersion,streamsLt_texts noVersion.symm]
    exact fun both => both.1.asymm both.2
  · obtain ⟨someA,someB⟩ := not_or.mp noVersion
    obtain ⟨first,versionA⟩ := Option.ne_none_iff_exists'.mp someA
    obtain ⟨second,versionB⟩ := Option.ne_none_iff_exists'.mp someB
    rw [streamsLt_versions versionA versionB,streamsLt_versions versionB versionA]
    exact fun both => both.1.asymm both.2

/-- Where the versions of the ends do not follow their texts, the stream between tears the order. -/
theorem not_trans {first between last : String} {firstVersion lastVersion : Int ×ₗ Int ×ₗ Int}
    (version : normalizeVersion casing first = some firstVersion)
    (noVersion : normalizeVersion casing between = none)
    (lastOne : normalizeVersion casing last = some lastVersion)
    (below : first < between) (above : between < last) (down : lastVersion ≤ firstVersion) :
    streamsLt casing first between = true ∧ streamsLt casing between last = true ∧
      ¬ streamsLt casing first last = true := by
  rw [streamsLt_texts (Or.inr noVersion),streamsLt_texts (Or.inl noVersion),streamsLt_versions version lastOne]
  exact ⟨below,above,not_lt.mpr down⟩

theorem lt_of_not_lt (apart : normalizeVersion casing a ≠ normalizeVersion casing c) (fails : ¬ a < c) : c < a :=
  lt_of_le_of_ne (not_lt.mp fails) (fun same => apart (by rw [same]))

/-- Only two versions and a stream that is none can fail to be transitive. -/
theorem torn_of_not_trans {streams : Set String} (inA : a ∈ streams) (inB : b ∈ streams) (inC : c ∈ streams)
    (below : streamsLt casing a b = true) (above : streamsLt casing b c = true)
    (fails : ¬ streamsLt casing a c = true) : Torn casing streams := by
  cases versionA : normalizeVersion casing a with
  | none =>
    rw [streamsLt_texts (Or.inl versionA)] at below fails
    cases versionB : normalizeVersion casing b with
    | none =>
      rw [streamsLt_texts (Or.inl versionB)] at above
      exact absurd (below.trans above) fails
    | some second =>
      cases versionC : normalizeVersion casing c with
      | none =>
        rw [streamsLt_texts (Or.inr versionC)] at above
        exact absurd (below.trans above) fails
      | some third =>
        rw [streamsLt_versions versionB versionC] at above
        have apart : normalizeVersion casing a ≠ normalizeVersion casing c := by simp [versionA,versionC]
        have first : c < a := lt_of_not_lt apart fails
        exact ⟨c,inC,a,inA,b,inB,third,second,versionC,versionA,versionB,first,below,above.le⟩
  | some first =>
    cases versionB : normalizeVersion casing b with
    | none =>
      rw [streamsLt_texts (Or.inr versionB)] at below
      rw [streamsLt_texts (Or.inl versionB)] at above
      cases versionC : normalizeVersion casing c with
      | none =>
        rw [streamsLt_texts (Or.inr versionC)] at fails
        exact absurd (below.trans above) fails
      | some third =>
        rw [streamsLt_versions versionA versionC] at fails
        exact ⟨a,inA,b,inB,c,inC,first,third,versionA,versionB,versionC,below,above,not_lt.mp fails⟩
    | some second =>
      rw [streamsLt_versions versionA versionB] at below
      cases versionC : normalizeVersion casing c with
      | none =>
        rw [streamsLt_texts (Or.inr versionC)] at above fails
        have apart : normalizeVersion casing a ≠ normalizeVersion casing c := by simp [versionA,versionC]
        have last : c < a := lt_of_not_lt apart fails
        exact ⟨b,inB,c,inC,a,inA,second,first,versionB,versionC,versionA,above,last,below.le⟩
      | some third =>
        rw [streamsLt_versions versionB versionC] at above
        rw [streamsLt_versions versionA versionC] at fails
        exact absurd (below.trans above) fails

end Order

theorem streams_order_iff (casing : Casing) (streams : Set String) :
    StrictOrderOn (streamsLt casing) streams ↔ ¬ Torn casing streams := by
  constructor
  · rintro order ⟨first,inFirst,between,inBetween,last,inLast,_,_,version,noVersion,lastOne,below,above,down⟩
    obtain ⟨less,lessLast,fails⟩ := not_trans version noVersion lastOne below above down
    exact fails (order.trans first inFirst between inBetween last inLast less lessLast)
  · intro whole
    refine ⟨fun a _ => streamsLt_irrefl a,fun a _ b _ => streamsLt_asymm a b,?_⟩
    intro a inA b inB c inC below above
    by_contra fails
    exact whole (torn_of_not_trans inA inB inC below above fails)

/-- 9 is below 10, which is below 2x, which is below 9. -/
theorem streams_cycle : ¬ StrictOrderOn (streamsLt .ascii) {"9","10","2x"} ∧
    streamsLt .ascii "9" "10" = true ∧ streamsLt .ascii "10" "2x" = true ∧ streamsLt .ascii "2x" "9" = true := by
  have less : streamsLt .ascii "9" "10" = true ∧ streamsLt .ascii "10" "2x" = true ∧
    streamsLt .ascii "2x" "9" = true := by decide
  refine ⟨fun order => ?_,less⟩
  have closing := order.trans "9" (by simp) "10" (by simp) "2x" (by simp) less.1 less.2.1
  exact order.asymm "9" (by simp) "2x" (by simp) ⟨closing,less.2.2⟩

end Roadmap
