import Roadmap.Notificator

/-! The reporting window of successive roadmap reports. -/
namespace Roadmap
namespace Notificator

/-- The number of a month, counted over the years. -/
def monthOf (date : Date) : Int := 12 * date.year + date.month

theorem monthOf_cutoff (date : Date) : monthOf (upcomingCutoffDate date) = monthOf date - 1 := by
  have bounds := date.valid_bounds
  rw [upcomingCutoffDate_eq,monthOf,monthOf,firstOfPreviousMonth]
  split
  · dsimp only
    omega
  · dsimp only
    omega

theorem day_cutoff (date : Date) : (upcomingCutoffDate date).day = 1 := rfl

theorem monthOf_mono {first second : Date} (before : first ≤ second) : monthOf first ≤ monthOf second := by
  have bounds := first.valid_bounds
  have others := second.valid_bounds
  rw [Date.le_iff] at before
  unfold monthOf
  omega

theorem le_of_monthOf {first second : Date} (one : first.day = 1) (months : monthOf first ≤ monthOf second) :
    first ≤ second := by
  have bounds := first.valid_bounds
  have others := second.valid_bounds
  rw [Date.le_iff]
  unfold monthOf at months
  omega

theorem cutoff_mono {first second : Date} (before : first ≤ second) :
    upcomingCutoffDate first ≤ upcomingCutoffDate second := by
  refine le_of_monthOf (day_cutoff first) ?_
  rw [monthOf_cutoff,monthOf_cutoff]
  exact Int.sub_le_sub_right (monthOf_mono before) 1

section Successive

variable {first second day : Date} (successive : monthOf second ≤ monthOf first + 1) (after : first < day)
  (upTo : day ≤ second)

include successive after upTo

theorem inside_window : upcomingCutoffDate second ≤ day ∧ day ≤ second := by
  refine ⟨le_of_monthOf (day_cutoff second) ?_,upTo⟩
  have month := monthOf_mono (Date.le_of_lt after)
  rw [monthOf_cutoff]
  omega

/-- An affected item that was deployed since the first run raises its count in the second run by one. -/
theorem deployed_counted {item : UpcomingInput} (deployed : item.details.deployedDate = some day)
    {systems : List HostRowWithPackages} (affected : ∃ system ∈ systems, AffectedBy item system)
    (readable : ∀ system ∈ systems, ReadablePackages system) (earlier further : List UpcomingInput) :
    ∃ counts others, getRelevantUpcoming (earlier ++ item :: further) systems second = .ok counts ∧
      getRelevantUpcoming (earlier ++ further) systems second = .ok others ∧
      ∀ type, (counts.get? type).getD 0 = (others.get? type).getD 0 + if item.type = type then 1 else 0 := by
  obtain ⟨counts,ran,reported⟩ := getRelevantUpcoming_ok (earlier ++ item :: further) readable second
  obtain ⟨others,without,rest⟩ := getRelevantUpcoming_ok (earlier ++ further) readable second
  have inWindow : Reported second item := by
    rw [Reported,deployed,← upcomingCutoffDate_eq]
    exact inside_window successive after upTo
  refine ⟨counts,others,ran,without,fun type => ?_⟩
  rw [reported,rest,List.filter_append,List.filter_append,List.filter_cons,List.length_append,
    List.length_append]
  by_cases same : item.type = type
  · simp [same,affected,inWindow,Nat.add_assoc]
  · simp [same]

end Successive

/-- The window of a run takes in every day since the run before. Where the packages can be read, the
run reports, and it counts each item that was deployed on such a day and affects a host. -/
theorem roadmap_window_without_gap :
    (∀ first second : Date, first ≤ second → monthOf second ≤ monthOf first + 1 →
      ∀ day, first < day → day ≤ second →
        (upcomingCutoffDate second ≤ day ∧ day ≤ second) ∧
        ∀ (earlier further : List UpcomingInput) (item : UpcomingInput) (systems : List HostRowWithPackages),
          item.details.deployedDate = some day → (∃ system ∈ systems, AffectedBy item system) →
          (∀ system ∈ systems, ReadablePackages system) →
          ∃ counts others, getRelevantUpcoming (earlier ++ item :: further) systems second = .ok counts ∧
            getRelevantUpcoming (earlier ++ further) systems second = .ok others ∧
            ∀ type, (counts.get? type).getD 0 = (others.get? type).getD 0 + if item.type = type then 1 else 0) ∧
    (∀ date, (upcomingCutoffDate date).day = 1 ∧ monthOf (upcomingCutoffDate date) = monthOf date - 1) ∧
    ∀ first second : Date, first ≤ second → upcomingCutoffDate first ≤ upcomingCutoffDate second := by
  refine ⟨?_,fun date => ⟨day_cutoff date,monthOf_cutoff date⟩,fun _ _ => cutoff_mono⟩
  intro first second _ successive day after upTo
  refine ⟨inside_window successive after upTo,?_⟩
  intro earlier further item systems deployed affected readable
  exact deployed_counted successive after upTo deployed affected readable earlier further

private def rubyItem (name : String) (deployedDate : Date) : UpcomingInput where
  name := name
  type := .addition
  packages := {"ruby"}
  release := "9.7"
  osMajor := 9
  date := .mk 2026 1 1
  details := ⟨none,1,name,"",.mk 2025 9 1,.mk 2025 9 2,some deployedDate⟩

private def rubyHost : HostRowWithPackages :=
  ⟨⟨⟨1⟩,"host",some "RHEL",some 9,some 4,none,none⟩,none,some ["ruby-0:3.3-1.el9.x86_64"]⟩

/-- Between the runs of December and January, over the end of a year, an item is deployed. -/
theorem roadmap_window_without_gap_january :
    ∃ counts others,
      getRelevantUpcoming ([rubyItem "Ruby 3.3" (.mk 2025 12 1)] ++ rubyItem "Ruby 3.4" (.mk 2025 12 20) :: [])
        [rubyHost] (.mk 2026 1 2) = .ok counts ∧
      getRelevantUpcoming ([rubyItem "Ruby 3.3" (.mk 2025 12 1)] ++ []) [rubyHost] (.mk 2026 1 2) = .ok others ∧
      (counts.get? .addition).getD 0 = (others.get? .addition).getD 0 + 1 := by
  have readable : ∀ system ∈ [rubyHost],ReadablePackages system := by
    intro system member _ package inside
    cases List.mem_singleton.mp member
    cases List.mem_singleton.mp inside
    exact ⟨_,rfl⟩
  obtain ⟨counts,others,ran,without,more⟩ := (roadmap_window_without_gap.1 (.mk 2025 12 2) (.mk 2026 1 2)
    (by decide) (by decide) (.mk 2025 12 20) (by decide) (by decide)).2 [rubyItem "Ruby 3.3" (.mk 2025 12 1)] []
      (rubyItem "Ruby 3.4" (.mk 2025 12 20)) [rubyHost] rfl ⟨rubyHost,List.mem_singleton_self _,by decide⟩ readable
  exact ⟨counts,others,ran,without,more .addition⟩

end Notificator
end Roadmap
