import Roadmap.Models

/-! The lifecycle dates of the RHEL releases. -/
namespace Roadmap

def osLifecycleDatesItems : List (String × RHELLifecycle) := [
  ("7",{
    major := 7, minor := none, startDate := .mk 2014 6 9, endDate := .mk 2024 6 30,
    endDateEls := some (.mk 2029 5 31)}),
  ("7.0",{
    major := 7, minor := some 0, startDate := .mk 2014 6 9, endDate := .mk 2015 3 5}),
  ("7.1",{
    major := 7, minor := some 1, startDate := .mk 2015 3 5, endDate := .mk 2015 11 19,
    endDateEus := some (.mk 2017 3 31)}),
  ("7.2",{
    major := 7, minor := some 2, startDate := .mk 2015 11 19, endDate := .mk 2016 11 3,
    endDateEus := some (.mk 2017 11 30), endDateE4s := some (.mk 2019 11 30)}),
  ("7.3",{
    major := 7, minor := some 3, startDate := .mk 2016 11 3, endDate := .mk 2017 7 31,
    endDateEus := some (.mk 2018 11 30), endDateE4s := some (.mk 2020 11 30)}),
  ("7.4",{
    major := 7, minor := some 4, startDate := .mk 2017 7 31, endDate := .mk 2018 4 10,
    endDateEus := some (.mk 2019 8 31), endDateE4s := some (.mk 2021 8 31)}),
  ("7.5",{
    major := 7, minor := some 5, startDate := .mk 2018 4 10, endDate := .mk 2018 10 30,
    endDateEus := some (.mk 2020 4 30)}),
  ("7.6",{
    major := 7, minor := some 6, startDate := .mk 2018 10 30, endDate := .mk 2019 8 6,
    endDateEus := some (.mk 2021 5 31), endDateE4s := some (.mk 2022 10 31)}),
  ("7.7",{
    major := 7, minor := some 7, startDate := .mk 2019 8 6, endDate := .mk 2020 3 31,
    endDateEus := some (.mk 2021 8 30)}),
  ("7.8",{
    major := 7, minor := some 8, startDate := .mk 2020 3 31, endDate := .mk 2020 9 29}),
  ("7.9",{
    major := 7, minor := some 9, startDate := .mk 2020 9 29, endDate := .mk 2024 6 30,
    endDateEls := some (.mk 2029 5 31)}),
  ("8",{
    major := 8, minor := none, startDate := .mk 2019 5 7, endDate := .mk 2029 5 31,
    endDateEls := some (.mk 2032 5 31)}),
  ("8.0",{
    major := 8, minor := some 0, startDate := .mk 2019 5 7, endDate := .mk 2019 11 5}),
  ("8.1",{
    major := 8, minor := some 1, startDate := .mk 2019 11 5, endDate := .mk 2020 4 28,
    endDateEus := some (.mk 2021 11 30), endDateE4s := some (.mk 2023 11 30)}),
  ("8.2",{
    major := 8, minor := some 2, startDate := .mk 2020 4 28, endDate := .mk 2020 11 3,
    endDateEus := some (.mk 2022 4 30), endDateE4s := some (.mk 2024 4 30)}),
  ("8.3",{
    major := 8, minor := some 3, startDate := .mk 2020 11 3, endDate := .mk 2021 5 31}),
  ("8.4",{
    major := 8, minor := some 4, startDate := .mk 2021 5 18, endDate := .mk 2021 11 9,
    endDateEus := some (.mk 2023 5 31), endDateE4s := some (.mk 2025 5 31)}),
  ("8.5",{
    major := 8, minor := some 5, startDate := .mk 2021 11 9, endDate := .mk 2022 5 10}),
  ("8.6",{
    major := 8, minor := some 6, startDate := .mk 2022 5 10, endDate := .mk 2022 11 9,
    endDateEus := some (.mk 2024 5 31), endDateE4s := some (.mk 2026 5 31)}),
  ("8.7",{
    major := 8, minor := some 7, startDate := .mk 2022 11 9, endDate := .mk 2023 5 31}),
  ("8.8",{
    major := 8, minor := some 8, startDate := .mk 2023 5 16, endDate := .mk 2023 11 14,
    endDateEus := some (.mk 2025 5 31), endDateE4s := some (.mk 2027 5 31)}),
  ("8.9",{
    major := 8, minor := some 9, startDate := .mk 2023 11 14, endDate := .mk 2024 5 31}),
  ("8.10",{
    major := 8, minor := some 10, startDate := .mk 2024 5 22, endDate := .mk 2029 5 17,
    endDateEls := some (.mk 2032 5 31), endDateEus := some (.mk 2032 5 31), endDateE4s := some (.mk 2032 5 31)}),
  ("9",{
    major := 9, minor := none, startDate := .mk 2022 5 17, endDate := .mk 2032 5 31,
    endDateEls := some (.mk 2035 5 31)}),
  ("9.0",{
    major := 9, minor := some 0, startDate := .mk 2022 5 17, endDate := .mk 2022 11 15,
    endDateEus := some (.mk 2024 5 31), endDateE4s := some (.mk 2026 5 31)}),
  ("9.1",{
    major := 9, minor := some 1, startDate := .mk 2022 11 15, endDate := .mk 2023 5 31}),
  ("9.2",{
    major := 9, minor := some 2, startDate := .mk 2023 5 10, endDate := .mk 2023 11 7,
    endDateEus := some (.mk 2025 5 31), endDateE4s := some (.mk 2027 5 31)}),
  ("9.3",{
    major := 9, minor := some 3, startDate := .mk 2023 11 7, endDate := .mk 2024 4 30}),
  ("9.4",{
    major := 9, minor := some 4, startDate := .mk 2024 4 30, endDate := .mk 2024 11 12,
    endDateEus := some (.mk 2026 4 30), endDateE4s := some (.mk 2028 4 30)}),
  ("9.5",{
    major := 9, minor := some 5, startDate := .mk 2024 11 12, endDate := .mk 2025 5 15}),
  ("9.6",{
    major := 9, minor := some 6, startDate := .mk 2025 5 15, endDate := .mk 2025 11 1,
    endDateEus := some (.mk 2027 5 30), endDateE4s := some (.mk 2029 5 30)}),
  ("9.7",{
    major := 9, minor := some 7, startDate := .mk 2025 11 1, endDate := .mk 2026 5 15}),
  ("9.8",{
    major := 9, minor := some 8, startDate := .mk 2026 5 1, endDate := .mk 2026 11 15,
    endDateEus := some (.mk 2028 5 30), endDateE4s := some (.mk 2030 5 30)}),
  ("9.9",{
    major := 9, minor := some 9, startDate := .mk 2026 11 1, endDate := .mk 2027 5 15}),
  ("9.10",{
    major := 9, minor := some 10, startDate := .mk 2027 5 1, endDate := .mk 2032 5 31,
    endDateEls := some (.mk 2035 5 31), endDateEus := some (.mk 2035 5 31), endDateE4s := some (.mk 2035 5 31)}),
  ("10",{
    major := 10, minor := none, startDate := .mk 2025 5 13, endDate := .mk 2035 5 31,
    endDateEls := some (.mk 2038 5 31)}),
  ("10.0",{
    major := 10, minor := some 0, startDate := .mk 2025 5 13, endDate := .mk 2025 11 15,
    endDateEus := some (.mk 2027 5 31), endDateE4s := some (.mk 2029 5 31)}),
  ("10.1",{
    major := 10, minor := some 1, startDate := .mk 2025 11 1, endDate := .mk 2026 5 15}),
  ("10.2",{
    major := 10, minor := some 2, startDate := .mk 2026 5 1, endDate := .mk 2026 11 15,
    endDateEus := some (.mk 2028 5 31), endDateE4s := some (.mk 2030 5 31)}),
  ("10.3",{
    major := 10, minor := some 3, startDate := .mk 2026 11 1, endDate := .mk 2027 5 15}),
  ("10.4",{
    major := 10, minor := some 4, startDate := .mk 2027 5 1, endDate := .mk 2027 11 15,
    endDateEus := some (.mk 2029 5 31), endDateE4s := some (.mk 2031 5 31)}),
  ("10.5",{
    major := 10, minor := some 5, startDate := .mk 2027 11 1, endDate := .mk 2028 5 15}),
  ("10.6",{
    major := 10, minor := some 6, startDate := .mk 2028 5 1, endDate := .mk 2028 11 15,
    endDateEus := some (.mk 2030 5 31), endDateE4s := some (.mk 2032 5 31)}),
  ("10.7",{
    major := 10, minor := some 7, startDate := .mk 2028 11 1, endDate := .mk 2029 5 15}),
  ("10.8",{
    major := 10, minor := some 8, startDate := .mk 2029 5 1, endDate := .mk 2029 11 15,
    endDateEus := some (.mk 2031 5 31), endDateE4s := some (.mk 2033 5 31)}),
  ("10.9",{
    major := 10, minor := some 9, startDate := .mk 2029 11 1, endDate := .mk 2030 5 15}),
  ("10.10",{
    major := 10, minor := some 10, startDate := .mk 2030 5 1, endDate := .mk 2035 5 15,
    endDateEls := some (.mk 2038 5 31)}),
  ("11",{
    major := 11, minor := none, startDate := .mk 2028 5 1, endDate := .mk 2038 5 31,
    endDateEls := some (.mk 2041 5 31)}),
  ("11.0",{
    major := 11, minor := some 0, startDate := .mk 2028 5 1, endDate := .mk 2028 11 15,
    endDateEus := some (.mk 2030 5 31), endDateE4s := some (.mk 2032 5 31)}),
  ("11.1",{
    major := 11, minor := some 1, startDate := .mk 2028 11 1, endDate := .mk 2029 5 15}),
  ("11.2",{
    major := 11, minor := some 2, startDate := .mk 2029 5 1, endDate := .mk 2029 11 15,
    endDateEus := some (.mk 2031 5 31), endDateE4s := some (.mk 2033 5 31)}),
  ("11.3",{
    major := 11, minor := some 3, startDate := .mk 2029 11 1, endDate := .mk 2030 5 15}),
  ("11.4",{
    major := 11, minor := some 4, startDate := .mk 2030 5 1, endDate := .mk 2030 11 15,
    endDateEus := some (.mk 2032 5 31), endDateE4s := some (.mk 2034 5 31)}),
  ("11.5",{
    major := 11, minor := some 5, startDate := .mk 2030 11 1, endDate := .mk 2031 5 15}),
  ("11.6",{
    major := 11, minor := some 6, startDate := .mk 2031 5 1, endDate := .mk 2031 11 15,
    endDateEus := some (.mk 2033 5 31), endDateE4s := some (.mk 2035 5 31)}),
  ("11.7",{
    major := 11, minor := some 7, startDate := .mk 2031 11 1, endDate := .mk 2032 5 15}),
  ("11.8",{
    major := 11, minor := some 8, startDate := .mk 2032 5 1, endDate := .mk 2032 11 15,
    endDateEus := some (.mk 2034 5 31), endDateE4s := some (.mk 2036 5 31)}),
  ("11.9",{
    major := 11, minor := some 9, startDate := .mk 2032 11 1, endDate := .mk 2033 5 15}),
  ("11.10",{
    major := 11, minor := some 10, startDate := .mk 2033 5 1, endDate := .mk 2038 5 31,
    endDateEls := some (.mk 2041 5 31)})]

set_option maxRecDepth 4000 in
def osLifecycleDates : LifecycleTable where
  dates := ⟨osLifecycleDatesItems,by decide⟩
  keyed := by decide

end Roadmap
