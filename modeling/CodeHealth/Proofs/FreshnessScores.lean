import CodeHealth.Proofs.Scores

/-!
# The score of resolved dependencies

Whether a dependency is outdated is decided in one place, and what it owes is computed in another.
Both go by the same limit, so that the degree of freshness in a report tells what the dependency
owes.

* `Dependency.Says` — what a report may say of a dependency, given its latest release;
* `Dependency.says_classify` — reports say nothing else;
* `Score.dependencyDue_eq_zero_iff` — who owes nothing;
* `Dependency.dependencyScore_of_resolved` — what each report of a list owes, and the score of all.
-/

namespace CodeHealth

namespace Dependency

/-- The latest release is known, with its date `published`. -/
def IsDated (latest : Except LookupFault Release) : Prop :=
  ∃ release published, latest = .ok release ∧ release.published = some published

/-- What a report may say: how fresh a dependency is and by how many days it is behind, when
`allowed` days are allowed. The constructors are the outcomes of `classify`. -/
inductive Says (allowed : Int) (latest : Except LookupFault Release) : Freshness → Int → Prop where
  | unknown : Says allowed latest .unknown 0
  | current : Says allowed latest .current 0
  | undated (hundated : ¬ IsDated latest) : Says allowed latest .stale undatedDays
  | stale {days : Int} (hdated : IsDated latest) (hsome : 0 ≤ days) (hallowed : days ≤ allowed) :
      Says allowed latest .stale days
  | outdated {days : Int} (hmore : allowed < days) : Says allowed latest .outdated days

/-- **Reports.** Whatever is looked up, at any time, the report of `classify` says one of the things
of `Says`, with the `effectiveLimit` for the days allowed. -/
theorem says_classify (d : Dependency) (latest : Except LookupFault Release) (now : Instant)
    (setting : Int) :
    Says (effectiveLimit setting) latest (d.classify latest now setting).status
      (d.classify latest now setting).staleDays := by
  cases latest with
  | error fault => exact .unknown
  | ok release =>
    -- The cases are those of `classify`, and each is one constructor of `Says`.
    by_cases hcurrent : d.version = "" ∨ d.version = release.version
    · have hreport : d.classify (.ok release) now setting
          = ⟨d.name, d.version, release.version, 0, .current⟩ := by
        simp [classify, hcurrent]
      rw [hreport]
      exact .current
    · rw [not_or] at hcurrent
      cases hdate : release.published with
      | none =>
        have hreport : d.classify (.ok release) now setting
            = ⟨d.name, d.version, release.version, undatedDays, .stale⟩ := by
          simp [classify, hcurrent, hdate]
        rw [hreport]
        refine .undated ?_
        rintro ⟨_, published, hlatest, hpublished⟩
        cases hlatest
        rw [hdate] at hpublished
        cases hpublished
      | some published =>
        have hages : d.AgesSince (.ok release) published :=
          ⟨release, rfl, hcurrent.1, hcurrent.2, hdate⟩
        rw [(hages.classify_eq now setting).1, (hages.classify_eq now setting).2]
        split
        case isTrue hmore => exact .outdated hmore
        case isFalse hallowed =>
          exact .stale ⟨release, published, rfl, hdate⟩ (Int.le_max_right _ _)
            (Int.not_lt.mp hallowed)

theorem Says.days_nonneg {setting days : Int} {latest : Except LookupFault Release}
    {status : Freshness} (h : Says (effectiveLimit setting) latest status days) : 0 ≤ days := by
  have hlimit := effectiveLimit_pos setting
  cases h with
  | unknown | current => exact Int.le_refl 0
  | undated => decide
  | stale _ hsome => exact hsome
  | outdated hmore => omega

end Dependency

namespace Score

open Dependency

variable {limits : Limits} {d : DependencyReport}

/-! ### What a dependency owes -/

/-- What a dependency that is behind owes (`dependencyDue`): 15 times the part of the limit that its
days make up, but at most 15. -/
theorem dependencyDue_of_isBehind (h : d.status.isBehind = true) :
    dependencyDue limits d
      = min ((d.staleDays : ℚ) / effectiveLimit limits.staleDays * 15) 15 := by
  rw [dependencyDue, if_pos h, dependencyPenalty_exact]

/-- A dependency owes nothing (`dependencyDue`) unless it is behind by some days. -/
theorem dependencyDue_eq_zero_iff (hdays : 0 ≤ d.staleDays) :
    dependencyDue limits d = 0 ↔ ¬ (d.status.isBehind = true ∧ 0 < d.staleDays) := by
  have hlimit := effectiveLimit_cast_pos limits
  by_cases hbehind : d.status.isBehind = true
  · rw [dependencyDue_of_isBehind hbehind]
    rcases hdays.eq_or_lt with hnone | hsome
    · simp [← hnone]
    · have hcast : (0 : ℚ) < d.staleDays := by exact_mod_cast hsome
      have hdue : (0 : ℚ) < min ((d.staleDays : ℚ) / effectiveLimit limits.staleDays * 15) 15 := by
        positivity
      simp [hbehind, hsome, hdue.ne']
  · simp [dependencyDue, hbehind]

/-- Up to the limit (`hallowed`) the share of the days counts in full, since it does not reach the
most that is owed. -/
theorem dependencyDue_of_le (hbehind : d.status.isBehind = true)
    (hallowed : d.staleDays ≤ effectiveLimit limits.staleDays) :
    dependencyDue limits d = (d.staleDays : ℚ) / effectiveLimit limits.staleDays * 15 := by
  have hcast : (d.staleDays : ℚ) ≤ effectiveLimit limits.staleDays := by exact_mod_cast hallowed
  have hshare : (d.staleDays : ℚ) / effectiveLimit limits.staleDays ≤ 1 :=
    (div_le_one (effectiveLimit_cast_pos limits)).mpr hcast
  rw [dependencyDue_of_isBehind hbehind, min_eq_left (by linarith)]

/-- From the limit on (`hmore`) all of the penalty is due. -/
theorem dependencyDue_of_ge (hbehind : d.status.isBehind = true)
    (hmore : effectiveLimit limits.staleDays ≤ d.staleDays) : dependencyDue limits d = 15 := by
  have hcast : (effectiveLimit limits.staleDays : ℚ) ≤ d.staleDays := by exact_mod_cast hmore
  have hshare : 1 ≤ (d.staleDays : ℚ) / effectiveLimit limits.staleDays :=
    (one_le_div (effectiveLimit_cast_pos limits)).mpr hcast
  rw [dependencyDue_of_isBehind hbehind, min_eq_right (by linarith)]

theorem dependencyDue_le (limits : Limits) (d : DependencyReport) :
    dependencyDue limits d ≤ 15 := by
  by_cases hbehind : d.status.isBehind = true
  · rw [dependencyDue_of_isBehind hbehind]
    exact min_le_right _ _
  · norm_num [dependencyDue, hbehind]

/-- **What a report says is what is owed**: each constructor of `Says` has its `dependencyDue`, with
30 days for a release without a date. -/
theorem dependencyDue_of_says {latest : Except LookupFault Release}
    (h : Says (effectiveLimit limits.staleDays) latest d.status d.staleDays) :
    (d.status = .current ∨ d.status = .unknown → dependencyDue limits d = 0) ∧
    (d.status = .outdated → dependencyDue limits d = 15) ∧
    (d.status = .stale → IsDated latest →
      dependencyDue limits d = d.staleDays / effectiveLimit limits.staleDays * 15) ∧
    (d.status = .stale → ¬ IsDated latest →
      dependencyDue limits d = min ((30 : ℚ) / effectiveLimit limits.staleDays) 1 * 15) := by
  obtain ⟨module, current, version, days, status⟩ := d
  simp only at h
  cases h with
  | unknown | current => simp [dependencyDue, Freshness.isBehind]
  | undated hundated =>
    have hdue : dependencyDue limits ⟨module, current, version, undatedDays, .stale⟩
        = min ((30 : ℚ) / effectiveLimit limits.staleDays) 1 * 15 := by
      rw [dependencyDue_of_isBehind rfl, min_mul_of_nonneg _ _ (by norm_num), one_mul]
      rfl
    simp [hundated, hdue]
  | stale hdated _ hallowed =>
    have hdue := dependencyDue_of_le (d := ⟨module, current, version, days, .stale⟩) rfl hallowed
    simp [hdated, hdue]
  | outdated hmore =>
    have hdue := dependencyDue_of_ge (d := ⟨module, current, version, days, .outdated⟩) rfl hmore.le
    simp [hdue]

/-! ### The score -/

/-- A full score is kept (`left due found = 100`) iff nothing is owed, where no amount is
negative. -/
theorem left_eq_hundred_iff {α : Type} {due : α → ℚ} {found : List α}
    (h : ∀ x ∈ found, 0 ≤ due x) : left due found = 100 ↔ ∀ x ∈ found, due x = 0 := by
  have hdues : ∀ penalty ∈ found.map due, 0 ≤ penalty := List.forall_mem_map.mpr h
  have hsum := List.sum_nonneg hdues
  rw [left_eq h]
  constructor
  · intro hfull x hx
    have hnothing : (found.map due).sum = 0 := by
      rcases max_choice (0 : ℚ) (100 - (found.map due).sum) with hmax | hmax <;> linarith
    exact List.all_zero_of_le_zero_le_of_sum_eq_zero hdues hnothing (List.mem_map_of_mem hx)
  · intro hnone
    have hnothing : (found.map due).sum = 0 := List.sum_eq_zero (List.forall_mem_map.mpr hnone)
    rw [hnothing]
    norm_num

end Score

namespace Dependency

open Score

/-- **Reports and scores go by one limit.** When dependencies are resolved and scored with the same
`setting`, the degree of freshness of each tells what it owes (`due`): nothing when it is current or
unknown, 15 when it is outdated, and when it is stale as much of 15 as its days are of the days
`allowed`. A release without a date counts for 30 days, which cost 15 when fewer are allowed. The
score is what is left of 100, but not less than 0, and it is 100 when no dependency is behind by
some days. -/
theorem dependencyScore_of_resolved (registry : Registry) (now : Instant) (setting : Int)
    (complexity : Nat) (declared : List Dependency) :
    let limits : Limits := ⟨complexity, setting⟩
    let allowed : ℚ := if setting ≤ 0 then 90 else setting
    let reports := resolve registry now setting declared
    let score : ℚ := @dependencyScore ℚ exact limits reports
    (∀ d ∈ declared,
      let latest := registry d.ecosystem d.package
      let report := d.classify latest now setting
      let due := dependencyDue limits report
      (report.status = .current ∨ report.status = .unknown → due = 0) ∧
      (report.status = .outdated → due = 15) ∧
      (report.status = .stale → IsDated latest →
        due = report.staleDays / allowed * 15 ∧ due ≤ 15) ∧
      (report.status = .stale → ¬ IsDated latest → due = min (30 / allowed) 1 * 15)) ∧
    score = max 0 (100 - (reports.map (dependencyDue limits)).sum) ∧
    (score = 100 ↔ ¬ ∃ report ∈ reports, report.status.isBehind = true ∧ 0 < report.staleDays) := by
  intro limits allowed reports score
  -- The days allowed are the `effectiveLimit` of both, as both are told the same setting.
  have hallowed : allowed = effectiveLimit limits.staleDays := by
    show (if setting ≤ 0 then 90 else (setting : ℚ)) = (effectiveLimit setting : ℚ)
    rw [effectiveLimit]
    split <;> rfl
  have hdays : ∀ report ∈ reports, 0 ≤ report.staleDays := by
    intro report hreport
    obtain ⟨d, _, rfl⟩ := List.mem_map.mp hreport
    exact (says_classify d _ now setting).days_nonneg
  have hdue : ∀ report ∈ reports, 0 ≤ dependencyDue limits report := by
    intro report hreport
    exact dependencyDue_nonneg limits fun _ => hdays report hreport
  have hscore : score = left (dependencyDue limits) reports := dependencyScore_exact limits reports
  refine ⟨?_, ?_, ?_⟩
  · intro d _ latest report due
    have hsays : Says (effectiveLimit limits.staleDays) latest report.status report.staleDays :=
      says_classify d latest now setting
    obtain ⟨hnothing, hall, hshare, hundated⟩ := dependencyDue_of_says hsays
    rw [hallowed]
    refine ⟨hnothing, hall, fun hstale hdated => ?_, hundated⟩
    exact ⟨hshare hstale hdated, dependencyDue_le limits report⟩
  · rw [hscore, left_eq hdue]
  · rw [hscore, left_eq_hundred_iff hdue, not_exists]
    constructor
    · rintro hnone report ⟨hreport, hbehind⟩
      exact (dependencyDue_eq_zero_iff (hdays report hreport)).mp (hnone report hreport) hbehind
    · intro hnone report hreport
      exact (dependencyDue_eq_zero_iff (hdays report hreport)).mpr fun hbehind =>
        hnone report ⟨hreport, hbehind⟩

end Dependency

end CodeHealth

namespace CodeHealth.Sample

open Dependency Score

/-- Releases of the first day, of 55 days later and of no known day, for `oldDependency`,
`recentDependency` and `undatedDependency`. -/
def releases : Registry := fun _ package =>
  if package = "old" then .ok ⟨"2", some ⟨0, 0⟩⟩
  else if package = "recent" then .ok ⟨"2", some ⟨4752000, 0⟩⟩
  else if package = "undated" then .ok ⟨"2", none⟩
  else .error .offline

/-- A dependency whose latest release is of the first day. -/
def oldDependency : Dependency := ⟨"old", "old", "1", .npm⟩

/-- A dependency whose latest release came 55 days later. -/
def recentDependency : Dependency := ⟨"recent", "recent", "1", .npm⟩

/-- A dependency whose latest release has no date. -/
def undatedDependency : Dependency := ⟨"undated", "undated", "1", .npm⟩

/-- After 100 days, of which 90 are allowed, `oldDependency` owes 15, `recentDependency` half of it
and `undatedDependency` a third of it. -/
theorem releases_scored :
    @dependencyScore ℚ exact ⟨0, 0⟩ (resolve releases ⟨8640000, 0⟩ 0
      [oldDependency, recentDependency, undatedDependency]) = 145 / 2 := by
  obtain ⟨hdues, hscore, -⟩ := dependencyScore_of_resolved releases ⟨8640000, 0⟩ 0 0
    [oldDependency, recentDependency, undatedDependency]
  have hold := (hdues oldDependency (by simp)).2.1 (by decide)
  have hrecent := ((hdues recentDependency (by simp)).2.2.1 (by decide)
    ⟨_, _, rfl, rfl⟩).1
  have hundated := (hdues undatedDependency (by simp)).2.2.2 (by decide) (by
    rintro ⟨_, _, hlatest, hpublished⟩
    cases hlatest
    cases hpublished)
  have hdays :
      (recentDependency.classify (releases .npm "recent") ⟨8640000, 0⟩ 0).staleDays = 45 := by
    decide
  rw [hscore]
  simp only [resolve, List.map_cons, List.map_nil, List.sum_cons, List.sum_nil]
  rw [hold, hrecent, hundated]
  simp only [recentDependency] at hdays ⊢
  rw [hdays]
  norm_num

end CodeHealth.Sample
