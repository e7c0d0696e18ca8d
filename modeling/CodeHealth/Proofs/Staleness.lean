import CodeHealth.Dependency.Freshness
import Mathlib.Data.Rat.Floor

/-!
# Dependencies in the course of time

How far a dependency is behind is counted in whole days, and the count is cut off toward zero and
again at zero. This is the age `now.nanosSince published` of the latest release in days, rounded
down. Away from leap seconds the age is the plain difference of two instants, so that the count
grows with the time at which one looks; in a leap second it may be one second less. From a leap
second on the count still grows, but for the second that follows: counted in nanoseconds a part of
that second comes before the end of the leap second, and a day may be gone there. Where the age does
not count, the time does not count either.

* `Instant.sinceEpoch` — instants on one line of nanoseconds;
* `Instant.nanosSince_eq` — the age is the difference on this line, less a leap second;
* `Instant.max_daysSince` — the whole days are those of the age, rounded down;
* `Instant.ediv_nanosSince_mono` — they do not decrease where both orders of instants agree;
* `Dependency.AgesSince` — the dependencies whose report depends on a date;
* `Dependency.classify_in_time` — what is reported of these and of the others.
-/

namespace CodeHealth

namespace Instant

variable {now published : Instant}

/-- The nanoseconds of a day. -/
def nanosPerDay : Int := secondsPerDay * nanosPerSecond

/-- An instant that does not lie in a leap second: its `nanos` are below `nanosPerSecond`. -/
def IsOrdinary (t : Instant) : Prop := (t.nanos : Int) < nanosPerSecond

instance (t : Instant) : Decidable t.IsOrdinary :=
  inferInstanceAs (Decidable ((t.nanos : Int) < nanosPerSecond))

/-- An instant that a clock may show: a leap second adds one second at most to `nanos`. -/
def IsProper (t : Instant) : Prop := (t.nanos : Int) < 2 * nanosPerSecond

instance (t : Instant) : Decidable t.IsProper :=
  inferInstanceAs (Decidable ((t.nanos : Int) < 2 * nanosPerSecond))

/-- Instants are in the order of their `seconds` and, within a second, of their `nanos`. So a leap
second comes before the second that follows it. -/
instance : LE Instant where
  le t u := t.seconds < u.seconds ∨ (t.seconds = u.seconds ∧ t.nanos ≤ u.nanos)

theorem le_def {t u : Instant} :
    t ≤ u ↔ t.seconds < u.seconds ∨ (t.seconds = u.seconds ∧ t.nanos ≤ u.nanos) :=
  Iff.rfl

instance (t u : Instant) : Decidable (t ≤ u) := decidable_of_iff _ le_def.symm

/-- The nanoseconds from the start of 1970 to an instant. -/
def sinceEpoch (t : Instant) : Int := t.seconds * nanosPerSecond + t.nanos

theorem nanosPerDay_pos : 0 < nanosPerDay := by decide

/-- On whole numbers the floor of `span / nanosPerDay` is the quotient rounded down. -/
theorem floor_div_nanosPerDay (span : ℤ) : ⌊(span : ℚ) / (nanosPerDay : ℚ)⌋ = span / nanosPerDay :=
  Rat.floor_intCast_div_natCast span 86400000000000

theorem isLeap_iff : now.isLeap = true ↔ nanosPerSecond ≤ now.nanos := decide_eq_true_iff

/-- `isLeap` fails of the instants that are `IsOrdinary`. -/
theorem isLeap_of_isOrdinary (h : now.IsOrdinary) : now.isLeap = false :=
  decide_eq_false (Int.not_le.mpr h)

/-! ### The age of a release -/

/-- **The age of a release** with an ordinary date: the difference between `now` and `published` by
`sinceEpoch`, less one second if `now` lies in a leap second and `published` comes later in its day
than `now` does in its own. -/
theorem nanosSince_eq (hpublished : published.IsOrdinary) (now : Instant) :
    now.nanosSince published = now.sinceEpoch - published.sinceEpoch -
      if now.isLeap ∧ now.secondOfDay < published.secondOfDay then nanosPerSecond else 0 := by
  have hadjusted : leapAdjustment now published =
      -(if now.isLeap ∧ now.secondOfDay < published.secondOfDay then 1 else 0) := by
    rw [leapAdjustment, isLeap_of_isOrdinary hpublished]
    rcases Int.lt_trichotomy now.secondOfDay published.secondOfDay with hlt | heq | hgt
    · cases hleap : now.isLeap <;> simp [hlt, Int.not_lt.mpr hlt.le]
    · simp [heq]
    · simp [hgt, Int.not_lt.mpr hgt.le]
  rw [nanosSince, hadjusted, sinceEpoch, sinceEpoch, nanosPerSecond]
  split <;> omega

/-- Between instants that are `IsOrdinary` no leap second counts, so that the age is the plain
difference. -/
theorem nanosSince_of_isOrdinary (hnow : now.IsOrdinary) (hpublished : published.IsOrdinary) :
    now.nanosSince published = now.sinceEpoch - published.sinceEpoch := by
  rw [nanosSince_eq hpublished, isLeap_of_isOrdinary hnow]
  simp

/-- Cut off at zero, it does not matter whether a quotient is rounded down (`/`) or toward zero
(`tdiv`). -/
theorem max_tdiv_zero {step : Int} (hstep : 0 < step) (span : Int) :
    max (span.tdiv step) 0 = max 0 (span / step) := by
  rcases Int.lt_or_le span 0 with hspan | hspan
  · have htoward : 0 ≤ (-span).tdiv step := Int.tdiv_nonneg (by omega) hstep.le
    rw [Int.neg_tdiv] at htoward
    have hdown : span / step < 0 := Int.ediv_neg_of_neg_of_pos hspan hstep
    omega
  · rw [Int.tdiv_eq_ediv_of_nonneg hspan, Int.max_comm]

/-- **Whole days are exact**: cut off at zero, `daysSince` is the age over `nanosPerDay`, rounded
down, for any two instants. -/
theorem max_daysSince (now published : Instant) :
    max (now.daysSince published) 0 = max 0 (now.nanosSince published / nanosPerDay) :=
  max_tdiv_zero nanosPerDay_pos _

/-- An instant that is `IsOrdinary` lies in no leap second, so it is `IsProper` all the more. -/
theorem IsOrdinary.isProper (h : now.IsOrdinary) : now.IsProper := by
  simp only [IsOrdinary, IsProper, nanosPerSecond] at *
  omega

/-- What comes after an ordinary instant in the order of instants comes after it by `sinceEpoch`
too. -/
theorem IsOrdinary.sinceEpoch_le {now₁ now₂ : Instant} (hnow₁ : now₁.IsOrdinary)
    (hle : now₁ ≤ now₂) : now₁.sinceEpoch ≤ now₂.sinceEpoch := by
  simp only [IsOrdinary, sinceEpoch, nanosPerSecond] at *
  rcases hle with hseconds | ⟨hseconds, hnanos⟩ <;> omega

/-- **Whole days do not decrease.** Where `now₂` comes after `now₁` both in the order of instants
and by `sinceEpoch`, the age is at least as many days, in leap seconds or not. -/
theorem ediv_nanosSince_mono {now₁ now₂ : Instant} (hpublished : published.IsOrdinary)
    (hproper : now₁.IsProper) (hle : now₁ ≤ now₂) (hsince : now₁.sinceEpoch ≤ now₂.sinceEpoch) :
    now₁.nanosSince published / nanosPerDay ≤ now₂.nanosSince published / nanosPerDay := by
  rw [nanosSince_eq hpublished, nanosSince_eq hpublished]
  by_cases hlost₂ : now₂.isLeap ∧ now₂.secondOfDay < published.secondOfDay
  · by_cases hlost₁ : now₁.isLeap ∧ now₁.secondOfDay < published.secondOfDay
    · rw [if_pos hlost₁, if_pos hlost₂]
      exact Int.ediv_le_ediv nanosPerDay_pos (by omega)
    · -- The second is lost where no day of the age begins: `now₁`, if not a second earlier, lies
      -- in the same second as what is left of `now₂`.
      have hleap := isLeap_iff.mp hlost₂.1
      have hday := hlost₂.2
      rw [if_neg hlost₁, if_pos hlost₂]
      rw [isLeap_iff, not_and_or] at hlost₁
      clear hlost₂
      simp only [IsProper, IsOrdinary, secondOfDay, sinceEpoch, nanosPerDay, secondsPerDay,
        nanosPerSecond] at *
      rcases hle with hseconds | ⟨hseconds, -⟩ <;> rcases hlost₁ with hplain | hlater <;> omega
  · have hpos : (0 : Int) ≤ nanosPerSecond := by decide
    rw [if_neg hlost₂]
    refine Int.ediv_le_ediv nanosPerDay_pos ?_
    split <;> omega

end Instant

namespace Dependency

open Instant

variable {d : Dependency} {latest : Except LookupFault Release} {published now : Instant}
  {limit : Int}

/-- The dependency `d` is behind a release that has a date: the lookup `latest` tells of a release
with another version than the one that `d` declares, and it is dated `published`. -/
def AgesSince (d : Dependency) (latest : Except LookupFault Release) (published : Instant) : Prop :=
  ∃ release, latest = .ok release ∧ d.version ≠ "" ∧ d.version ≠ release.version ∧
    release.published = some published

/-- The `effectiveLimit` is positive whatever `limit` is set. -/
theorem effectiveLimit_pos (limit : Int) : 0 < effectiveLimit limit := by
  rw [effectiveLimit]
  split
  · decide
  · omega

/-- More whole days than the limit have passed when one day more than the limit has: the comparison
of `classify`, in nanoseconds. -/
theorem effectiveLimit_lt_iff (limit age : Int) :
    effectiveLimit limit < max 0 (age / nanosPerDay)
      ↔ (effectiveLimit limit + 1) * nanosPerDay ≤ age := by
  have hlimit := effectiveLimit_pos limit
  rw [← Int.le_ediv_iff_mul_le nanosPerDay_pos]
  omega

/-- What `classify` reports of a dependency that is behind: the days of `daysSince`, cut off at
zero, and whether they are more than the `effectiveLimit`. -/
theorem AgesSince.classify_eq (h : d.AgesSince latest published) (now : Instant) (limit : Int) :
    (d.classify latest now limit).staleDays = max (now.daysSince published) 0 ∧
      (d.classify latest now limit).status =
        if effectiveLimit limit < max (now.daysSince published) 0 then .outdated else .stale := by
  obtain ⟨release, rfl, hempty, hne, hdate⟩ := h
  simp [classify, hempty, hne, hdate]

section Ages

variable (h : d.AgesSince latest published)

include h

/-- The `staleDays` of a dependency that is behind are the days of the age, rounded down, and none
if the release is still to come. -/
theorem AgesSince.staleDays (now : Instant) (limit : Int) :
    (d.classify latest now limit).staleDays = max 0 (now.nanosSince published / nanosPerDay) := by
  rw [(h.classify_eq now limit).1, max_daysSince]

/-- The status of a dependency that is behind is `outdated` from the age on that is one day more
than the `effectiveLimit`, and `stale` before. -/
theorem AgesSince.status (now : Instant) (limit : Int) :
    (d.classify latest now limit).status =
      if (effectiveLimit limit + 1) * nanosPerDay ≤ now.nanosSince published
      then .outdated else .stale := by
  rw [(h.classify_eq now limit).2, max_daysSince]
  simp only [effectiveLimit_lt_iff]

/-- A dependency that is left as it is gets no fresher: from `now₁` to a `now₂` that comes after it
in both orders, its `staleDays` do not decrease, and `outdated` stays `outdated`. -/
theorem AgesSince.classify_mono {now₁ now₂ : Instant} (hpublished : published.IsOrdinary)
    (hproper : now₁.IsProper) (hle : now₁ ≤ now₂) (hsince : now₁.sinceEpoch ≤ now₂.sinceEpoch)
    (limit : Int) :
    (d.classify latest now₁ limit).staleDays ≤ (d.classify latest now₂ limit).staleDays ∧
      ((d.classify latest now₁ limit).status = .outdated →
        (d.classify latest now₂ limit).status = .outdated) := by
  have hdays : max (now₁.daysSince published) 0 ≤ max (now₂.daysSince published) 0 := by
    have hmono := ediv_nanosSince_mono hpublished hproper hle hsince
    rw [max_daysSince, max_daysSince]
    omega
  obtain ⟨hdays₁, hstatus₁⟩ := h.classify_eq now₁ limit
  obtain ⟨hdays₂, hstatus₂⟩ := h.classify_eq now₂ limit
  refine ⟨by rwa [hdays₁, hdays₂], fun houtdated => ?_⟩
  rw [hstatus₁] at houtdated
  split at houtdated
  case isTrue hmore => rw [hstatus₂, if_pos (lt_of_lt_of_le hmore hdays)]
  case isFalse => cases houtdated

end Ages

/-- Without a date to count from, that is without `AgesSince`, the time does not matter: each of the
other cases of `classify` is a record that does not name it. -/
theorem classify_of_not_agesSince (h : ∀ published, ¬ d.AgesSince latest published)
    (now₁ now₂ : Instant) (limit : Int) :
    d.classify latest now₁ limit = d.classify latest now₂ limit := by
  cases latest with
  | error fault => rfl
  | ok release =>
    by_cases hcurrent : d.version = "" ∨ d.version = release.version
    · simp [classify, hcurrent]
    · cases hdate : release.published with
      | none => simp [classify, hdate]
      | some published =>
        rw [not_or] at hcurrent
        exact absurd ⟨release, rfl, hcurrent.1, hcurrent.2, hdate⟩ (h published)

/-- **Reports in the course of time.** Let a dependency be behind a release with an ordinary date.

* At every instant `now` it is behind by the whole days of the age `now.nanosSince published`, none
  if the release is still to come, and it is `outdated` from one day after the limit on. The age is
  the difference of the two instants by `sinceEpoch`, less one second if `now` lies in a leap second
  and stands earlier in its day than `published` in its own.
* Its report gets no better as time goes on: from an instant `now₁` in no leap second to any later
  one, and from any instant that is `IsProper` to one that is later by `sinceEpoch` too.

The report of any other dependency does not depend on the time. -/
theorem classify_in_time (d : Dependency) (latest : Except LookupFault Release) (limit : Int) :
    (∀ published : Instant, d.AgesSince latest published → published.IsOrdinary →
      (∀ now : Instant,
        now.nanosSince published = now.sinceEpoch - published.sinceEpoch -
          (if now.isLeap ∧ now.secondOfDay < published.secondOfDay then nanosPerSecond else 0) ∧
        (d.classify latest now limit).staleDays
          = max 0 ⌊((now.nanosSince published : ℤ) : ℚ) / (nanosPerDay : ℚ)⌋ ∧
        (d.classify latest now limit).status =
          if ((if limit ≤ 0 then 90 else limit) + 1) * nanosPerDay ≤ now.nanosSince published
          then .outdated else .stale) ∧
      ∀ now₁ now₂ : Instant, now₁ ≤ now₂ →
        (now₁.IsOrdinary ∨ now₁.IsProper ∧ now₁.sinceEpoch ≤ now₂.sinceEpoch) →
        (d.classify latest now₁ limit).staleDays ≤ (d.classify latest now₂ limit).staleDays ∧
        ((d.classify latest now₁ limit).status = .outdated →
          (d.classify latest now₂ limit).status = .outdated)) ∧
    ((∀ published : Instant, ¬ d.AgesSince latest published) →
      ∀ now₁ now₂ : Instant, d.classify latest now₁ limit = d.classify latest now₂ limit) := by
  refine ⟨fun published h hpublished => ⟨fun now => ⟨?_, ?_, ?_⟩, ?_⟩, ?_⟩
  · exact nanosSince_eq hpublished now
  · rw [floor_div_nanosPerDay]
    exact h.staleDays now limit
  · exact h.status now limit
  · rintro now₁ now₂ hle (hnow₁ | ⟨hproper, hsince⟩)
    · exact h.classify_mono hpublished hnow₁.isProper hle (hnow₁.sinceEpoch_le hle) limit
    · exact h.classify_mono hpublished hproper hle hsince limit
  · intro h now₁ now₂
    exact classify_of_not_agesSince h now₁ now₂ limit

end Dependency

end CodeHealth

namespace CodeHealth.Sample

open Instant Dependency

/-- Half a second into 1970. -/
def halfSecond : Instant := ⟨0, 500000000⟩

/-- A dependency that is behind the release `"2"`. -/
def behind : Dependency := ⟨"a", "a", "1", .npm⟩

/-- A lookup that tells of a release of `published`. -/
def releasedAt (published : Instant) : Except LookupFault Release := .ok ⟨"2", some published⟩

theorem behind_agesSince (published : Instant) :
    behind.AgesSince (releasedAt published) published :=
  ⟨⟨"2", some published⟩, rfl, by decide, (by decide : "1" ≠ "2"), rfl⟩

/-- Before the release no day has passed. With the limit of 90 days, the nanosecond at the end of
the next day makes the difference, and the report does not change back: not in the leap second at
the end of that minute, nor a second after it. -/
theorem behind_in_time : behind.AgesSince (releasedAt halfSecond) halfSecond ∧
    (behind.classify (releasedAt halfSecond) ⟨0, 0⟩ 0).staleDays = 0 ∧
    (behind.classify (releasedAt halfSecond) ⟨7862400, 499999999⟩ 0).status = .stale ∧
    (behind.classify (releasedAt halfSecond) ⟨7862400, 500000000⟩ 0).status = .outdated ∧
    (behind.classify (releasedAt halfSecond) ⟨7862459, 1500000000⟩ 0).status = .outdated ∧
    (behind.classify (releasedAt halfSecond) ⟨7862460, 600000000⟩ 0).status = .outdated := by
  obtain ⟨hexact, hmono⟩ := (classify_in_time behind (releasedAt halfSecond) 0).1 halfSecond
    (behind_agesSince halfSecond) (by decide)
  have hbefore := (hexact ⟨0, 0⟩).2.1
  rw [floor_div_nanosPerDay] at hbefore
  have hstale := (hexact ⟨7862400, 499999999⟩).2.2
  have houtdated := (hexact ⟨7862400, 500000000⟩).2.2
  rw [if_neg (by decide)] at hstale
  rw [if_pos (by decide)] at houtdated
  have hlater := hmono ⟨7862400, 500000000⟩ ⟨7862459, 1500000000⟩ (by decide) (.inl (by decide))
  have hlast := hmono ⟨7862459, 1500000000⟩ ⟨7862460, 600000000⟩ (by decide) (.inr (by decide))
  exact ⟨behind_agesSince halfSecond, hbefore, hstale, houtdated, hlater.2 houtdated,
    hlast.2 (hlater.2 houtdated)⟩

/-- In a leap second neither holds of the plain difference. The release of one minute after midnight
is a day of nanoseconds old in the leap second just before that time of the next day, and no day is
counted. And the release of a moment after midnight is a day behind in the leap second at the end
of the day, but no more so a moment after midnight. -/
theorem leapSecond_loses_day :
    (behind.AgesSince (releasedAt ⟨60, 0⟩) ⟨60, 0⟩ ∧ (⟨60, 0⟩ : Instant).IsOrdinary ∧
      sinceEpoch ⟨86459, 1000000000⟩ - sinceEpoch ⟨60, 0⟩ = nanosPerDay ∧
      (behind.classify (releasedAt ⟨60, 0⟩) ⟨86459, 1000000000⟩ 90).staleDays = 0) ∧
    (⟨86399, 1500000000⟩ : Instant) ≤ ⟨86400, 200000000⟩ ∧
    (behind.classify (releasedAt ⟨0, 300000000⟩) ⟨86399, 1500000000⟩ 90).staleDays = 1 ∧
    (behind.classify (releasedAt ⟨0, 300000000⟩) ⟨86400, 200000000⟩ 90).staleDays = 0 :=
  ⟨⟨behind_agesSince _, by decide⟩, by decide⟩

end CodeHealth.Sample
