import CodeHealth.Dependency.Spec
import CodeHealth.Findings
import CodeHealth.Time.Instant

/-!
# How fresh dependencies are

A dependency is held against the latest release of its package. It is behind when the versions
differ, and by how many days is told by the date of that release.
-/

namespace CodeHealth

/-- The latest release of a package, as a registry tells it; `Dependency.classify` compares with
it. -/
structure Release where
  version : String
  /-- When it was published, if the registry tells that. -/
  published : Option Instant
  deriving DecidableEq, Repr

/-- Why the latest release of a package is not known. It makes no difference to
`Dependency.classify`. -/
inductive LookupFault where
  /-- The request failed. -/
  | transport (url : String)
  /-- The answer has a status other than success. -/
  | status (url : String) (code : Nat)
  /-- The answer cannot be understood. -/
  | decode (url : String)
  | noRelease (package : String)
  /-- Nothing is looked up. -/
  | offline
  deriving DecidableEq, Repr

namespace LookupFault

/-- The message for a fault, which names the address or the package that the `LookupFault` is about,
if it is about one. -/
def message : LookupFault → String
  | transport url => s!"request to {url} failed"
  | status url code => s!"{url} returned HTTP {code}"
  | decode url => s!"failed to decode response from {url}"
  | noRelease package => s!"no release listed for {package}"
  | offline => "registry lookups are disabled"

end LookupFault

namespace Dependency

/-- The days that a dependency is taken to be behind a release without a date, in `classify`. -/
def undatedDays : Int := 30

/-- The days that a dependency may be behind when no limit is set (`effectiveLimit`). -/
def defaultLimit : Int := 90

/-- The days that a dependency may be behind: the `limit` that is set, if it is positive, and else
`defaultLimit`. -/
def effectiveLimit (limit : Int) : Int := if limit ≤ 0 then defaultLimit else limit

/-- How fresh a dependency `d` is, given the `latest` release of its package. It is behind when the
versions differ, and `outdated` when it is so by more days than the `limit` allows. -/
def classify (d : Dependency) (latest : Except LookupFault Release) (now : Instant) (limit : Int) :
    DependencyReport :=
  match latest with
  | .error _ => ⟨d.name, d.version, "?", 0, .unknown⟩
  | .ok release =>
    if d.version == "" || d.version == release.version then
      ⟨d.name, d.version, release.version, 0, .current⟩
    else
      match release.published with
      | none => ⟨d.name, d.version, release.version, undatedDays, .stale⟩
      | some published =>
        let days := max (now.daysSince published) 0
        let status := if effectiveLimit limit < days then Freshness.outdated else .stale
        ⟨d.name, d.version, release.version, days, status⟩

/-- A source of releases: what it tells of a package of an ecosystem, a `Release` or a fault. -/
abbrev Registry := Ecosystem → String → Except LookupFault Release

/-- The source of releases when nothing is looked up: every answer is the fault `offline`. -/
def offlineRegistry : Registry := fun _ _ => .error .offline

/-- How fresh the dependencies `declared` are, in order, each told by the answer for its own
package. -/
def resolve (registry : Registry) (now : Instant) (limit : Int) (declared : List Dependency) :
    List DependencyReport :=
  declared.map fun d => d.classify (registry d.ecosystem d.package) now limit

end Dependency

end CodeHealth
