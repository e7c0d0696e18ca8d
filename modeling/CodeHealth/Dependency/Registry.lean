import CodeHealth.Data.Json
import CodeHealth.Dependency.Freshness
import CodeHealth.Text.LowerCase
import CodeHealth.Text.Search

/-!
# Registries of packages

Each ecosystem publishes releases at an address of its own, and answers in a format of its own. A
lookup is a function of the answers to requests; it also lists the requests it makes.

* `Registry.firstUrl?` and `Registry.told?` say for each ecosystem where the latest release is told,
  and how;
* `Registry.latest` looks up the latest release of a package.
-/

namespace CodeHealth.Registry

open CodeHealth.Text

/-- What comes back from a request: nothing (`failed`), or a status and a text. -/
inductive Answer where
  | failed
  | response (status : Nat) (body : List Char)

/-- What is asked of a registry: `get` makes the only kind of request there is. -/
structure Request where
  /-- The address. -/
  url : String
  /-- Who asks. -/
  agent : String
  /-- In which format the answer is to be. -/
  accept : String
  deriving DecidableEq, Repr

/-- A request for a document at the address `url`. -/
def Request.get (url : String) : Request := ⟨url, "drift/0.1.0", "application/json"⟩

/-- The requests that a lookup makes, in order, and its outcome. `latest` gives one. -/
structure Lookup where
  /-- What is asked, in order. -/
  requests : List Request
  /-- The latest release, or why it is not known. -/
  outcome : Except LookupFault Release

/-- Fetches the document at `url` and reads it by `read`. Only an answer with the status 200
counts. -/
def fetch {α : Type} (answers : String → Answer) (url : String) (read : Document → Option α) :
    Except LookupFault α :=
  match answers url with
  | .failed => .error (.transport url)
  | .response status body =>
    if status != 200 then .error (.status url status)
    else
      match (Json.parse? body).bind read with
      | some value => .ok value
      | none => .error (.decode url)

/-! ### Addresses -/

/-- A module in an address (`goUrl`): capital letters are written as an exclamation mark and the
small letter, so that modules which differ in the case of letters have addresses that do not. -/
def escapeModule : List Char → List Char
  | [] => []
  | c :: rest =>
    if 'A' ≤ c && c ≤ 'Z' then '!' :: asciiLower c :: escapeModule rest else c :: escapeModule rest

/-- A package in an address: the first slash of a scoped `name`, which starts with `@`, is
escaped. -/
def escapeScoped (name : List Char) : List Char :=
  match name, breakOn ['/'] name with
  | '@' :: _, some (scope, rest) => scope ++ "%2F".toList ++ rest
  | _, _ => name

/-- The address of the latest version of the Go module `package`. -/
def goUrl (package : String) : String :=
  s!"https://proxy.golang.org/{String.ofList (escapeModule package.toList)}/@latest"

/-- The address of the Node package `package`. -/
def npmUrl (package : String) : String :=
  s!"https://registry.npmjs.org/{String.ofList (escapeScoped package.toList)}"

/-- The address of the Python package `package`. -/
def pypiUrl (package : String) : String := s!"https://pypi.org/pypi/{package}/json"

/-- The address of the Rust crate `package`. -/
def cratesUrl (package : String) : String := s!"https://crates.io/api/v1/crates/{package}"

/-- The address of a search for the Maven `artifact` of a `group`. -/
def mavenUrl (group artifact : List Char) : String :=
  s!"https://search.maven.org/solrsearch/select?q=g:%22{String.ofList group}%22+AND+a:%22" ++
    s!"{String.ofList artifact}%22&rows=1&wt=json"

/-- The address of the gem `package`. -/
def gemsUrl (package : String) : String := s!"https://rubygems.org/api/v1/gems/{package}.json"

/-- The address of the PHP package `package`. -/
def packagistUrl (package : String) : String := s!"https://repo.packagist.org/p2/{package}.json"

/-- The address of the versions of the .NET package `package`, which is written in lower case. -/
def nugetUrl (package : String) : String :=
  s!"https://api.nuget.org/v3-flatcontainer/{String.ofList (lowerCase package.toList)}/index.json"

/-! ### Answers -/

/-- What `read` makes of the `field` of a record that has no other field. -/
def only? {α : Type} (field : String) (read : Option Document → Option α) (d : Document) :
    Option α := do
  match ← d.fields? .json [field] with
  | [value] => read value
  | _ => none

/-- The text in the `field` of a record that has no other field. -/
def textField? (field : String) : Document → Option String :=
  only? field (Document.required Document.string?)

/-- The two fields `first` and `second` of a record, of which a value may be missing in a table but
not in an array. -/
def pair? (first second : String) : Document → Option (Option Document × Option Document)
  | .array [a, b] => some (some a, some b)
  | .array _ => none
  | d => do
    match ← d.fields? .json [first, second] with
    | [a, b] => some (a, b)
    | _ => none

/-- A text that may be missing or null, which is then `none`. Any other value is refused. -/
def optionalText? : Option Document → Option (Option String) :=
  Document.withDefault none (Document.optional? Document.string?)

/-- The version and the time of a Go module, in the fields `Version` and `Time` of `d`. -/
def goRelease? (d : Document) : Option Release := do
  let (version, time) ← pair? "Version" "Time" d
  let version ← Document.required Document.string? version
  let time ← optionalText? time
  return ⟨version, time.bind fun t => Instant.parse? t.toList⟩

/-- The times at which versions of a Node package were published, by version. `npmPublished?` looks
one up. -/
def npmTimes? : Document → Option (List (String × String)) :=
  only? "time" (Document.withDefault [] (Document.map? Document.string?))

/-- The latest version of a crate: the stable one before any other, and `some none` if there is
neither. -/
def crateVersion? (d : Document) : Option (Option String) := do
  let (stable, any) ← pair? "max_stable_version" "max_version" d
  let stable ← optionalText? stable
  let any ← optionalText? any
  return stable.or any

/-- The versions that a search for an artifact finds, the best match first, which `told?` takes. -/
def mavenVersions? : Document → Option (List String) :=
  only? "response" (Document.required (only? "docs"
    (Document.withDefault [] (Document.list? (textField? "latestVersion")))))

/-- The versions of PHP packages, by package, of which `told?` takes those of one. -/
def packagistVersions? : Document → Option (List (String × List String)) :=
  only? "packages" (Document.withDefault []
    (Document.map? (Document.list? (textField? "version"))))

/-- Whether a `version` is one of a branch under development. -/
def isDevelopment (version : String) : Bool :=
  "dev-".toList.isPrefixOf version.toList || "-dev".toList.isSuffixOf version.toList

/-- The latest version of a PHP `package` that is no branch (`isDevelopment`), without the letter in
front. -/
def packagistVersion? (package : String) (packages : List (String × List String)) :
    Option String := do
  let versions ← packages.lookup package
  let version ← versions.find? fun v => !isDevelopment v
  return String.ofList (version.toList.dropWhile (· == 'v'))

/-! ### Lookups -/

/-- A release with this `version` and without a date. -/
def undated (version : String) : Release := ⟨version, none⟩

/-- The address of the document that is asked for first. Only a Maven `package` without a group,
which stands before a colon, has none. -/
def firstUrl? (ecosystem : Ecosystem) (package : String) : Option String :=
  match ecosystem with
  | .goProxy => some (goUrl package)
  | .npm => some s!"{npmUrl package}/latest"
  | .pyPI => some (pypiUrl package)
  | .cratesIo => some (cratesUrl package)
  | .maven => (breakOn [':'] package.toList).map fun (group, artifact) => mavenUrl group artifact
  | .rubyGems => some (gemsUrl package)
  | .packagist => some (packagistUrl package)
  | .nuGet => some (nugetUrl package)

/-- What the document at `firstUrl?` tells of a `package`: its latest release, if there is one. The
date of a Node package is not told there. The result is `none` for a document of another form. -/
def told? (ecosystem : Ecosystem) (package : String) (d : Document) : Option (Option Release) :=
  match ecosystem with
  | .goProxy => (goRelease? d).map some
  | .npm | .rubyGems => (textField? "version" d).map fun v => some (undated v)
  | .pyPI => (only? "info" (Document.required (textField? "version")) d).map
      fun v => some (undated v)
  | .cratesIo => (only? "crate" (Document.required crateVersion?) d).map fun v => v.map undated
  | .maven => (mavenVersions? d).map fun versions => versions.head?.map undated
  | .packagist => (packagistVersions? d).map
      fun packages => (packagistVersion? package packages).map undated
  | .nuGet => (only? "versions" (Document.withDefault [] (Document.list? Document.string?)) d).map
      fun versions => versions.getLast?.map undated

/-- A lookup by one request to `url`, where `read` gives the latest release in the answer, if there
is one. -/
def single (answers : String → Answer) (package url : String)
    (read : Document → Option (Option Release)) : Lookup where
  requests := [Request.get url]
  outcome := do
    match ← fetch answers url read with
    | some release => .ok release
    | none => .error (.noRelease package)

/-- When a `version` of a Node package was published, as far as the document at `npmUrl` tells. -/
def npmPublished? (answers : String → Answer) (package version : String) : Option Instant :=
  match fetch answers (npmUrl package) npmTimes? with
  | .ok times => (times.lookup version).bind fun t => Instant.parse? t.toList
  | .error _ => none

/-- Looks up the latest release of a `package` with the requests that `answers` answers. A second
request is made for a Node package whose version is known, to learn its date; the date is missing
when that request does not tell it. -/
def latest (answers : String → Answer) (ecosystem : Ecosystem) (package : String) : Lookup :=
  match firstUrl? ecosystem package with
  | none => ⟨[], .error (.noRelease package)⟩
  | some url =>
    let first := single answers package url (told? ecosystem package)
    match ecosystem, first.outcome with
    | .npm, .ok release =>
      ⟨first.requests ++ [Request.get (npmUrl package)],
        .ok { release with published := npmPublished? answers package release.version }⟩
    | _, _ => first

end CodeHealth.Registry
