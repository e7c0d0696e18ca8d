import CodeHealth.Dependency.Registry
import CodeHealth.Proofs.Text

/-!
# What lookups ask for

The latest release of a package is told by one document. Only the date of a Node package stands in a
second one, and it is asked for when the first one is understood. Whatever goes wrong with the first
document is the outcome of the lookup; nothing that goes wrong with the second one is.

* `Registry.toldBy?`, `Registry.TellsDate` — what the texts of the two documents tell of a package;
* `Registry.fetch_failed`, `Registry.fetch_status`, `Registry.fetch_undecoded`,
  `Registry.fetch_decoded` — what becomes of an answer;
* `Registry.latest_eq_single` — a lookup by one request, but for Node packages;
* `Registry.lookups_minimal` — the requests of every lookup, its outcome, and that no other answer
  counts.
-/

namespace CodeHealth.Registry

open CodeHealth.Text

variable {answers others : String → Answer} {ecosystem : Ecosystem} {package url : String}

/-! ### Documents -/

/-- What a text tells of a `package` if it is to hold the first document: it is read by
`Json.parse?` and then by `told?`. -/
def toldBy? (ecosystem : Ecosystem) (package : String) (body : List Char) :
    Option (Option Release) :=
  (Json.parse? body).bind (told? ecosystem package)

/-- The second document tells that a `version` of a Node package was published at `t`: it came with
status 200, `npmTimes?` reads it, and the text that it has for the version is an instant. -/
def TellsDate (answer : Answer) (version : String) (t : Instant) : Prop :=
  ∃ body times text, answer = .response 200 body ∧ (Json.parse? body).bind npmTimes? = some times ∧
    times.lookup version = some text ∧ Instant.parse? text.toList = some t

/-- `breakOn` finds no colon exactly in a text that has none. -/
theorem breakOn_colon_eq_none_iff (text : List Char) : breakOn [':'] text = none ↔ ':' ∉ text := by
  constructor
  · intro hnone hmem
    obtain ⟨left, right, rfl, hleft⟩ := exists_first (List.cons_ne_nil ':' [])
      ((List.singleton_infix_iff ':' text).mpr hmem)
    rw [breakOn_append (List.cons_ne_nil ':' []) hleft] at hnone
    cases hnone
  · intro hmem
    have hoccurs : ¬ [':'] <:+: text := fun h => hmem ((List.singleton_infix_iff ':' text).mp h)
    exact breakFrom_of_not_isInfix hoccurs []

/-- `firstUrl?` gives an address, except for a Maven package without a group. -/
theorem firstUrl?_eq_none_iff :
    firstUrl? ecosystem package = none ↔ ecosystem = .maven ∧ ':' ∉ package.toList := by
  cases ecosystem <;> simp [firstUrl?, breakOn_colon_eq_none_iff]

/-! ### Answers -/

section Fetch

variable {α : Type} {read : Document → Option α} {body : List Char} {status : Nat}

/-- `fetch` reports a request that got no answer as `transport`, with the address. -/
theorem fetch_failed (h : answers url = .failed) :
    fetch answers url read = .error (.transport url) := by
  simp [fetch, h]

/-- `fetch` reports an answer with a status other than 200 as `status`, with the address and the
status. -/
theorem fetch_status (h : answers url = .response status body) (hstatus : status ≠ 200) :
    fetch answers url read = .error (.status url status) := by
  simp [fetch, h, hstatus]

/-- `fetch` reports an answer that is no document or that `read` does not understand as `decode`,
with the address that was asked. -/
theorem fetch_undecoded (h : answers url = .response 200 body)
    (hbody : (Json.parse? body).bind read = none) :
    fetch answers url read = .error (.decode url) := by
  simp [fetch, h, hbody]

/-- `fetch` gives the `value` that `read` takes from the document. -/
theorem fetch_decoded {value : α} (h : answers url = .response 200 body)
    (hbody : (Json.parse? body).bind read = some value) : fetch answers url read = .ok value := by
  simp [fetch, h, hbody]

/-- An answer counts in one way only: `fetch` succeeds exactly on a document with status 200 that
`read` understands. -/
theorem fetch_eq_ok_iff {value : α} : fetch answers url read = .ok value ↔
    ∃ body, answers url = .response 200 body ∧ (Json.parse? body).bind read = some value := by
  constructor
  · intro hfetch
    -- Of the four ways in which a request may end, only the last gives a value.
    cases hanswer : answers url with
    | failed =>
      rw [fetch_failed hanswer] at hfetch
      cases hfetch
    | response status body =>
      by_cases hstatus : status = 200
      · subst hstatus
        cases hbody : (Json.parse? body).bind read with
        | none =>
          rw [fetch_undecoded hanswer hbody] at hfetch
          cases hfetch
        | some found =>
          rw [fetch_decoded hanswer hbody] at hfetch
          cases hfetch
          exact ⟨body, rfl, hbody⟩
      · rw [fetch_status hanswer hstatus] at hfetch
        cases hfetch
  · rintro ⟨body, hanswer, hbody⟩
    exact fetch_decoded hanswer hbody

/-- `fetch` looks at the answer to the one `url`, and at no other. -/
theorem fetch_congr (h : others url = answers url) :
    fetch others url read = fetch answers url read := by
  rw [fetch, fetch, h]

end Fetch

/-- The first document of a `package` is understood: it came with status 200 and `toldBy?` reads
it. -/
def IsTold (answers : String → Answer) (ecosystem : Ecosystem) (package url : String) : Prop :=
  ∃ body, answers url = .response 200 body ∧ toldBy? ecosystem package body ≠ none

/-! ### Lookups by one request -/

/-- **One request.** Every lookup is a `single` one of `told?` at `firstUrl?`, except for Node
packages. -/
theorem latest_eq_single (h : firstUrl? ecosystem package = some url) (hnpm : ecosystem ≠ .npm) :
    latest answers ecosystem package = single answers package url (told? ecosystem package) := by
  simp only [latest, h]
  split
  · exact absurd rfl hnpm
  · rfl

/-- A `single` lookup passes on what `fetch` has found to be wrong. Either way it makes the one
request. -/
theorem single_of_error {read : Document → Option (Option Release)} {fault : LookupFault}
    (h : fetch answers url read = .error fault) :
    single answers package url read = ⟨[Request.get url], .error fault⟩ := by
  rw [single, h]
  rfl

/-- A `single` lookup gives the release that is told, and `noRelease` for the package when the
document tells that there is none. -/
theorem single_of_ok {read : Document → Option (Option Release)} {found : Option Release}
    (h : fetch answers url read = .ok found) :
    single answers package url read
      = ⟨[Request.get url], found.elim (.error (.noRelease package)) .ok⟩ := by
  rw [single, h]
  cases found <;> rfl

/-! ### Node packages -/

/-- Whatever becomes of the second request, `npmPublished?` is the date that its answer tells, in
the sense of `TellsDate`, and otherwise `none`. -/
theorem npmPublished?_eq_some_iff {version : String} {t : Instant} :
    npmPublished? answers package version = some t ↔
      TellsDate (answers (npmUrl package)) version t := by
  rw [npmPublished?]
  cases hfetch : fetch answers (npmUrl package) npmTimes? with
  | error fault =>
    constructor
    · intro hnone
      cases hnone
    · -- An answer that tells the date would have been fetched.
      rintro ⟨body, times, text, hanswer, hbody, -⟩
      rw [fetch_decoded hanswer hbody] at hfetch
      cases hfetch
  | ok times =>
    obtain ⟨body, hanswer, hbody⟩ := fetch_eq_ok_iff.mp hfetch
    simp only [Option.bind_eq_some_iff]
    constructor
    · rintro ⟨text, htext, htime⟩
      exact ⟨body, times, text, hanswer, hbody, htext, htime⟩
    · -- There is one answer, so it is the one that was fetched.
      rintro ⟨body', times', text, hanswer', hbody', htext, htime⟩
      rw [hanswer] at hanswer'
      cases hanswer'
      rw [hbody] at hbody'
      cases hbody'
      exact ⟨text, htext, htime⟩

/-- What is told of a Node package is a version without a date: `told? .npm` never gives `none` for
the release. -/
theorem exists_version_of_told {d : Document} {found : Option Release}
    (h : told? .npm package d = some found) : ∃ version, found = some (undated version) := by
  obtain ⟨version, -, hfound⟩ := Option.map_eq_some_iff.mp h
  exact ⟨version, hfound.symm⟩

/-! ### All lookups -/

/-- Nothing is asked for when `firstUrl?` gives no address. -/
theorem latest_of_firstUrl?_eq_none (h : firstUrl? ecosystem package = none) :
    latest answers ecosystem package = ⟨[], .error (.noRelease package)⟩ := by
  simp only [latest, h]

/-- A `fault` of the first request is the outcome, and nothing more is asked for. This holds of Node
packages too. -/
theorem latest_of_error {fault : LookupFault} (h : firstUrl? ecosystem package = some url)
    (hfetch : fetch answers url (told? ecosystem package) = .error fault) :
    latest answers ecosystem package = ⟨[Request.get url], .error fault⟩ := by
  simp only [latest, h, single_of_error hfetch]

/-- What `told?` finds is the outcome of a lookup by one request, which is every lookup but that of
a Node package (`hnpm`). -/
theorem latest_of_ok {found : Option Release} (h : firstUrl? ecosystem package = some url)
    (hnpm : ecosystem ≠ .npm) (hfetch : fetch answers url (told? ecosystem package) = .ok found) :
    latest answers ecosystem package
      = ⟨[Request.get url], found.elim (.error (.noRelease package)) .ok⟩ := by
  rw [latest_eq_single h hnpm]
  exact single_of_ok hfetch

/-- The version that `told?` gives for a Node package is its latest one, and its date is asked for
with a second request. -/
theorem latest_npm_of_ok {found : Option Release} (h : firstUrl? .npm package = some url)
    (hfetch : fetch answers url (told? .npm package) = .ok found) :
    ∃ version published, found = some (undated version) ∧
      latest answers .npm package =
        ⟨[Request.get url, Request.get (npmUrl package)], .ok ⟨version, published⟩⟩ ∧
      ∀ t, published = some t ↔ TellsDate (answers (npmUrl package)) version t := by
  obtain ⟨body, -, htold⟩ := fetch_eq_ok_iff.mp hfetch
  obtain ⟨d, -, htold⟩ := Option.bind_eq_some_iff.mp htold
  obtain ⟨version, rfl⟩ := exists_version_of_told htold
  refine ⟨version, npmPublished? answers package version, rfl, ?_,
    fun t => npmPublished?_eq_some_iff⟩
  simp only [latest, h, single_of_ok hfetch]
  rfl

/-- `IsTold` says that the first `fetch` succeeds. -/
theorem isTold_iff : IsTold answers ecosystem package url ↔
    ∃ found, fetch answers url (told? ecosystem package) = .ok found := by
  constructor
  · rintro ⟨body, hanswer, hbody⟩
    obtain ⟨found, hfound⟩ := Option.ne_none_iff_exists'.mp hbody
    exact ⟨found, fetch_decoded hanswer hfound⟩
  · rintro ⟨found, hfetch⟩
    obtain ⟨body, hanswer, hbody⟩ := fetch_eq_ok_iff.mp hfetch
    exact ⟨body, hanswer, Option.ne_none_iff_exists'.mpr ⟨found, hbody⟩⟩

/-- The requests of `latest` at a known first address: a second one for a Node package that
`IsTold`, and otherwise the first one alone. -/
theorem requests_latest (h : firstUrl? ecosystem package = some url) :
    (ecosystem = .npm ∧ IsTold answers ecosystem package url →
      (latest answers ecosystem package).requests
        = [Request.get url, Request.get (npmUrl package)]) ∧
    (¬ (ecosystem = .npm ∧ IsTold answers ecosystem package url) →
      (latest answers ecosystem package).requests = [Request.get url]) := by
  constructor
  · rintro ⟨rfl, htold⟩
    obtain ⟨found, hfetch⟩ := isTold_iff.mp htold
    obtain ⟨version, published, -, hlatest, -⟩ := latest_npm_of_ok h hfetch
    rw [hlatest]
  · intro hnot
    cases hfetch : fetch answers url (told? ecosystem package) with
    | error fault => rw [latest_of_error h hfetch]
    | ok found =>
      have hnpm : ecosystem ≠ .npm := fun hnpm => hnot ⟨hnpm, isTold_iff.mpr ⟨found, hfetch⟩⟩
      rw [latest_of_ok h hnpm hfetch]

/-- **No other answer counts**: `latest` is the same for `others` that give the same answers to its
own requests. -/
theorem latest_congr
    (h : ∀ request ∈ (latest answers ecosystem package).requests,
      others request.url = answers request.url) :
    latest others ecosystem package = latest answers ecosystem package := by
  cases hurl : firstUrl? ecosystem package with
  | none => rw [latest_of_firstUrl?_eq_none hurl, latest_of_firstUrl?_eq_none hurl]
  | some url =>
    by_cases hasks : ecosystem = .npm ∧ IsTold answers ecosystem package url
    · rw [(requests_latest hurl).1 hasks] at h
      obtain ⟨rfl, -⟩ := hasks
      have hfirst : others url = answers url := h (Request.get url) (by simp)
      have hsecond : others (npmUrl package) = answers (npmUrl package) :=
        h (Request.get (npmUrl package)) (by simp)
      simp only [latest, hurl, single, npmPublished?, fetch_congr hfirst, fetch_congr hsecond]
    · rw [(requests_latest hurl).2 hasks] at h
      have hfirst : others url = answers url := h (Request.get url) (by simp)
      -- The outcome of the one request decides, and it is the same for both.
      cases hfetch : fetch answers url (told? ecosystem package) with
      | error fault =>
        rw [latest_of_error hurl hfetch, latest_of_error hurl ((fetch_congr hfirst).trans hfetch)]
      | ok found =>
        have hnpm : ecosystem ≠ .npm := fun hnpm => hasks ⟨hnpm, isTold_iff.mpr ⟨found, hfetch⟩⟩
        rw [latest_of_ok hurl hnpm hfetch,
          latest_of_ok hurl hnpm ((fetch_congr hfirst).trans hfetch)]

/-- **Lookups ask for little, and for nothing else.** Every lookup `latest` makes one request, at
`firstUrl?`, but that none is made for a Maven package without a group, which has no release, and
that a second one is made for a Node package that `IsTold`. What goes wrong with the first request
is the outcome, together with its address. For a Node package the outcome is the version that the
first document tells, and its date if the second one `TellsDate`. Answers to other requests do not
count. -/
theorem lookups_minimal (answers : String → Answer) (ecosystem : Ecosystem) (package : String) :
    (ecosystem = .maven ∧ ':' ∉ package.toList →
      latest answers ecosystem package = ⟨[], .error (.noRelease package)⟩) ∧
    (¬ (ecosystem = .maven ∧ ':' ∉ package.toList) →
      ∃ url, firstUrl? ecosystem package = some url ∧
      (ecosystem = .npm ∧ IsTold answers ecosystem package url →
        (latest answers ecosystem package).requests
          = [Request.get url, Request.get (npmUrl package)]) ∧
      (¬ (ecosystem = .npm ∧ IsTold answers ecosystem package url) →
        (latest answers ecosystem package).requests = [Request.get url]) ∧
      (answers url = .failed →
        (latest answers ecosystem package).outcome = .error (.transport url)) ∧
      (∀ status body, answers url = .response status body → status ≠ 200 →
        (latest answers ecosystem package).outcome = .error (.status url status)) ∧
      (∀ body, answers url = .response 200 body → toldBy? ecosystem package body = none →
        (latest answers ecosystem package).outcome = .error (.decode url)) ∧
      (∀ body, answers url = .response 200 body → toldBy? ecosystem package body = some none →
        (latest answers ecosystem package).outcome = .error (.noRelease package)) ∧
      ∀ body release, answers url = .response 200 body →
        toldBy? ecosystem package body = some (some release) →
        (ecosystem ≠ .npm → (latest answers ecosystem package).outcome = .ok release) ∧
        (ecosystem = .npm → ∃ published,
          (latest answers ecosystem package).outcome = .ok ⟨release.version, published⟩ ∧
          ∀ t, published = some t ↔ TellsDate (answers (npmUrl package)) release.version t)) ∧
    ∀ others : String → Answer,
      (∀ request ∈ (latest answers ecosystem package).requests,
        others request.url = answers request.url) →
      latest others ecosystem package = latest answers ecosystem package := by
  refine ⟨?_, ?_, ?_⟩
  · intro hnowhere
    exact latest_of_firstUrl?_eq_none (firstUrl?_eq_none_iff.mpr hnowhere)
  · intro hsomewhere
    obtain ⟨url, hurl⟩ :=
      Option.ne_none_iff_exists'.mp (mt firstUrl?_eq_none_iff.mp hsomewhere)
    -- From here on, one goal for each way in which the first request may end.
    refine ⟨url, hurl, (requests_latest hurl).1, (requests_latest hurl).2, ?_, ?_, ?_, ?_, ?_⟩
    · intro hanswer
      rw [latest_of_error hurl (fetch_failed hanswer)]
    · intro status body hanswer hstatus
      rw [latest_of_error hurl (fetch_status hanswer hstatus)]
    · intro body hanswer hbody
      rw [latest_of_error hurl (fetch_undecoded hanswer hbody)]
    · intro body hanswer hbody
      have hfetch := fetch_decoded hanswer hbody
      by_cases hnpm : ecosystem = .npm
      · subst hnpm
        obtain ⟨version, published, hfound, -⟩ := latest_npm_of_ok hurl hfetch
        cases hfound
      · rw [latest_of_ok hurl hnpm hfetch]
        rfl
    · intro body release hanswer hbody
      have hfetch := fetch_decoded hanswer hbody
      constructor
      · intro hnpm
        rw [latest_of_ok hurl hnpm hfetch]
        rfl
      · rintro rfl
        obtain ⟨version, published, hfound, hlatest, hdate⟩ := latest_npm_of_ok hurl hfetch
        cases hfound
        exact ⟨published, by rw [hlatest]; rfl, hdate⟩
  · intro others h
    exact latest_congr h

end CodeHealth.Registry

namespace CodeHealth.Sample

open Registry

/-- A registry that only answers what the latest version of the Node package `react` is. -/
def halfAnswers (url : String) : Answer :=
  if url = "https://registry.npmjs.org/react/latest" then
    .response 200 "\x7b\"version\":\"18.2.0\"\x7d".toList
  else .failed

/-- The document of `halfAnswers` tells the version, and no date. -/
theorem toldBy?_react : toldBy? .npm "react" "\x7b\"version\":\"18.2.0\"\x7d".toList
    = some (some (undated "18.2.0")) := by
  decide +kernel

/-- The version is known from `halfAnswers` without its date, although the second request failed.
What the registry has to say of other packages does not count, and a Maven package without a group
is not asked for. -/
theorem react_known_without_date :
    (latest halfAnswers .npm "react").requests =
      [Request.get "https://registry.npmjs.org/react/latest",
        Request.get "https://registry.npmjs.org/react"] ∧
    (latest halfAnswers .npm "react").outcome = .ok ⟨"18.2.0", none⟩ ∧
    latest (fun url => if url = "https://pypi.org/pypi/react/json" then .failed
      else halfAnswers url) .npm "react" = latest halfAnswers .npm "react" ∧
    latest halfAnswers .maven "react" = ⟨[], .error (.noRelease "react")⟩ := by
  obtain ⟨-, hasks, hothers⟩ := lookups_minimal halfAnswers .npm "react"
  obtain ⟨url, hurl, htwo, -, -, -, -, -, htold⟩ := hasks (by simp)
  have hfirst : url = "https://registry.npmjs.org/react/latest" := by
    cases hurl
    decide
  subst hfirst
  have hanswer : halfAnswers "https://registry.npmjs.org/react/latest"
      = .response 200 "\x7b\"version\":\"18.2.0\"\x7d".toList := if_pos rfl
  have hrequests := htwo ⟨rfl, _, hanswer, by rw [toldBy?_react]; simp⟩
  have hsecond : npmUrl "react" = "https://registry.npmjs.org/react" := by decide
  obtain ⟨published, houtcome, hdate⟩ := (htold _ _ hanswer toldBy?_react).2 rfl
  -- The second request fails, so no date is told.
  have hnone : published = none := by
    refine Option.eq_none_iff_forall_ne_some.mpr fun t ht => ?_
    obtain ⟨_, _, _, hfailed, -⟩ := (hdate t).mp ht
    rw [hsecond] at hfailed
    simp [halfAnswers] at hfailed
  rw [hsecond] at hrequests
  refine ⟨hrequests, hnone ▸ houtcome, hothers _ ?_,
    (lookups_minimal halfAnswers .maven "react").1 ⟨rfl, by decide⟩⟩
  rw [hrequests]
  simp [Request.get]

end CodeHealth.Sample
