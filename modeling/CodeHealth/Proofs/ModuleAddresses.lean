import CodeHealth.Dependency.Registry

/-!
# Go modules in addresses

A Go module is asked for under its own path, in which every capital letter is written as an
exclamation mark and the small letter. A module path has no exclamation mark of its own, so that
reading those pairs as capital letters gives the path back, and modules whose paths differ only in
capital letters have different addresses.

* `Registry.unescapeModule` — reads the pairs back;
* `Registry.isUpper_of_mem_escapeModule` — no capital letter is left;
* `Registry.unescapeModule_escapeModule` — reading undoes writing;
* `Registry.goModules_have_own_addresses` — different modules are asked for at different addresses.
-/

namespace CodeHealth.Text

variable {c : Char}

/-! ### Capital letters and small ones -/

/-- `Char.isUpper` by code points: the capital letters are those from 65 to 90. -/
theorem isUpper_iff : c.isUpper = true ↔ 65 ≤ c.toNat ∧ c.toNat ≤ 90 :=
  decide_eq_true_iff

/-- `Char.isLower` by code points: the small letters are those from 97 to 122. -/
theorem isLower_iff : c.isLower = true ↔ 97 ≤ c.toNat ∧ c.toNat ≤ 122 := by
  show (decide ('a'.val ≤ c.val) && decide (c.val ≤ 'z'.val)) = true ↔ _
  rw [Bool.and_eq_true, decide_eq_true_iff, decide_eq_true_iff]
  rfl

/-- The test that `escapeModule` makes of a letter is `Char.isUpper`. -/
theorem isCapital_eq_isUpper (c : Char) : (decide ('A' ≤ c) && decide (c ≤ 'Z')) = c.isUpper := by
  show _ = decide ('A'.val ≤ c.val ∧ c.val ≤ 'Z'.val)
  rw [Bool.decide_and]
  rfl

/-- `asciiLower` moves a capital letter up by 32 code points. -/
theorem toNat_asciiLower (h : c.isUpper = true) : (asciiLower c).toNat = c.toNat + 32 := by
  have hrange := isUpper_iff.mp h
  have hvalid : (c.toNat + 32).isValidChar := Or.inl (by omega)
  rw [asciiLower, isCapital_eq_isUpper, if_pos h, Char.ofNat, dif_pos hvalid]
  rfl

/-- `Char.toUpper` moves a small letter down by 32 code points. -/
theorem toNat_toUpper (h : c.isLower = true) : c.toUpper.toNat + 32 = c.toNat := by
  have hrange : 97 ≤ c.val.toNat ∧ c.val.toNat ≤ 122 := isLower_iff.mp h
  have hlower : 'a'.val ≤ c.val ∧ c.val ≤ 'z'.val := hrange
  have hval : c.toUpper.val = c.val + ('A'.val - 'a'.val) := by
    delta Char.toUpper
    rw [dif_pos hlower]
  -- The distance between the cases is added modulo the size of a word.
  have hdistance : ('A'.val - 'a'.val).toNat = 4294967264 := rfl
  show c.toUpper.val.toNat + 32 = c.val.toNat
  rw [hval, UInt32.toNat_add, hdistance]
  omega

/-- `asciiLower` makes a small letter of a capital one. -/
theorem isLower_asciiLower (h : c.isUpper = true) : (asciiLower c).isLower = true := by
  have hrange := isUpper_iff.mp h
  rw [isLower_iff, toNat_asciiLower h]
  omega

/-- What `asciiLower` makes of a capital letter is none any more. -/
theorem isUpper_asciiLower (h : c.isUpper = true) : (asciiLower c).isUpper = false := by
  have hrange := isUpper_iff.mp h
  rw [Bool.eq_false_iff, Ne, isUpper_iff, toNat_asciiLower h]
  omega

/-- `Char.toUpper` undoes `asciiLower` on capital letters. -/
theorem toUpper_asciiLower (h : c.isUpper = true) : (asciiLower c).toUpper = c := by
  have hlower := toNat_asciiLower h
  have hupper := toNat_toUpper (isLower_asciiLower h)
  exact Char.toNat_inj.mp (by omega)

end CodeHealth.Text

namespace CodeHealth.Registry

open CodeHealth.Text

variable {c : Char} {path : List Char}

/-! ### Writing -/

/-- `escapeModule` writes a capital letter as an exclamation mark and the small letter. -/
theorem escapeModule_cons_of_isUpper (h : c.isUpper = true) (rest : List Char) :
    escapeModule (c :: rest) = '!' :: asciiLower c :: escapeModule rest := by
  rw [escapeModule, isCapital_eq_isUpper, if_pos h]

/-- `escapeModule` leaves all else as it is, letters of other alphabets of either case among it. -/
theorem escapeModule_cons_of_not_isUpper (h : c.isUpper = false) (rest : List Char) :
    escapeModule (c :: rest) = c :: escapeModule rest := by
  rw [escapeModule, isCapital_eq_isUpper, if_neg (Bool.eq_false_iff.mp h)]

/-- What `escapeModule` writes has no capital letter in it, by induction on the `path`. -/
theorem isUpper_of_mem_escapeModule (h : c ∈ escapeModule path) : c.isUpper = false := by
  induction path with
  | nil => cases h
  | cons d rest ih =>
    cases hd : d.isUpper with
    | true =>
      rw [escapeModule_cons_of_isUpper hd, List.mem_cons, List.mem_cons] at h
      rcases h with rfl | rfl | hrest
      · decide
      · exact isUpper_asciiLower hd
      · exact ih hrest
    | false =>
      rw [escapeModule_cons_of_not_isUpper hd, List.mem_cons] at h
      rcases h with rfl | hrest
      · exact hd
      · exact ih hrest

/-! ### Reading back -/

/-- A module path read back from an address: an exclamation mark and a small letter after it are the
capital letter. This is the inverse that `escapeModule` is compared with. -/
def unescapeModule : List Char → List Char
  | [] => []
  | [c] => [c]
  | c :: d :: rest =>
    if c = '!' ∧ d.isLower = true then d.toUpper :: unescapeModule rest
    else c :: unescapeModule (d :: rest)

/-- `unescapeModule` reads an exclamation mark and a small letter as the capital letter. -/
theorem unescapeModule_pair (h : c.isLower = true) (rest : List Char) :
    unescapeModule ('!' :: c :: rest) = c.toUpper :: unescapeModule rest := by
  rw [unescapeModule, if_pos ⟨rfl, h⟩]

/-- `unescapeModule` reads any other character as itself. -/
theorem unescapeModule_cons_of_ne (h : c ≠ '!') (rest : List Char) :
    unescapeModule (c :: rest) = c :: unescapeModule rest := by
  cases rest with
  | nil => rfl
  | cons d rest => rw [unescapeModule, if_neg fun hpair => h hpair.1]

/-- `unescapeModule` undoes `escapeModule`, letter by letter, on a `path` without exclamation marks:
what is not a capital letter is no exclamation mark either, and starts no pair. -/
theorem unescapeModule_escapeModule (h : '!' ∉ path) :
    unescapeModule (escapeModule path) = path := by
  induction path with
  | nil => rfl
  | cons c rest ih =>
    rw [List.mem_cons, not_or] at h
    obtain ⟨hc, hrest⟩ := h
    cases hupper : c.isUpper with
    | true =>
      rw [escapeModule_cons_of_isUpper hupper, unescapeModule_pair (isLower_asciiLower hupper),
        toUpper_asciiLower hupper, ih hrest]
    | false =>
      rw [escapeModule_cons_of_not_isUpper hupper, unescapeModule_cons_of_ne (Ne.symm hc),
        ih hrest]

/-! ### Addresses -/

variable {package other : String}

/-- `escapeModule` is injective on packages without exclamation marks, as it can be undone. -/
theorem eq_of_escapeModule_eq (hpackage : '!' ∉ package.toList) (hother : '!' ∉ other.toList)
    (h : escapeModule package.toList = escapeModule other.toList) : package = other := by
  apply String.toList_inj.mp
  calc package.toList
      = unescapeModule (escapeModule package.toList) := (unescapeModule_escapeModule hpackage).symm
    _ = unescapeModule (escapeModule other.toList) := by rw [h]
    _ = other.toList := unescapeModule_escapeModule hother

/-- The address `goUrl` of a package, with what `escapeModule` writes as a part of its own. -/
theorem goUrl_eq (package : String) : goUrl package
    = "https://proxy.golang.org/" ++ String.ofList (escapeModule package.toList) ++ "/@latest" :=
  rfl

/-- The address `goUrl` determines what `escapeModule` has written, as the text around it is
fixed. -/
theorem escapeModule_eq_of_goUrl_eq (h : goUrl package = goUrl other) :
    escapeModule package.toList = escapeModule other.toList := by
  rw [goUrl_eq, goUrl_eq, String.append_left_inj, String.append_right_inj, String.ofList_inj] at h
  exact h

/-- **Every Go module has an address of its own.** For module paths, which have no exclamation mark
(`hpackage`, `hother`): what `escapeModule` writes determines the path, it has no capital letter,
and `unescapeModule`, which reads each exclamation mark and small letter as a capital letter, gives
the path back. A lookup makes one request, at `goUrl`, and those for different modules go to
different addresses. -/
theorem goModules_have_own_addresses (hpackage : '!' ∉ package.toList)
    (hother : '!' ∉ other.toList) :
    (escapeModule package.toList = escapeModule other.toList → package = other) ∧
    (∀ c ∈ escapeModule package.toList, c.isUpper = false) ∧
    unescapeModule (escapeModule package.toList) = package.toList ∧
    (∀ answers, (latest answers .goProxy package).requests = [Request.get (goUrl package)]) ∧
    (package ≠ other → goUrl package ≠ goUrl other) := by
  refine ⟨eq_of_escapeModule_eq hpackage hother, fun c hc => isUpper_of_mem_escapeModule hc,
    unescapeModule_escapeModule hpackage, fun _ => rfl, fun hne hurl => hne ?_⟩
  exact eq_of_escapeModule_eq hpackage hother (escapeModule_eq_of_goUrl_eq hurl)

/-- With an exclamation mark of its own, a path can be written like another one. -/
example : escapeModule "!a".toList = escapeModule "A".toList := by decide

end CodeHealth.Registry

namespace CodeHealth.Sample

open Registry

/-- Two modules that differ only in capital letters have addresses `goUrl` that differ. -/
theorem capitals_told_apart :
    '!' ∉ "github.com/BurntSushi/toml".toList ∧ '!' ∉ "github.com/burntsushi/toml".toList ∧
    escapeModule "github.com/BurntSushi/toml".toList = "github.com/!burnt!sushi/toml".toList ∧
    unescapeModule "github.com/!burnt!sushi/toml".toList = "github.com/BurntSushi/toml".toList ∧
    goUrl "github.com/BurntSushi/toml" ≠ goUrl "github.com/burntsushi/toml" := by
  have hcapitals : '!' ∉ "github.com/BurntSushi/toml".toList := by decide
  have hsmall : '!' ∉ "github.com/burntsushi/toml".toList := by decide
  have hwritten : escapeModule "github.com/BurntSushi/toml".toList
      = "github.com/!burnt!sushi/toml".toList := by decide
  obtain ⟨-, -, hread, -, happart⟩ := goModules_have_own_addresses hcapitals hsmall
  rw [hwritten] at hread
  exact ⟨hcapitals, hsmall, hwritten, hread, happart (by decide)⟩

end CodeHealth.Sample
