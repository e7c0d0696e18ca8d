import CodeHealth.Data.Keyed
import Mathlib.Data.List.Basic
import Mathlib.Data.List.Induction

/-!
# What is kept under each key

`latestOf key found` takes up the entries of `found` one after the other by `putLatest key`. All its
lemmas follow from what one step keeps, by induction on `found` from its end:

* `mem_putLatest`, `latestOf_concat` — one step: the entry that comes, and the earlier ones under
  other keys;
* `mem_latestOf_iff` — an entry is kept iff no later one has its key;
* `pairwise_latestOf` — so no key is kept twice;
* `exists_mem_latestOf` — and no key is lost;
* `latestOf_eq_self` — a list without a key that comes twice is kept as it is.
-/

namespace CodeHealth

variable {α κ : Type} [BEq κ] {key : α → κ} {found kept : List α} {a last : α}

/-- The step of `latestOf`: an entry at the end of `found` is put in by `putLatest`. -/
theorem latestOf_concat (key : α → κ) (found : List α) (last : α) :
    latestOf key (found ++ [last]) = putLatest key (latestOf key found) last := by
  rw [latestOf, List.foldl_append]
  rfl

variable [LawfulBEq κ]

/-- After `putLatest key kept last` there are `last` itself and the entries of `kept` whose key is
not that of `last`. -/
theorem mem_putLatest : a ∈ putLatest key kept last ↔ (a ∈ kept ∧ key a ≠ key last) ∨ a = last := by
  rw [putLatest, List.mem_append, List.mem_filter, List.mem_singleton, bne_iff_ne]

/-- **What is kept is the last under its key**: `latestOf key found` holds `a` iff `a` stands in
`found` at some place behind which no entry has its key. -/
theorem mem_latestOf_iff : a ∈ latestOf key found ↔
    ∃ before after, found = before ++ a :: after ∧ ∀ b ∈ after, key b ≠ key a := by
  induction found using List.reverseRecOn with
  | nil => simp [latestOf]
  | append_singleton found last ih =>
    rw [latestOf_concat, mem_putLatest, ih]
    constructor
    · rintro (⟨⟨before, after, rfl, hafter⟩, hkey⟩ | rfl)
      · refine ⟨before, after ++ [last], by simp, fun b hb => ?_⟩
        rcases List.mem_append.mp hb with hb | hb
        · exact hafter b hb
        · rw [List.mem_singleton.mp hb]
          exact hkey.symm
      · exact ⟨found, [], rfl, fun b hb => absurd hb List.not_mem_nil⟩
    · rintro ⟨before, after, heq, hafter⟩
      -- The place of `a` is the last one or stands in `found`.
      rcases List.eq_nil_or_concat' after with rfl | ⟨after, c, rfl⟩
      · obtain ⟨-, hlast⟩ := List.append_inj' heq rfl
        exact .inr (List.cons.inj hlast).1.symm
      · have heq' : found ++ [last] = (before ++ a :: after) ++ [c] := by
          rw [heq]
          simp
        obtain ⟨rfl, hc⟩ := List.append_inj' heq' rfl
        obtain rfl : last = c := (List.cons.inj hc).1
        refine .inl ⟨⟨before, after, rfl, fun b hb => hafter b ?_⟩, ?_⟩
        · exact List.mem_append_left _ hb
        · exact (hafter last (by simp)).symm

/-- Nothing is kept by `latestOf` that is not in `found`. -/
theorem mem_of_mem_latestOf (h : a ∈ latestOf key found) : a ∈ found := by
  obtain ⟨before, after, rfl, -⟩ := mem_latestOf_iff.mp h
  exact List.mem_append_right _ List.mem_cons_self

/-- No key is kept twice: the entries of `latestOf key found` have different keys. -/
theorem pairwise_latestOf (key : α → κ) (found : List α) :
    (latestOf key found).Pairwise fun a b => key a ≠ key b := by
  induction found using List.reverseRecOn with
  | nil => exact List.Pairwise.nil
  | append_singleton found last ih =>
    rw [latestOf_concat]
    refine List.pairwise_append.mpr ⟨ih.filter _, List.pairwise_singleton _ _, fun a ha b hb => ?_⟩
    rw [List.mem_singleton.mp hb]
    exact bne_iff_ne.mp (List.mem_filter.mp ha).2

/-- No key is lost: an entry `a` of `found` that is not kept has made room for one with its key. -/
theorem exists_mem_latestOf (key : α → κ) (h : a ∈ found) :
    ∃ b ∈ latestOf key found, key b = key a := by
  induction found using List.reverseRecOn with
  | nil => exact absurd h List.not_mem_nil
  | append_singleton found last ih =>
    rw [latestOf_concat]
    by_cases hkey : key a = key last
    · exact ⟨last, mem_putLatest.mpr (.inr rfl), hkey.symm⟩
    · have ha : a ∈ found := by
        refine (List.mem_append.mp h).resolve_right fun hlast => hkey ?_
        rw [List.mem_singleton.mp hlast]
      obtain ⟨b, hb, hsame⟩ := ih ha
      exact ⟨b, mem_putLatest.mpr (.inl ⟨hb, hsame ▸ hkey⟩), hsame⟩

/-- Where the entries of `found` have different keys, `latestOf` keeps all of them, in order. -/
theorem latestOf_eq_self (h : found.Pairwise fun a b => key a ≠ key b) :
    latestOf key found = found := by
  induction found using List.reverseRecOn with
  | nil => rfl
  | append_singleton found last ih =>
    obtain ⟨hfound, -, hlast⟩ := List.pairwise_append.mp h
    have hother : ∀ a ∈ found, (key a != key last) = true := fun a ha =>
      bne_iff_ne.mpr (hlast a ha last (List.mem_singleton.mpr rfl))
    rw [latestOf_concat, ih hfound, putLatest, List.filter_eq_self.mpr hother]

end CodeHealth
