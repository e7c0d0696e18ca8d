import CodeHealth.Proofs.Text
import CodeHealth.Text.Words

/-!
# Whole words

A line is cut into words at every character that belongs to no identifier, and what is left empty
between two cuts is dropped. To find a word among them is to find it in the line at a place where no
character of an identifier touches it. The cuts are described first, for any class of characters.

* `Text.IsPiece` — a stretch of a text from one cut to the next;
* `Text.mem_splitClass_iff` — such stretches are what splitting gives, and nothing else is;
* `Text.mem_words_iff` — words are those that are not empty;
* `Text.containsWord_iff_untouched` — searching for a word, told by places of the line.
-/

namespace CodeHealth.Text

variable {p : Char → Bool} {text piece left right : List Char} {c : Char}

/-! ### From one cut to the next -/

/-- A stretch `piece` of a text without characters of the class `p`, with one of them or an end of
the text on either side of it. It may be empty. -/
def IsPiece (p : Char → Bool) (piece text : List Char) : Prop :=
  (∀ c ∈ piece, p c = false) ∧
    ∃ front back, text = front ++ piece ++ back ∧
      (∀ c, front.getLast? = some c → p c = true) ∧ ∀ c, back.head? = some c → p c = true

/-- A text without characters of the class `p` is a piece of itself. -/
theorem IsPiece.self (h : ∀ c ∈ text, p c = false) : IsPiece p text text :=
  ⟨h, [], [], by simp, by simp, by simp⟩

/-- A piece of `left` stays one when a cut `c` and more text follow. -/
theorem IsPiece.append_cons (h : IsPiece p piece left) (hc : p c = true) (right : List Char) :
    IsPiece p piece (left ++ c :: right) := by
  obtain ⟨hclear, front, back, rfl, hfront, hback⟩ := h
  refine ⟨hclear, front, back ++ c :: right, by simp, hfront, fun d hd => ?_⟩
  cases back with
  | nil =>
    rw [List.nil_append, List.head?_cons, Option.some.injEq] at hd
    exact hd ▸ hc
  | cons b back => exact hback d hd

/-- A piece of `right` stays one when text and a cut `c` stand in front. -/
theorem IsPiece.cons_append (h : IsPiece p piece right) (hc : p c = true) (left : List Char) :
    IsPiece p piece (left ++ c :: right) := by
  obtain ⟨hclear, front, back, rfl, hfront, hback⟩ := h
  refine ⟨hclear, left ++ c :: front, back, by simp, fun d hd => ?_, hback⟩
  rw [List.getLast?_append_of_ne_nil _ (List.cons_ne_nil c front), List.getLast?_cons,
    Option.some.injEq] at hd
  cases hlast : front.getLast? with
  | none =>
    rw [hlast, Option.getD_none] at hd
    exact hd ▸ hc
  | some e =>
    rw [hlast, Option.getD_some] at hd
    exact hd ▸ hfront e hlast

/-- `splitClassFrom` keeps what it has `passed` since the last cut; that is the start of a piece. -/
theorem isPiece_of_mem_splitClassFrom {passed : List Char} (hpassed : ∀ c ∈ passed, p c = false)
    (h : piece ∈ splitClassFrom p passed text) : IsPiece p piece (passed.reverse ++ text) := by
  -- What was `passed` has no character of the class, so it is the start of the next piece.
  induction text generalizing passed with
  | nil =>
    rw [splitClassFrom, List.mem_singleton] at h
    rw [h, List.append_nil]
    exact IsPiece.self (by simpa using hpassed)
  | cons c rest ih =>
    rw [splitClassFrom] at h
    split at h
    · rename_i hc
      rcases List.mem_cons.mp h with rfl | hrest
      · have hwhole : IsPiece p passed.reverse passed.reverse :=
          IsPiece.self (by simpa using hpassed)
        exact hwhole.append_cons hc rest
      · have hpiece : IsPiece p piece rest := ih (by simp) hrest
        exact hpiece.cons_append hc passed.reverse
    · rename_i hc
      have hmore : ∀ d ∈ c :: passed, p d = false := by
        intro d hd
        rcases List.mem_cons.mp hd with rfl | hd
        · exact Bool.eq_false_iff.mpr hc
        · exact hpassed d hd
      have hpiece := ih hmore h
      rwa [List.reverse_cons, List.append_assoc, List.singleton_append] at hpiece

/-- Every stretch that `IsPiece` is found by `splitClass`. -/
theorem mem_splitClass_of_isPiece (h : IsPiece p piece text) : piece ∈ splitClass p text := by
  obtain ⟨hclear, front, back, rfl, hfront, hback⟩ := h
  -- The piece is the first one of what the front leaves.
  have hfirst : piece ∈ splitClass p (piece ++ back) := by
    cases back with
    | nil =>
      rw [List.append_nil, splitClass_eq_singleton hclear]
      exact List.mem_singleton_self piece
    | cons c back =>
      rw [splitClass_append_cons (hback c rfl), splitClass_eq_singleton hclear]
      exact List.mem_append_left _ (List.mem_singleton_self piece)
  rcases List.eq_nil_or_concat' front with rfl | ⟨front, c, rfl⟩
  · exact hfirst
  · have hcut : p c = true := hfront c (by simp)
    have htext : front ++ [c] ++ piece ++ back = front ++ c :: (piece ++ back) := by simp
    rw [htext, splitClass_append_cons hcut]
    exact List.mem_append_right _ hfirst

/-- **What splitting gives.** The pieces that `splitClass` gives are the stretches from one cut to
the next (`IsPiece`), empty ones included. -/
theorem mem_splitClass_iff : piece ∈ splitClass p text ↔ IsPiece p piece text := by
  refine ⟨fun h => ?_, mem_splitClass_of_isPiece⟩
  have hnothing : ∀ c ∈ ([] : List Char), p c = false := by simp
  exact isPiece_of_mem_splitClassFrom hnothing h

/-! ### Words -/

/-- The `words` of a line are its pieces between characters that are none of identifiers, empty ones
left out. -/
theorem mem_words_iff {word line : List Char} :
    word ∈ words line ↔ word ≠ [] ∧ IsPiece (fun c => !isIdentifier c) word line := by
  rw [words, List.mem_filter, mem_splitClass_iff, and_comm]
  simp

/-- **A word is found where nothing of an identifier touches it.** A text is among the words of a
line (`containsWord`) iff it is not empty, has only characters of identifiers (`isIdentifier`), and
occurs in the line at a place where no such character stands right before it or right after it. -/
theorem containsWord_iff_untouched (line word : List Char) :
    containsWord line word = true ↔
      word ≠ [] ∧ (∀ c ∈ word, isIdentifier c = true) ∧
        ∃ front back, line = front ++ word ++ back ∧
          (∀ c, front.getLast? = some c → isIdentifier c = false) ∧
          ∀ c, back.head? = some c → isIdentifier c = false := by
  rw [containsWord, List.contains_iff_mem, mem_words_iff]
  simp only [IsPiece, Bool.not_eq_false', Bool.not_eq_true']

example : containsWord "items.each do |x|".toList "do".toList = true ∧
    containsWord "undo() # done".toList "do".toList = false ∧
    containsWord "a |x| do".toList "|x|".toList = false := by decide

end CodeHealth.Text
