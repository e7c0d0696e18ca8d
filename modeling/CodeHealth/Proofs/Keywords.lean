import CodeHealth.Outline.Ruby
import CodeHealth.Proofs.Text

/-!
# Bodies by keywords

In Ruby the body of a method ends before the word that closes it. Each line on the way opens a
block, closes one or does neither, and the search for the end keeps the number of blocks that are
open. Blocks that are properly nested leave this number as it was, so the search comes to the
terminator of the method with its own block open and no other.

* `Outline.isIgnored_trim_iff` — the lines that the blocks of Ruby take no notice of;
* `Outline.WellNested` — bodies in which every block that is opened is closed;
* `Outline.keywordLines_wellNested` — such a body is passed, whatever blocks are open around it;
* `Outline.findSpan_wellNested` — the span of a method with such a body.
-/

namespace CodeHealth

namespace Outline

open CodeHealth.Text

variable {indent : Nat} {depth : Int} {line : List Char} {rest : List (List Char)}

/-! ### One line of a body -/

section Steps

variable {blocks : KeywordBlocks}

/-- A line that the blocks ignore, which is a blank line or a comment, is passed, and the same
blocks stay open (`depth`). -/
theorem keywordLines_ignored (h : blocks.isIgnored (trim line) = true) :
    keywordLines blocks indent depth (line :: rest)
      = keywordLines blocks indent depth rest + 1 := by
  rw [keywordLines]
  exact if_pos h

theorem keywordLines_plain (hcloses : blocks.isTerminator (trim line) = false)
    (hopens : ¬ (indent < indentation line ∧ blocks.opensBlock (trim line) = true)) :
    keywordLines blocks indent depth (line :: rest)
      = keywordLines blocks indent depth rest + 1 := by
  have hpassed :
      ¬ (decide (indent < indentation line) && blocks.opensBlock (trim line)) = true := by
    rwa [Bool.and_eq_true, decide_eq_true_eq]
  simp only [keywordLines, hcloses, Bool.false_eq_true, if_false, if_neg hpassed, ite_self]

/-- A line that opens a block adds one to the `depth`, if it is deeper than the declaration
(`hdeeper`) and neither ignored nor a terminator. -/
theorem keywordLines_opener (hseen : blocks.isIgnored (trim line) = false)
    (hcloses : blocks.isTerminator (trim line) = false) (hdeeper : indent < indentation line)
    (hopens : blocks.opensBlock (trim line) = true) :
    keywordLines blocks indent depth (line :: rest)
      = keywordLines blocks indent (depth + 1) rest + 1 := by
  simp [keywordLines, hseen, hcloses, hdeeper, hopens]

/-- While an inner block is open (`1 < depth`), a terminator closes it, however it is indented: the
indentation counts for the last terminator only. -/
theorem keywordLines_inner_terminator (hseen : blocks.isIgnored (trim line) = false)
    (hcloses : blocks.isTerminator (trim line) = true) (hdepth : 1 < depth) :
    keywordLines blocks indent depth (line :: rest)
      = keywordLines blocks indent (depth - 1) rest + 1 := by
  have hopen : ¬ depth - 1 ≤ 0 := by omega
  simp [keywordLines, hseen, hcloses, hopen]

/-- With no inner block open (`depth` one), a terminator no deeper than the declaration (`hindent`)
ends the body, and is not part of it. -/
theorem keywordLines_last_terminator (hseen : blocks.isIgnored (trim line) = false)
    (hcloses : blocks.isTerminator (trim line) = true) (hindent : indentation line ≤ indent) :
    keywordLines blocks indent 1 (line :: rest) = 0 := by
  simp [keywordLines, hseen, hcloses, hindent]

end Steps

/-! ### The lines of Ruby -/

/-- The blocks of Ruby take no notice of blank lines and of comments, whose first character that is
not white space is `#`. -/
theorem isIgnored_trim_iff :
    rubyBlocks.isIgnored (trim line) = true ↔ isBlank line = true ∨ firstInk? line = some '#' := by
  rw [← firstInk?_eq_none_iff, ← head?_trim]
  cases trim line with
  | nil => simp [KeywordBlocks.isIgnored]
  | cons c rest => simp [KeywordBlocks.isIgnored, rubyBlocks, @eq_comm Char '#' c]

theorem isIgnored_trim_eq_false {c : Char} (hfirst : firstInk? line = some c) (hc : c ≠ '#') :
    rubyBlocks.isIgnored (trim line) = false := by
  rw [← Bool.not_eq_true, isIgnored_trim_iff, ← firstInk?_eq_none_iff, hfirst]
  simpa using hc

/-- A terminator starts with the word `end`, so it is no comment and is not ignored. -/
theorem isIgnored_of_terminator (h : rubyBlocks.isTerminator (trim line) = true) :
    rubyBlocks.isIgnored (trim line) = false := by
  refine isIgnored_trim_eq_false (c := 'e') ?_ (by decide)
  rw [← head?_trim]
  cases htrim : trim line with
  | nil => simp [htrim, KeywordBlocks.isTerminator, stripStart, rubyBlocks] at h
  | cons c rest =>
    by_cases hc : c = 'e'
    · rw [hc, List.head?_cons]
    · simp [htrim, KeywordBlocks.isTerminator, stripStart, rubyBlocks, Ne.symm hc] at h

/-- A line of Ruby with the mark of a block's start, below a declaration that is indented by
`indent`. Comments are not told apart: see `StartsBlock`. -/
structure HasOpener (indent : Nat) (line : List Char) : Prop where
  /-- It stands deeper than the declaration. -/
  deeper : indent < indentation line
  /-- It has a word that opens a block. -/
  opens : rubyBlocks.opensBlock (trim line) = true
  /-- It is no terminator. -/
  unclosing : rubyBlocks.isTerminator (trim line) = false

/-- A line that starts a block: it `HasOpener` and is no comment. -/
structure StartsBlock (indent : Nat) (line : List Char) : Prop extends HasOpener indent line where
  uncommented : firstInk? line ≠ some '#'

/-- A line that `StartsBlock` is not ignored. -/
theorem StartsBlock.isIgnored (h : StartsBlock indent line) :
    rubyBlocks.isIgnored (trim line) = false := by
  cases hfirst : firstInk? line with
  | some c => exact isIgnored_trim_eq_false hfirst fun hc => h.uncommented (hc ▸ hfirst)
  | none =>
    -- A blank line has no words, so it opens nothing.
    rw [← head?_trim, List.head?_eq_none_iff] at hfirst
    have hopens := h.opens
    rw [hfirst] at hopens
    exact absurd hopens (by decide)

/-! ### Properly nested bodies -/

/-- Bodies below a declaration that is indented by `indent`, made of blank lines, comments, plain
lines, and blocks from a line with the property `Opener` to a terminator that may be indented in any
way. -/
inductive WellNested (indent : Nat) (Opener : List Char → Prop) : List (List Char) → Prop where
  | nil : WellNested indent Opener []
  | blank {line : List Char} {rest : List (List Char)} (hblank : isBlank line = true)
      (hrest : WellNested indent Opener rest) : WellNested indent Opener (line :: rest)
  | comment {line : List Char} {rest : List (List Char)} (hcomment : firstInk? line = some '#')
      (hrest : WellNested indent Opener rest) : WellNested indent Opener (line :: rest)
  | plain {line : List Char} {rest : List (List Char)}
      (hcloses : rubyBlocks.isTerminator (trim line) = false)
      (hopens : ¬ (indent < indentation line ∧ rubyBlocks.opensBlock (trim line) = true))
      (hrest : WellNested indent Opener rest) : WellNested indent Opener (line :: rest)
  | block {opener terminator : List Char} {body rest : List (List Char)} (hopener : Opener opener)
      (hbody : WellNested indent Opener body)
      (hterminator : rubyBlocks.isTerminator (trim terminator) = true)
      (hrest : WellNested indent Opener rest) :
      WellNested indent Opener (opener :: (body ++ terminator :: rest))

/-- **A properly nested body is passed**, and the same blocks are open after it as before: the
induction follows the constructors of `WellNested`. -/
theorem keywordLines_wellNested {body : List (List Char)}
    (h : WellNested indent (StartsBlock indent) body) (hdepth : 1 ≤ depth)
    (rest : List (List Char)) :
    keywordLines rubyBlocks indent depth (body ++ rest)
      = body.length + keywordLines rubyBlocks indent depth rest := by
  induction h generalizing depth rest with
  | nil => simp
  | blank hblank _ ih =>
    rw [List.cons_append, keywordLines_ignored (isIgnored_trim_iff.mpr (.inl hblank)),
      ih hdepth rest, List.length_cons]
    omega
  | comment hcomment _ ih =>
    rw [List.cons_append, keywordLines_ignored (isIgnored_trim_iff.mpr (.inr hcomment)),
      ih hdepth rest, List.length_cons]
    omega
  | plain hcloses hopens _ ih =>
    rw [List.cons_append, keywordLines_plain hcloses hopens, ih hdepth rest, List.length_cons]
    omega
  | @block opener terminator body later hopener _ hterminator _ ihbody ihlater =>
    -- Inside the block one more is open, so its terminator is not taken for that of the method.
    have hinner : 1 < depth + 1 := by omega
    have hback : depth + 1 - 1 = depth := by omega
    rw [List.cons_append, List.append_assoc, List.cons_append,
      keywordLines_opener hopener.isIgnored hopener.unclosing hopener.deeper hopener.opens,
      ihbody (Int.le_of_lt hinner),
      keywordLines_inner_terminator (isIgnored_of_terminator hterminator) hterminator hinner,
      hback, ihlater hdepth rest, List.length_cons, List.length_append, List.length_cons]
    omega

/-- **Spans of properly nested methods are exact.** A `body` in which every block that a line other
than a comment starts is closed (`hbody`), with a `terminator` after it that stands no deeper than
the declaration, is the body that is found, whatever stands `before` and `after`. -/
theorem findSpan_wellNested {declaration terminator : List Char} {body : List (List Char)}
    (hbody : WellNested (indentation declaration) (StartsBlock (indentation declaration)) body)
    (hterminator : rubyBlocks.isTerminator (trim terminator) = true)
    (hindent : indentation terminator ≤ indentation declaration)
    (before after : List (List Char)) :
    findSpan (.keywords rubyBlocks) (before ++ declaration :: (body ++ terminator :: after))
        before.length
      = ⟨before.length + 1, before.length + 1 + body.length, true⟩ := by
  have hlines : keywordLines rubyBlocks (indentation declaration) 1 (body ++ terminator :: after)
      = body.length := by
    rw [keywordLines_wellNested hbody (Int.le_refl 1),
      keywordLines_last_terminator (isIgnored_of_terminator hterminator) hterminator hindent,
      Nat.add_zero]
  rw [findSpan, List.drop_left, Style.extent, hlines, ← Nat.add_assoc]

end Outline

namespace Sample

open Outline Text

/-- The declaration of a method in a class. -/
def nestedMethod : List Char := "  def f".toList

/-- The body of `nestedMethod` with a block in a block, whose terminator stands far to the left, and
a comment that looks like the start of a block. -/
def nestedBlocks : List (List Char) :=
  ["    items.each do |i|", "      # if this were code", "", "      if i", "end", "    end",
    "    return 1 if done"].map String.toList

/-- The body `nestedBlocks` is properly nested: the comment in it starts no block. -/
theorem nestedBlocks_wellNested :
    WellNested (indentation nestedMethod) (StartsBlock (indentation nestedMethod))
      nestedBlocks := by
  have houter : StartsBlock 2 "    items.each do |i|".toList :=
    ⟨⟨by decide +kernel, by decide +kernel, by decide +kernel⟩, by decide +kernel⟩
  have hinner : StartsBlock 2 "      if i".toList :=
    ⟨⟨by decide +kernel, by decide +kernel, by decide +kernel⟩, by decide +kernel⟩
  -- The inner block stands between the comment, the blank line and the end of the outer block.
  have hbody : WellNested 2 (StartsBlock 2)
      ["      # if this were code".toList, [], "      if i".toList, "end".toList] :=
    .comment (by decide +kernel) (.blank rfl (.block hinner .nil (by decide +kernel) .nil))
  exact .block houter hbody (by decide +kernel)
    (.plain (by decide +kernel) (by decide +kernel) .nil)

/-- The span of `nestedMethod` ends at its own terminator, two lines before the end of the class. -/
theorem nestedBlocks_span :
    WellNested (indentation nestedMethod) (StartsBlock (indentation nestedMethod)) nestedBlocks ∧
      rubyBlocks.isTerminator (trim "  end".toList) = true ∧
      indentation "  end".toList ≤ indentation nestedMethod ∧
      findSpan (.keywords rubyBlocks) (["class A".toList] ++
          nestedMethod :: (nestedBlocks ++ "  end".toList :: ["end".toList])) 1
        = ⟨2, 9, true⟩ := by
  have hterminator : rubyBlocks.isTerminator (trim "  end".toList) = true := by decide +kernel
  have hindent : indentation "  end".toList ≤ indentation nestedMethod := by decide +kernel
  exact ⟨nestedBlocks_wellNested, hterminator, hindent,
    findSpan_wellNested nestedBlocks_wellNested hterminator hindent ["class A".toList]
      ["end".toList]⟩

/-- A comment with an opener and a terminator, which would be a block if comments could start one,
as with `HasOpener`. -/
def commentedOpener : List (List Char) := ["  # do".toList, "end".toList]

/-- A comment that has an opener starts no block: the method with the body `commentedOpener` and a
terminator after it ends at the first of the two terminators. With `HasOpener` in place of
`StartsBlock` the body would be well nested. -/
theorem commentedOpener_cut_short :
    WellNested (indentation "def f".toList) (HasOpener (indentation "def f".toList))
        commentedOpener ∧
      rubyBlocks.isTerminator (trim "end".toList) = true ∧
      indentation "end".toList ≤ indentation "def f".toList ∧
      findSpan (.keywords rubyBlocks)
          ("def f".toList :: (commentedOpener ++ "end".toList :: [])) 0 = ⟨1, 2, true⟩ ∧
      1 + commentedOpener.length ≠ 2 := by
  have hopener : HasOpener (indentation "def f".toList) "  # do".toList :=
    ⟨by decide +kernel, by decide +kernel, by decide +kernel⟩
  refine ⟨.block hopener .nil ?_ .nil, ?_, ?_, ?_, ?_⟩ <;> decide +kernel

end Sample

end CodeHealth
