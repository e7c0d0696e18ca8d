import CodeHealth.Path
import Mathlib.Algebra.Ring.Nat

/-!
# The order of names and the order of their bytes

Names are compared character by character, while a disk compares the bytes that it stores for them.
Both give the same order, because a character with a greater number has greater bytes, and the bytes
of no character are the start of another one's.

* `utf8` — the bytes of a text;
* `trail`, `trail_append_lt` — the bytes of a character after its first, as digits of its number;
* `encodeChar_append_lt` — a smaller character has smaller bytes, whatever follows;
* `utf8_lt_iff`, `map_utf8_lt` — texts are ordered as their bytes are, and so are chains of them.
-/

namespace CodeHealth.Text

/-- The bytes of a text: those of its characters, one after the other. They decide the order of
names. -/
def utf8 (text : List Char) : List UInt8 := text.flatMap String.utf8EncodeChar

/-! ### The bytes of one character -/

/-- The bytes of a character after the first one: the last `k` digits of its number to the base of
64, each with the mark `0x80`. -/
def trail : Nat → Nat → List UInt8
  | 0, _ => []
  | k + 1, v => trail k (v / 64) ++ [UInt8.ofNat (v % 64 + 0x80)]

theorem ofNat_lt_ofNat {a b : Nat} (h : a < b) (hb : b < 256) : UInt8.ofNat a < UInt8.ofNat b := by
  rw [UInt8.lt_iff_toNat_lt, UInt8.toNat_ofNat', UInt8.toNat_ofNat']
  omega

/-- Of two numbers with the same digits before the last `k` ones (`hsame`), the smaller one has the
smaller `trail`, whatever bytes `s` and `t` come after. -/
theorem trail_append_lt (k : Nat) {v w : Nat} (h : v < w) (hsame : v / 64 ^ k = w / 64 ^ k)
    (s t : List UInt8) : trail k v ++ s < trail k w ++ t := by
  induction k generalizing v w s t with
  | zero =>
    rw [Nat.pow_zero, Nat.div_one, Nat.div_one] at hsame
    omega
  | succ k ih =>
    simp only [trail, List.append_assoc, List.singleton_append]
    rw [Nat.pow_succ', ← Nat.div_div_eq_div_mul, ← Nat.div_div_eq_div_mul] at hsame
    rcases Nat.lt_or_ge (v / 64) (w / 64) with hlt | hge
    · exact ih hlt hsame _ _
    · -- All digits but the last one are the same.
      have heq : v / 64 = w / 64 := by omega
      rw [heq]
      refine List.append_left_lt (List.cons_lt_cons_iff.mpr (.inl ?_))
      exact ofNat_lt_ofNat (by omega) (by omega)

/-- How many bytes come after the first one of the character with the number `v`. -/
def trailLength (v : Nat) : Nat :=
  if v ≤ 0x7F then 0 else if v ≤ 0x7FF then 1 else if v ≤ 0xFFFF then 2 else 3

/-- What is added to the first byte of a character, given the number of bytes after it. -/
def leadMark : Nat → Nat
  | 0 => 0
  | 1 => 0xC0
  | 2 => 0xE0
  | _ => 0xF0

/-- The first byte of the character with the number `v`: its digits before those of `trail`, with
the `leadMark`. -/
def lead (v : Nat) : Nat := v / 64 ^ trailLength v + leadMark (trailLength v)

/-- The number of a character is below `0x110000`, so four bytes are enough for it. -/
theorem toNat_val_lt (c : Char) : c.val.toNat < 0x110000 := by
  have hvalid := c.valid
  unfold UInt32.isValidChar Nat.isValidChar at hvalid
  omega

/-- The bytes of a character are its `lead` and its `trail`. This is where the encoding itself is
unfolded; the lemmas after it only know these two. -/
theorem utf8EncodeChar_eq (c : Char) : String.utf8EncodeChar c
    = UInt8.ofNat (lead c.val.toNat) :: trail (trailLength c.val.toNat) c.val.toNat := by
  have hbound := toNat_val_lt c
  unfold String.utf8EncodeChar lead trailLength
  simp only
  generalize c.val.toNat = v at *
  split
  · simp [trail, leadMark]
  · split
    · simp [trail, leadMark, Nat.mod_eq_of_lt (show v / 64 < 32 by omega)]
    · split
      · simp [trail, leadMark, Nat.mod_eq_of_lt (show v / 4096 < 16 by omega)]
      · simp [trail, leadMark, Nat.div_div_eq_div_mul,
          Nat.mod_eq_of_lt (show v / 262144 < 8 by omega)]

/-- The four kinds of characters by the number of their bytes, with `trailLength` and `lead`
computed for each. -/
theorem lead_cases (v : Nat) :
    (v ≤ 0x7F ∧ trailLength v = 0 ∧ lead v = v) ∨
    (0x7F < v ∧ v ≤ 0x7FF ∧ trailLength v = 1 ∧ lead v = v / 64 + 0xC0) ∨
    (0x7FF < v ∧ v ≤ 0xFFFF ∧ trailLength v = 2 ∧ lead v = v / 4096 + 0xE0) ∨
    (0xFFFF < v ∧ trailLength v = 3 ∧ lead v = v / 262144 + 0xF0) := by
  unfold lead trailLength
  split
  · simp [leadMark]
    omega
  · split
    · simp [leadMark]
      omega
    · split
      · simp [leadMark]
        omega
      · simp [leadMark]
        omega

/-- A greater number has a greater `lead`, unless it has as many bytes and the same digits before
those of `trail`. Either way its `lead` is a byte. -/
theorem lead_lt_or {v w : Nat} (h : v < w) (hw : w < 0x110000) :
    lead w < 256 ∧ (lead v < lead w ∨ lead v = lead w ∧ trailLength v = trailLength w ∧
      v / 64 ^ trailLength w = w / 64 ^ trailLength w) := by
  -- Characters with more bytes have greater first bytes, so only those of one kind are compared.
  rcases lead_cases v with ⟨_, hk, hv⟩ | ⟨_, _, hk, hv⟩ | ⟨_, _, hk, hv⟩ | ⟨_, hk, hv⟩ <;>
    rcases lead_cases w with ⟨_, hl, hw'⟩ | ⟨_, _, hl, hw'⟩ | ⟨_, _, hl, hw'⟩ | ⟨_, hl, hw'⟩ <;>
    simp only [hk, hl, hv, hw', Nat.reducePow, true_and] <;> omega

/-- **A smaller character has smaller bytes**, whatever bytes `s` and `t` come after them: by its
`lead` or else by its `trail`. -/
theorem encodeChar_append_lt {c d : Char} (h : c < d) (s t : List UInt8) :
    String.utf8EncodeChar c ++ s < String.utf8EncodeChar d ++ t := by
  have hnumbers : c.val.toNat < d.val.toNat := h
  rw [utf8EncodeChar_eq, utf8EncodeChar_eq, List.cons_append, List.cons_append,
    List.cons_lt_cons_iff]
  obtain ⟨hbyte, hless | ⟨hlead, hlength, hdigits⟩⟩ := lead_lt_or hnumbers (toNat_val_lt d)
  · exact .inl (ofNat_lt_ofNat hless hbyte)
  · rw [hlead, hlength]
    exact .inr ⟨rfl, trail_append_lt _ hnumbers hdigits s t⟩

/-! ### The bytes of a text -/

/-- A smaller text has smaller bytes: up to the first difference the bytes are the same, and there
`encodeChar_append_lt` decides. -/
theorem utf8_lt_of_lt {a b : List Char} (h : a < b) : utf8 a < utf8 b := by
  induction a generalizing b with
  | nil =>
    cases b with
    | nil => exact absurd h (List.not_lt_nil [])
    | cons d b =>
      unfold utf8
      rw [List.flatMap_cons, utf8EncodeChar_eq]
      exact List.nil_lt_cons _ _
  | cons c a ih =>
    cases b with
    | nil => exact absurd h (List.not_lt_nil _)
    | cons d b =>
      show String.utf8EncodeChar c ++ utf8 a < String.utf8EncodeChar d ++ utf8 b
      rcases List.cons_lt_cons_iff.mp h with hlt | ⟨rfl, hlt⟩
      · exact encodeChar_append_lt hlt _ _
      · exact List.append_left_lt (ih hlt)

/-- **Texts are ordered as their bytes are.** So a disk that compares the bytes of names sorts them
as `List Char` does. -/
theorem utf8_lt_iff {a b : List Char} : utf8 a < utf8 b ↔ a < b := by
  refine ⟨fun hbytes => ?_, utf8_lt_of_lt⟩
  by_cases hab : a < b
  · exact hab
  · -- Otherwise the texts are the same or in the other order, and so are their bytes.
    rcases List.le_iff_lt_or_eq.mp (List.not_lt.mp hab) with hba | rfl
    · exact absurd (utf8_lt_of_lt hba) (List.lt_asymm hbytes)
    · exact absurd hbytes (List.lt_irrefl _)

/-- Chains of texts in order, such as paths by their names, are in the order of their bytes `utf8`,
text by text. -/
theorem map_utf8_lt {xs ys : List (List Char)} (h : xs < ys) : xs.map utf8 < ys.map utf8 := by
  induction xs generalizing ys with
  | nil =>
    cases ys with
    | nil => exact absurd h (List.not_lt_nil [])
    | cons y ys => exact List.nil_lt_cons _ _
  | cons x xs ih =>
    cases ys with
    | nil => exact absurd h (List.not_lt_nil _)
    | cons y ys =>
      rw [List.map_cons, List.map_cons, List.cons_lt_cons_iff]
      rcases List.cons_lt_cons_iff.mp h with hlt | ⟨rfl, hlt⟩
      · exact .inl (utf8_lt_of_lt hlt)
      · exact .inr ⟨rfl, ih hlt⟩

end CodeHealth.Text
