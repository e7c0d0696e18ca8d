import CodeHealth.Decimal.Power

/-!
# UTF-8

A text is stored as bytes. Reading them back yields characters, and marks every stretch of bytes
that is no character: the longest start of a character that goes wrong, or else a single byte.

* `decodeLossy` puts the replacement character for each such stretch;
* `decode?` accepts only bytes without one.
-/

namespace CodeHealth.Text

/-- The bytes that may follow a first byte: the range of the second byte, and how many further
continuation bytes come after it. `decodeLossy` goes by it. -/
structure Utf8Shape where
  /-- The least second byte. -/
  low : Nat
  /-- The greatest second byte. -/
  high : Nat
  /-- How many bytes follow the second one. -/
  further : Nat

/-- What has to follow the first byte `b` of a character of several bytes, or `none` if it is no
such byte. Overlong forms and surrogates are ruled out by the range of the second byte. -/
def Utf8Shape.ofFirst? (b : Nat) : Option Utf8Shape :=
  if b < 0xC2 then none
  else if b ≤ 0xDF then some ⟨0x80, 0xBF, 0⟩
  else if b = 0xE0 then some ⟨0xA0, 0xBF, 1⟩
  else if b = 0xED then some ⟨0x80, 0x9F, 1⟩
  else if b ≤ 0xEF then some ⟨0x80, 0xBF, 1⟩
  else if b = 0xF0 then some ⟨0x90, 0xBF, 2⟩
  else if b ≤ 0xF3 then some ⟨0x80, 0xBF, 2⟩
  else if b = 0xF4 then some ⟨0x80, 0x8F, 2⟩
  else none

/-- Reads this many continuation bytes onto a value. Gives `none` and the bytes from the first wrong
one on when they do not all follow. -/
def readContinuation : Nat → Nat → List UInt8 → Option Nat × List UInt8
  | 0, value, bytes => (some value, bytes)
  | _ + 1, _, [] => (none, [])
  | n + 1, value, b :: rest =>
    if 0x80 ≤ b.toNat ∧ b.toNat ≤ 0xBF then readContinuation n (value * 64 + b.toNat % 64) rest
    else (none, b :: rest)

/-- The character that starts with the byte `b`, or `none` for a stretch that is no character, and
the bytes after it. -/
def readUtf8 (b : UInt8) (rest : List UInt8) : Option Char × List UInt8 :=
  if b.toNat < 0x80 then (some (Char.ofNat b.toNat), rest)
  else match Utf8Shape.ofFirst? b.toNat, rest with
    | some shape, second :: after =>
      if shape.low ≤ second.toNat ∧ second.toNat ≤ shape.high then
        let leading := b.toNat % twoTo (5 - shape.further)
        let (value, after) :=
          readContinuation shape.further (leading * 64 + second.toNat % 64) after
        (value.map Char.ofNat, after)
      else (none, second :: after)
    | _, rest => (none, rest)

/-- The characters and broken stretches of some bytes, in reverse after those `seen`. Every step
reads a byte, so as many steps as there are bytes are enough. -/
def readAllUtf8 : Nat → List (Option Char) → List UInt8 → List (Option Char)
  | _, seen, [] => seen
  | 0, seen, _ :: _ => seen
  | fuel + 1, seen, b :: rest =>
    let (unit, rest) := readUtf8 b rest
    readAllUtf8 fuel (unit :: seen) rest

/-- The characters of some `bytes`, with a replacement character for each broken stretch. -/
def decodeLossy (bytes : List UInt8) : List Char :=
  (readAllUtf8 bytes.length [] bytes).foldl (fun text unit => unit.getD '�' :: text) []

/-- The characters of some `bytes`, when no stretch of them is broken. -/
def decode? (bytes : List UInt8) : Option (List Char) :=
  (readAllUtf8 bytes.length [] bytes).foldl (fun text unit => do
    let text ← text
    let c ← unit
    return c :: text) (some [])

end CodeHealth.Text
