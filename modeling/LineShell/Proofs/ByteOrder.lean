import LineShell.Text.Bytes
import Mathlib.Data.String.Basic

/-!
# Order by characters and order by bytes

Texts are compared character by character.  This is the same as comparing the bytes that they are
encoded in (`Text.bytes_lt_bytes_iff`).

A character is encoded in a leading byte and up to three bytes that hold six bits of its number each
(`Text.utf8EncodeChar_eq`).  Of two different numbers the greater one has the greater leading byte,
or else the leading bytes agree, and with them the lengths; then the first six bits that differ
decide (`Text.continuation_append_lt`).  So whatever follows, two different characters are told
apart by their own bytes (`Text.utf8EncodeChar_append_lt`).
-/

namespace LineShell.Text

/-! ### The bytes of a text -/

/-- The bytes that a text is encoded in. -/
def bytes (text : String) : List UInt8 := text.toUTF8.data.toList

/-- They are those of its characters. -/
lemma bytes_eq_flatMap (text : String) :
    bytes text = text.toList.flatMap String.utf8EncodeChar := by
  conv_lhs => rw [bytes, String.toUTF8_eq_toByteArray, ← String.ofList_toList (s := text),
    String.toByteArray_ofList]
  exact List.toList_data_toByteArray

/-- Characters take as many bytes as the text that they make up. -/
lemma byteCount_toList (text : String) : byteCount text.toList = text.utf8ByteSize := by
  have hlength : ∀ cs : List Char, byteCount cs = (cs.flatMap String.utf8EncodeChar).length := by
    intro cs
    induction cs with
    | nil => rfl
    | cons c rest ih => rw [byteCount, ih, List.flatMap_cons, List.length_append,
        String.length_utf8EncodeChar]
  rw [hlength, ← bytes_eq_flatMap, bytes, Array.length_toList]
  rfl

/-- The first part of a text is taken by the bytes of its characters. -/
lemma takeBytes?_append (before after : List Char) :
    takeBytes? (byteCount before) (before ++ after) = some before := by
  induction before with
  | nil => cases after <;> simp [byteCount, takeBytes?]
  | cons c rest ih =>
    have hpos := c.utf8Size_pos
    rw [List.cons_append, takeBytes?, byteCount, if_neg (by omega), if_pos (by omega),
      Nat.add_sub_cancel_left, ih]
    rfl

/-! ### The bytes of a character -/

/-- The last `6 * k` bits of a number, in bytes of six bits each. -/
def continuation (n : Nat) : Nat → List UInt8
  | 0 => []
  | k + 1 => UInt8.ofNat (n / 64 ^ k % 64 + 128) :: continuation n k

/-- How many bytes follow the leading byte of a number. -/
def continuationLength (n : Nat) : Nat :=
  if n ≤ 0x7F then 0 else if n ≤ 0x7FF then 1 else if n ≤ 0xFFFF then 2 else 3

/-- The leading byte of a number: the bits that do not follow, and a mark that tells how many bytes
do. -/
def leadingByte (n : Nat) : Nat :=
  if n ≤ 0x7F then n else if n ≤ 0x7FF then n / 64 + 192 else if n ≤ 0xFFFF then n / 4096 + 224
  else n / 262144 + 240

/-- The numbers of characters end before `0x110000`. -/
lemma toNat_lt (c : Char) : c.toNat < 0x110000 := by
  rcases c.valid with h | ⟨-, h⟩
  · exact Nat.lt_trans h (by decide)
  · exact h

/-- A character is encoded in a leading byte and those that follow. -/
lemma utf8EncodeChar_eq (c : Char) : String.utf8EncodeChar c =
    UInt8.ofNat (leadingByte c.toNat) :: continuation c.toNat (continuationLength c.toNat) := by
  have hbound := toNat_lt c
  have hnumber : c.val.toNat = c.toNat := rfl
  simp only [String.utf8EncodeChar, hnumber, leadingByte, continuationLength]
  split_ifs
  · rfl
  · rw [Nat.mod_eq_of_lt (by omega : c.toNat / 64 < 32)]
    simp [continuation]
  · rw [Nat.mod_eq_of_lt (by omega : c.toNat / 4096 < 16)]
    simp [continuation]
  · rw [Nat.mod_eq_of_lt (by omega : c.toNat / 262144 < 8)]
    simp [continuation]

/-- Bytes are compared as numbers. -/
lemma byte_cons_lt {a b : Nat} {s t : List UInt8} (hb : b < 256) (h : a < b ∨ a = b ∧ s < t) :
    UInt8.ofNat a :: s < UInt8.ofNat b :: t := by
  rw [List.cons_lt_cons_iff]
  rcases h with h | ⟨rfl, h⟩
  · left
    rw [UInt8.lt_iff_toNat_lt, UInt8.toNat_ofNat', UInt8.toNat_ofNat']
    omega
  · exact .inr ⟨rfl, h⟩

/-- If two numbers agree in front, the first six bits that differ decide. -/
lemma continuation_append_lt {m n k : Nat} (h : m < n) (hfront : m / 64 ^ k = n / 64 ^ k)
    (s t : List UInt8) : continuation m k ++ s < continuation n k ++ t := by
  induction k with
  | zero => simp at hfront; omega
  | succ k ih =>
    have hm : m / 64 ^ (k + 1) = m / 64 ^ k / 64 := by rw [Nat.pow_succ, Nat.div_div_eq_div_mul]
    have hn : n / 64 ^ (k + 1) = n / 64 ^ k / 64 := by rw [Nat.pow_succ, Nat.div_div_eq_div_mul]
    have hle : m / 64 ^ k ≤ n / 64 ^ k := Nat.div_le_div_right h.le
    rw [hm, hn] at hfront
    refine byte_cons_lt (by omega) ?_
    rcases hle.lt_or_eq with hlt | heq
    · exact .inl (by omega)
    · exact .inr ⟨by rw [heq], ih heq⟩

/-- The greater one of two numbers has the greater leading byte, or else as many bytes follow, and
the numbers agree in the bits that do not. -/
lemma leadingByte_lt_or_eq {m n : Nat} (h : m < n) : leadingByte m < leadingByte n ∨
    leadingByte m = leadingByte n ∧ continuationLength m = continuationLength n ∧
      m / 64 ^ continuationLength m = n / 64 ^ continuationLength m := by
  unfold leadingByte continuationLength
  split_ifs <;> omega

/-- A leading byte is a byte. -/
lemma leadingByte_lt (c : Char) : leadingByte c.toNat < 256 := by
  have hbound := toNat_lt c
  unfold leadingByte
  split_ifs <;> omega

/-- Two characters are told apart by their bytes, whatever follows. -/
lemma utf8EncodeChar_append_lt {c d : Char} (h : c < d) (s t : List UInt8) :
    String.utf8EncodeChar c ++ s < String.utf8EncodeChar d ++ t := by
  have hlt : c.toNat < d.toNat := h
  rw [utf8EncodeChar_eq, utf8EncodeChar_eq, List.cons_append, List.cons_append]
  refine byte_cons_lt (leadingByte_lt d) ?_
  rcases leadingByte_lt_or_eq hlt with hlead | ⟨hlead, hlength, hfront⟩
  · exact .inl hlead
  · rw [← hlength]
    exact .inr ⟨hlead, continuation_append_lt hlt hfront s t⟩

/-! ### Texts -/

lemma flatMap_utf8EncodeChar_lt {cs ds : List Char} (h : cs < ds) :
    cs.flatMap String.utf8EncodeChar < ds.flatMap String.utf8EncodeChar := by
  induction h with
  | nil =>
    rw [List.flatMap_cons, utf8EncodeChar_eq]
    exact .nil
  | cons _ ih =>
    rw [List.flatMap_cons, List.flatMap_cons]
    exact List.append_left_lt ih
  | rel h =>
    rw [List.flatMap_cons, List.flatMap_cons]
    exact utf8EncodeChar_append_lt h _ _

/-- A text is before another one if and only if its bytes are. -/
theorem bytes_lt_bytes_iff {a b : String} : bytes a < bytes b ↔ a < b := by
  have hmono : ∀ {a b : String}, a < b → bytes a < bytes b := by
    intro a b h
    rw [bytes_eq_flatMap, bytes_eq_flatMap]
    exact flatMap_utf8EncodeChar_lt h
  refine ⟨fun h => ?_, hmono⟩
  rcases lt_trichotomy a b with hlt | rfl | hgt
  · exact hlt
  · exact absurd h (List.lt_irrefl _)
  · exact absurd h (List.lt_asymm (hmono hgt))

/-- So it is with the order that allows equality. -/
lemma bytes_le_bytes_iff {a b : String} : bytes a ≤ bytes b ↔ a ≤ b :=
  List.not_lt.symm.trans ((not_congr bytes_lt_bytes_iff).trans not_lt)

end LineShell.Text
