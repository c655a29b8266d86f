import LineShell.Item
import LineShell.Proofs.Decimal
import Mathlib.Data.List.TakeWhile
import Mathlib.Data.Nat.Digits.Defs

/-!
# Texts that are values

The text of an argument may stand for a value of a kind in many ways: an integer may have a plus
sign, zeros in front and white space around it.  `Text.HoldsInt` says which integer a text stands
for, with no regard to its size.  As an argument the text is taken for it if it has room in 64 bits,
and refused otherwise (`Kind.coerce_int_eq_some_iff`).

Of all texts for a value one is written when the value is shown.  For every kind but floating-point
numbers this text stands for the same value of the same kind (`Kind.coerce_display`), so that a
value may be shown and read any number of times.
-/

namespace LineShell

namespace Text

variable {cs before after : List Char} {n : Nat} {i : Int}

/-! ### Decimal digits -/

/-- The number that decimal digits write, the last one counting ones. -/
def digitsNumber (digits : List Char) : Nat :=
  Nat.ofDigits 10 (digits.reverse.map fun c => c.toNat - '0'.toNat)

/-- A list of decimal digits that is not empty. -/
def AreDigits (cs : List Char) : Prop := cs ≠ [] ∧ ∀ c ∈ cs, c.isDigit = true

/-- Digits are taken up from the left, which gives the number that they write. -/
lemma foldl_digits_eq (cs : List Char) :
    cs.foldl (fun n c => n * 10 + (c.toNat - '0'.toNat)) 0 = digitsNumber cs := by
  rw [digitsNumber, Nat.ofDigits_eq_foldr, List.foldr_map, List.foldr_reverse]
  congr 1
  funext n c
  rw [Nat.mul_comm, Nat.add_comm]
  rfl

/-- Digits are read as the number that they write, and nothing else is read. -/
lemma readDecimal?_eq_some_iff : readDecimal? cs = some n ↔ AreDigits cs ∧ digitsNumber cs = n := by
  rw [readDecimal?, foldl_digits_eq]
  split
  · next hnot =>
    simp only [reduceCtorEq, false_iff, not_and]
    rintro ⟨hne, hdigits⟩
    rcases Bool.or_eq_true_iff.1 hnot with hempty | hother
    · exact absurd (List.isEmpty_iff.1 hempty) hne
    · obtain ⟨c, hc, hdigit⟩ := List.any_eq_true.1 hother
      rw [hdigits c hc] at hdigit
      cases hdigit
  · next hall =>
    simp only [Bool.or_eq_true, List.isEmpty_iff, List.any_eq_true, not_or, not_exists] at hall
    have hdigits : AreDigits cs := ⟨hall.1, fun c hc => by simpa [hc] using hall.2 c⟩
    simp [hdigits]

/-! ### Integers with a sign -/

/-- An integer is written as an optional sign followed by decimal digits. -/
inductive WritesInt : List Char → Int → Prop
  | unsigned {digits : List Char} (h : AreDigits digits) :
      WritesInt digits (digitsNumber digits)
  | plus {digits : List Char} (h : AreDigits digits) :
      WritesInt ('+' :: digits) (digitsNumber digits)
  | minus {digits : List Char} (h : AreDigits digits) :
      WritesInt ('-' :: digits) (-digitsNumber digits)

/-- A text stands for the integer that is written in it with nothing but white space around. -/
def HoldsInt (raw : String) (i : Int) : Prop :=
  ∃ before written after, raw.toList = before ++ written ++ after ∧
    (∀ c ∈ before ++ after, isBlank c = true) ∧ WritesInt written i

/-- There is no sign before digits. -/
lemma takeSign_of_areDigits (h : AreDigits cs) : Binary64.takeSign cs = (false, cs) := by
  unfold Binary64.takeSign
  split
  · cases h.2 _ List.mem_cons_self
  · cases h.2 _ List.mem_cons_self
  · rfl

/-- What is written after the sign are digits, and the sign tells whether they count downwards. -/
lemma writesInt_iff : WritesInt cs i ↔ AreDigits (Binary64.takeSign cs).2 ∧
    i = if (Binary64.takeSign cs).1 then -(digitsNumber (Binary64.takeSign cs).2 : Int)
      else digitsNumber (Binary64.takeSign cs).2 := by
  constructor
  · intro h
    cases h with
    | unsigned hdigits =>
      rw [takeSign_of_areDigits hdigits]
      exact ⟨hdigits, rfl⟩
    | plus hdigits => exact ⟨hdigits, rfl⟩
    | minus hdigits => exact ⟨hdigits, rfl⟩
  · unfold Binary64.takeSign
    split
    · rintro ⟨hdigits, rfl⟩
      exact .minus hdigits
    · rintro ⟨hdigits, rfl⟩
      exact .plus hdigits
    · rintro ⟨hdigits, rfl⟩
      exact .unsigned hdigits

/-- What is read is what is written, if it has room in 64 bits. -/
lemma readInt?_eq_some_iff :
    readInt? cs = some i ↔ WritesInt cs i ∧ minInt64 ≤ i ∧ i ≤ maxInt64 := by
  rw [readInt?, writesInt_iff]
  generalize Binary64.takeSign cs = parts
  obtain ⟨negative, digits⟩ := parts
  cases hread : readDecimal? digits with
  | none =>
    have hnot : ¬ AreDigits digits := by
      intro hdigits
      rw [readDecimal?_eq_some_iff.2 ⟨hdigits, rfl⟩] at hread
      cases hread
    simp [hread, hnot]
  | some n =>
    obtain ⟨hdigits, rfl⟩ := readDecimal?_eq_some_iff.1 hread
    simp only [hread, Option.ite_none_right_eq_some, Option.some.injEq, hdigits, true_and]
    constructor
    · rintro ⟨hrange, rfl⟩
      exact ⟨rfl, hrange⟩
    · rintro ⟨rfl, hrange⟩
      exact ⟨hrange, rfl⟩

/-- A sign and digits are not white space. -/
lemma WritesInt.isBlank_eq_false (h : WritesInt cs i) : ∀ c ∈ cs, isBlank c = false := by
  cases h with
  | unsigned hdigits => exact fun c hc => isBlank_of_isDigit (hdigits.2 c hc)
  | plus hdigits =>
    exact List.forall_mem_cons.2 ⟨by decide, fun c hc => isBlank_of_isDigit (hdigits.2 c hc)⟩
  | minus hdigits =>
    exact List.forall_mem_cons.2 ⟨by decide, fun c hc => isBlank_of_isDigit (hdigits.2 c hc)⟩

/-- Something is written. -/
lemma WritesInt.ne_nil (h : WritesInt cs i) : cs ≠ [] := by
  cases h with
  | unsigned hdigits => exact hdigits.1
  | plus => exact List.cons_ne_nil _ _
  | minus => exact List.cons_ne_nil _ _

/-! ### White space -/

/-- White space is dropped up to a character that is none. -/
lemma dropWhile_isBlank_append (hbefore : ∀ c ∈ before, isBlank c = true)
    (hcs : ∀ c ∈ cs, isBlank c = false) (hne : cs ≠ []) (after : List Char) :
    (before ++ (cs ++ after)).dropWhile isBlank = cs ++ after := by
  obtain ⟨c, rest, rfl⟩ := List.exists_cons_of_ne_nil hne
  rw [List.dropWhile_append_of_pos hbefore, List.cons_append,
    List.dropWhile_cons_of_neg (by simp [hcs])]

/-- White space around other characters is taken off. -/
lemma trimChars_append (hbefore : ∀ c ∈ before, isBlank c = true)
    (hcs : ∀ c ∈ cs, isBlank c = false) (hne : cs ≠ [])
    (hafter : ∀ c ∈ after, isBlank c = true) : trimChars (before ++ cs ++ after) = cs := by
  have hright : (after.reverse ++ (cs.reverse ++ [])).dropWhile isBlank = cs.reverse ++ [] :=
    dropWhile_isBlank_append (fun c hc => hafter c (List.mem_reverse.1 hc))
      (fun c hc => hcs c (List.mem_reverse.1 hc)) (by simpa using hne) []
  simp only [List.append_nil] at hright
  rw [trimChars, trimLeft, List.append_assoc, dropWhile_isBlank_append hbefore hcs hne, trimRight,
    List.reverse_append, hright, List.reverse_reverse]

/-- What is taken off is white space. -/
lemma exists_trimChars_eq (cs : List Char) :
    ∃ before after, cs = before ++ trimChars cs ++ after ∧
      ∀ c ∈ before ++ after, isBlank c = true := by
  refine ⟨cs.takeWhile isBlank, ((trimLeft cs).reverse.takeWhile isBlank).reverse, ?_, ?_⟩
  · rw [trimChars, trimRight, List.append_assoc, ← List.reverse_append,
      List.takeWhile_append_dropWhile, List.reverse_reverse, trimLeft,
      List.takeWhile_append_dropWhile]
  · intro c hc
    rcases List.mem_append.1 hc with hc | hc
    · exact List.mem_takeWhile_imp hc
    · exact List.mem_takeWhile_imp (List.mem_reverse.1 hc)

/-- The integer that a text stands for is written in what is left without white space. -/
lemma holdsInt_iff {raw : String} : HoldsInt raw i ↔ WritesInt (trimChars raw.toList) i := by
  constructor
  · rintro ⟨before, written, after, hraw, hblank, hwritten⟩
    obtain ⟨hbefore, hafter⟩ := List.forall_mem_append.1 hblank
    rwa [hraw, trimChars_append hbefore hwritten.isBlank_eq_false hwritten.ne_nil hafter]
  · intro hwritten
    obtain ⟨before, after, hraw, hblank⟩ := exists_trimChars_eq raw.toList
    exact ⟨before, _, after, hraw, hblank, hwritten⟩

/-- A number in decimal digits is written in digits. -/
lemma areDigits_decimal (n : Nat) :
    AreDigits (decimal n).toList ∧ digitsNumber (decimal n).toList = n :=
  readDecimal?_eq_some_iff.1 (readDecimal?_decimal n)

/-- An integer is written in its own text. -/
lemma writesInt_signedDecimal (i : Int) : WritesInt (signedDecimal i).toList i := by
  obtain ⟨hdigits, hnumber⟩ := areDigits_decimal i.natAbs
  unfold signedDecimal
  split
  · next hneg =>
    have hvalue : -(digitsNumber (decimal i.natAbs).toList : Int) = i := by
      rw [hnumber]
      omega
    have hwritten := WritesInt.minus hdigits
    rw [hvalue] at hwritten
    rwa [String.toList_append]
  · next hpos =>
    have hvalue : (digitsNumber (decimal i.natAbs).toList : Int) = i := by
      rw [hnumber]
      omega
    have hwritten := WritesInt.unsigned hdigits
    rwa [hvalue] at hwritten

end Text

open Text

/-! ### Values and their texts -/

/-- A value is kept under the text that it has as an argument. -/
@[simp] lemma Item.display_ofArgument (a : Argument) : (Item.ofArgument a).display = a.display := by
  cases a <;> rfl

namespace Kind

variable {raw : String} {a : Argument} {kind : Kind}

/-- A text is taken for the integer that it stands for, if this has room in 64 bits. -/
lemma coerce_int_eq_some_iff {i : Int} :
    Kind.int.coerce raw = some (.int i) ↔ HoldsInt raw i ∧ minInt64 ≤ i ∧ i ≤ maxInt64 := by
  rw [holdsInt_iff, ← readInt?_eq_some_iff]
  simp [coerce]

/-- What an integer argument is coerced to is an integer. -/
lemma exists_of_coerce_int (h : Kind.int.coerce raw = some a) : ∃ i, a = .int i := by
  obtain ⟨i, -, rfl⟩ := Option.map_eq_some_iff.1 h
  exact ⟨i, rfl⟩

/-- An integer that has room in 64 bits is read back from its text. -/
lemma coerce_signedDecimal {i : Int} (hlow : minInt64 ≤ i) (hhigh : i ≤ maxInt64) :
    Kind.int.coerce (signedDecimal i) = some (.int i) := by
  have hholds : HoldsInt (signedDecimal i) i := by
    refine ⟨[], _, [], ?_, by simp, writesInt_signedDecimal i⟩
    simp
  exact coerce_int_eq_some_iff.2 ⟨hholds, hlow, hhigh⟩

/-- A value of a kind other than floating-point numbers is read back from its text. -/
lemma coerce_display (hkind : kind ≠ .float) (h : kind.coerce raw = some a) :
    kind.coerce a.display = some a := by
  cases kind with
  | bool =>
    simp only [coerce, Option.map_eq_some_iff] at h
    obtain ⟨b, -, rfl⟩ := h
    cases b <;> decide
  | int =>
    obtain ⟨i, rfl⟩ := exists_of_coerce_int h
    obtain ⟨-, hlow, hhigh⟩ := coerce_int_eq_some_iff.1 h
    exact coerce_signedDecimal hlow hhigh
  | float => exact absurd rfl hkind
  | char =>
    simp only [coerce] at h
    split at h
    · cases h
      simp [coerce, Argument.display]
    · cases h
  | text =>
    cases h
    rfl

/-- A text is taken for an integer if and only if, apart from white space around, it is an optional
sign followed by decimal digits, of which there may be any number, and the integer that they write
has room in 64 bits; it is refused if they write no such integer.

What a text is taken for, as a value of a kind other than floating-point numbers, is also what the
text is taken for by which the value is shown, and a value kept on a stack is shown by the same
text.  Every integer of 64 bits is read back from its text. -/
theorem coercion_is_canonical (raw : String) :
    (∀ i, Kind.int.coerce raw = some (.int i) ↔ HoldsInt raw i ∧ -2 ^ 63 ≤ i ∧ i ≤ 2 ^ 63 - 1) ∧
    (Kind.int.coerce raw = none ↔ ∀ i, HoldsInt raw i → i < -2 ^ 63 ∨ 2 ^ 63 - 1 < i) ∧
    (∀ kind a, kind ≠ .float → Kind.coerce kind raw = some a →
      kind.coerce a.display = some a ∧
        ∃ item, Item.ofKind? kind raw = some item ∧ item.display = a.display) ∧
    ∀ i : Int, -2 ^ 63 ≤ i → i ≤ 2 ^ 63 - 1 →
      Kind.int.coerce (Argument.int i).display = some (.int i) := by
  have hmin : minInt64 = -2 ^ 63 := by decide
  have hmax : maxInt64 = 2 ^ 63 - 1 := by decide
  have hsome : ∀ i, Kind.int.coerce raw = some (.int i) ↔
      HoldsInt raw i ∧ -2 ^ 63 ≤ i ∧ i ≤ 2 ^ 63 - 1 := by
    intro i
    rw [← hmin, ← hmax]
    exact coerce_int_eq_some_iff
  refine ⟨hsome, ⟨?_, ?_⟩, ?_, ?_⟩
  · intro hnone i hholds
    by_contra hrange
    rw [not_or, not_lt, not_lt] at hrange
    rw [(hsome i).2 ⟨hholds, hrange⟩] at hnone
    cases hnone
  · intro hrange
    rw [Option.eq_none_iff_forall_ne_some]
    intro a ha
    obtain ⟨i, rfl⟩ := exists_of_coerce_int ha
    obtain ⟨hholds, hlow, hhigh⟩ := (hsome i).1 ha
    have := hrange i hholds
    omega
  · intro kind a hkind ha
    refine ⟨coerce_display hkind ha, Item.ofArgument a, ?_, Item.display_ofArgument a⟩
    rw [Item.ofKind?, ha]
    rfl
  · intro i hlow hhigh
    rw [← hmin] at hlow
    rw [← hmax] at hhigh
    exact coerce_signedDecimal hlow hhigh

/-- The least integer with zeros in front and white space around it: it is shown without them, and
read back. -/
theorem coercion_is_canonical_at_the_limit :
    let raw := "\t-0009223372036854775808 \n"
    let a := Argument.int (-2 ^ 63)
    Kind.int ≠ .float ∧ Kind.int.coerce raw = some a ∧ HoldsInt raw (-2 ^ 63) ∧
      a.display = "-9223372036854775808" ∧ Kind.int.coerce a.display = some a ∧
      ∃ item, Item.ofKind? .int raw = some item ∧ item.display = a.display := by
  intro raw a
  have hcoerce : Kind.int.coerce raw = some a := by decide +kernel
  obtain ⟨hsome, -, hshown, -⟩ := coercion_is_canonical raw
  obtain ⟨hback, hkept⟩ := hshown .int a (by decide) hcoerce
  exact ⟨by decide, hcoerce, ((hsome _).1 hcoerce).1, by decide +kernel, hback, hkept⟩

end Kind

end LineShell
