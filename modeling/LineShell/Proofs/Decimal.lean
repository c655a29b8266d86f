import LineShell.Kind
import Mathlib.Logic.Function.Basic

/-!
# Numbers in decimal digits

A number that is written in decimal digits is read back (`Text.readDecimal?_decimal`).  So two
numbers are not written alike, and nothing that holds a character other than a digit is a number.
Digits are neither signs nor white space, which is why a number that has room in 64 bits is also
read back as an argument (`Kind.coerce_decimal`).
-/

namespace LineShell

namespace Text

variable {n : Nat} {cs : List Char}

/-- The characters of a number in decimal digits. -/
@[simp] lemma toList_decimal (n : Nat) : (decimal n).toList = Nat.toDigits 10 n :=
  String.toList_ofList

/-- They are digits. -/
lemma isDigit_of_mem_decimal {c : Char} (h : c ∈ (decimal n).toList) : c.isDigit = true := by
  rw [toList_decimal] at h
  exact Nat.isDigit_of_mem_toDigits (by decide) (by decide) h

/-- A number in decimal digits is read back. -/
lemma readDecimal?_decimal (n : Nat) : readDecimal? (decimal n).toList = some n := by
  have hempty : (decimal n).toList.isEmpty = false := by simp
  have hdigits : (decimal n).toList.any (!Char.isDigit ·) = false := by
    refine List.any_eq_false.2 fun c hc => ?_
    simp [isDigit_of_mem_decimal hc]
  have hvalue : (decimal n).toList.foldl (fun n c => n * 10 + (c.toNat - '0'.toNat)) 0 = n := by
    rw [toList_decimal]
    refine Eq.trans ?_ Nat.ofDigitChars_ten_toDigits
    simp only [Nat.ofDigitChars, Nat.mul_comm]
  rw [readDecimal?, hempty, hdigits, hvalue]
  rfl

/-- Two numbers are not written alike. -/
lemma decimal_injective : Function.Injective decimal := by
  intro m n h
  have hread := readDecimal?_decimal m
  rw [h, readDecimal?_decimal] at hread
  exact (Option.some.inj hread).symm

/-- A text in which not all characters are digits is not a number. -/
lemma decimal_ne {text : String} (h : ∃ c ∈ text.toList, c.isDigit = false) (n : Nat) :
    decimal n ≠ text := by
  rintro rfl
  obtain ⟨c, hc, hdigit⟩ := h
  rw [isDigit_of_mem_decimal hc] at hdigit
  cases hdigit

/-- A digit is not white space. -/
lemma isBlank_of_isDigit {c : Char} (h : c.isDigit = true) : isBlank c = false := by
  have hbounds : 48 ≤ c.toNat ∧ c.toNat ≤ 57 := by
    simpa [Char.isDigit, UInt32.le_iff_toNat_le] using h
  obtain ⟨hlow, hhigh⟩ := hbounds
  simp [isBlank]
  omega

/-- Around characters that are not white space nothing is trimmed. -/
lemma trimChars_of_not_blank (h : ∀ c ∈ cs, isBlank c = false) : trimChars cs = cs := by
  have hdrop : ∀ {chars : List Char}, (∀ c ∈ chars, isBlank c = false) →
      chars.dropWhile isBlank = chars := by
    intro chars hchars
    cases chars with
    | nil => rfl
    | cons c rest => exact List.dropWhile_cons_of_neg (by simp [hchars])
  rw [trimChars, trimLeft, hdrop h, trimRight, hdrop fun c hc => h c (List.mem_reverse.1 hc),
    List.reverse_reverse]

end Text

open Text in
/-- A number that has room in 64 bits is read back as an argument. -/
lemma Kind.coerce_decimal {n : Nat} (h : (n : Int) ≤ maxInt64) :
    Kind.int.coerce (decimal n) = some (.int n) := by
  have htrim : trimChars (decimal n).toList = (decimal n).toList :=
    trimChars_of_not_blank fun c hc => isBlank_of_isDigit (isDigit_of_mem_decimal hc)
  have hsign : Binary64.takeSign (decimal n).toList = (false, (decimal n).toList) := by
    rcases hcs : (decimal n).toList with _ | ⟨c, rest⟩
    · rfl
    · have hdigit : c.isDigit = true := isDigit_of_mem_decimal (hcs ▸ List.mem_cons_self)
      unfold Binary64.takeSign
      split
      · next heq =>
        cases heq
        cases hdigit
      · next heq =>
        cases heq
        cases hdigit
      · rfl
  have hlow : minInt64 ≤ (n : Int) := by
    unfold minInt64
    omega
  rw [Kind.coerce, htrim, readInt?, hsign]
  simp only [readDecimal?_decimal]
  simp [hlow, h]

end LineShell
