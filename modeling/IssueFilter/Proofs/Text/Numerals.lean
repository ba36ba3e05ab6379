import IssueFilter.Date
import IssueFilter.Proofs.Query.Words
import IssueFilter.Text.Lowercase
import Mathlib.Data.List.Induction

/-! Digits as a number and as a text. Numerals with leading zeros are read as numbers, but no number is
written with them: digits are what the number they stand for is written as just if there are no zeros to
leave out. Digits alone have no case and are no date. -/
namespace IssueFilter

namespace Numeral

/-- Digits that stand for a number and have more of them than it needs. -/
def isPadded (word : List Char) : Bool :=
  word.all Char.isDigit && (unsigned? word).isSome && word.head? = some '0' && 1 < word.length

section Digits

variable {s : List Char}

theorem digit_lt {c : Char} (digit : c.isDigit = true) : c.toNat - '0'.toNat < 10 := by
  obtain ⟨-, atMost⟩ := Char.isDigit_iff_toNat.mp digit
  change c.toNat ≤ 57 at atMost
  change c.toNat - 48 < 10
  omega

theorem digitChar_digit {c : Char} (digit : c.isDigit = true) :
    Nat.digitChar (c.toNat - '0'.toNat) = c := by
  obtain ⟨atLeast, -⟩ := Char.isDigit_iff_toNat.mp digit
  apply Char.toNat_inj.mp
  rw [Nat.toNat_digitChar_of_lt_ten (digit_lt digit)]
  exact Nat.add_sub_cancel' atLeast

theorem ofDigitChars_concat (s : List Char) (c : Char) :
    Nat.ofDigitChars 10 (s ++ [c]) 0 = 10 * Nat.ofDigitChars 10 s 0 + (c.toNat - '0'.toNat) := by
  rw [Nat.ofDigitChars_append, Nat.ofDigitChars_cons, Nat.ofDigitChars_nil]

theorem ofDigitChars_lt (digits : ∀ c ∈ s, c.isDigit = true) :
    Nat.ofDigitChars 10 s 0 < Nat.pow 10 s.length := by
  induction s using List.reverseRecOn with
  | nil => simp
  | append_singleton s c ih =>
      rw [List.forall_mem_append, List.forall_mem_singleton] at digits
      have before := ih digits.1
      have small := digit_lt digits.2
      have longer : Nat.pow 10 (s ++ [c]).length = Nat.pow 10 s.length * 10 := by
        rw [List.length_append]
        rfl
      rw [ofDigitChars_concat, longer]
      omega

/-- Digits without a leading zero are the ones that their number is written with. -/
theorem toDigits_ofDigitChars (nonempty : s ≠ []) (digits : ∀ c ∈ s, c.isDigit = true)
    (unpadded : s.head? = some '0' → s.length = 1) :
    Nat.toDigits 10 (Nat.ofDigitChars 10 s 0) = s := by
  induction s using List.reverseRecOn with
  | nil => exact absurd rfl nonempty
  | append_singleton s c ih =>
      rw [List.forall_mem_append, List.forall_mem_singleton] at digits
      have small := digit_lt digits.2
      have last : Nat.toDigits 10 (c.toNat - '0'.toNat) = [c] := by
        rw [Nat.toDigits_of_lt_base small, digitChar_digit digits.2]
      rw [ofDigitChars_concat]
      by_cases first : s = []
      · rw [first, Nat.ofDigitChars_nil, Nat.mul_zero, Nat.zero_add, last, List.nil_append]
      · have noZero : s.head? ≠ some '0' := by
          intro zero
          have one := unpadded (by rw [List.head?_append, zero, Option.some_or])
          rw [List.length_append, List.length_singleton] at one
          exact first (List.length_eq_zero_iff.mp (by omega))
        have before := ih first digits.1 fun zero => absurd zero noZero
        have positive : 0 < Nat.ofDigitChars 10 s 0 := by
          rw [Nat.pos_iff_ne_zero]
          intro zero
          rw [zero, Nat.toDigits_zero] at before
          exact noZero (by rw [← before]; rfl)
        rw [← Nat.toDigits_append_toDigits (by decide) positive small, before, last]

end Digits

section Words

variable {word : List Char} {n : UInt64}

theorem toNat_of_unsigned? (digits : word.all Char.isDigit = true)
    (read : unsigned? word = some n) :
    word ≠ [] ∧ n.toNat = Nat.ofDigitChars 10 word 0 := by
  have nonempty : word ≠ [] := by
    rintro rfl
    cases read
  rw [unsigned?_of_digits nonempty (List.all_eq_true.mp digits), fit?] at read
  split at read
  · rename_i small
    obtain rfl := Option.some.inj read
    exact ⟨nonempty, UInt64.toNat_ofNat_of_lt' small⟩
  · cases read

theorem chars_of_unpadded (digits : word.all Char.isDigit = true) (read : unsigned? word = some n)
    (unpadded : isPadded word = false) : chars n = word := by
  obtain ⟨nonempty, value⟩ := toNat_of_unsigned? digits read
  rw [chars, value]
  apply toDigits_ofDigitChars nonempty (List.all_eq_true.mp digits)
  intro zero
  have positive := List.length_pos_iff.mpr nonempty
  simp only [isPadded, digits, read, zero, Option.isSome_some, decide_true, Bool.true_and, Bool.and_true,
    decide_eq_false_iff_not] at unpadded
  omega

/-- What is padded is longer than the numeral of its number. -/
theorem length_chars_of_isPadded (padded : isPadded word = true) (read : unsigned? word = some n) :
    (chars n).length < word.length := by
  simp only [isPadded, Bool.and_eq_true, decide_eq_true_eq] at padded
  obtain ⟨⟨⟨digits, -⟩, zero⟩, more⟩ := padded
  obtain ⟨others, rfl⟩ := List.head?_eq_some_iff.mp zero
  have value : n.toNat = Nat.ofDigitChars 10 others 0 := (toNat_of_unsigned? digits read).2
  have small : n.toNat < Nat.pow 10 others.length := by
    rw [value]
    exact ofDigitChars_lt fun c member => List.all_eq_true.mp digits c (List.mem_cons_of_mem _ member)
  rw [List.length_cons] at more ⊢
  exact Nat.lt_succ_of_le ((Nat.length_toDigits_le_iff (by decide) (by omega)).mpr small)

theorem isDigit_of_isPadded (padded : isPadded word = true) : ∀ c ∈ word, c.isDigit = true := by
  simp only [isPadded, Bool.and_eq_true] at padded
  exact List.all_eq_true.mp padded.1.1.1

theorem text_ne_of_isPadded (padded : isPadded word = true) (read : unsigned? word = some n) :
    text n ≠ String.ofList word := by
  intro same
  have lengths := congrArg List.length (String.ofList_inj.mp same)
  exact Nat.ne_of_lt (length_chars_of_isPadded padded read) lengths

end Words

end Numeral

section Digits

variable {s : List Char}

theorem Date.subset_of_readDigits {limit n : Nat} {rest : List Char}
    (read : readDigits limit s = some (n, rest)) : rest ⊆ s := by
  rw [readDigits] at read
  split at read
  · cases read
  · cases read
    exact List.drop_subset _ s

theorem Date.subset_of_readYear {year : Int} {rest : List Char}
    (read : readYear s = some (year, rest)) : rest ⊆ s := by
  have blanks : skipBlanks s ⊆ s := (List.dropWhile_sublist isBlank).subset
  unfold readYear at read
  split at read
  all_goals
    obtain ⟨⟨n, after⟩, digits, same⟩ := Option.map_eq_some_iff.mp read
    cases same
    have inside := subset_of_readDigits digits
  · rename_i split
    rw [split] at blanks
    exact List.Subset.trans inside (List.subset_of_cons_subset blanks)
  · rename_i split
    rw [split] at blanks
    exact List.Subset.trans inside (List.subset_of_cons_subset blanks)
  · exact List.Subset.trans inside blanks

/-- Behind the year there is a hyphen. -/
theorem Date.parse?_of_digits (digits : ∀ c ∈ s, c.isDigit = true) :
    parse? (String.ofList s) = none := by
  rw [parse?, String.toList_ofList, readWith]
  cases read : readYear s with
  | none => rfl
  | some found =>
      obtain ⟨year, rest⟩ := found
      have noMonth : readPart rest = none := by
        unfold readPart
        split
        · cases digits '-' (subset_of_readYear read List.mem_cons_self)
        · rfl
      change (readPart rest).bind _ = none
      rw [noMonth, Option.bind_none]

theorem Lowercase.chars_of_digits (digits : ∀ c ∈ s, c.isDigit = true) : chars s = s := by
  have all : ∀ before, lowerFrom before s = s := by
    induction s with
    | nil => exact fun _ => rfl
    | cons c s ih =>
        intro before
        rw [List.forall_mem_cons] at digits
        have ascii : c.toNat < 0x80 := by
          have atMost := (Char.isDigit_iff_toNat.mp digits.1).2
          change c.toNat ≤ 57 at atMost
          omega
        have noSigma : c ≠ 'Σ' := by
          rintro rfl
          cases digits.1
        have noDot : c ≠ 'İ' := by
          rintro rfl
          cases digits.1
        have same : lowerChar c = c := by rw [lowerChar, if_pos ascii, toLower_of_isDigit digits.1]
        rw [lowerFrom, if_neg noSigma, if_neg noDot, same, ih digits.2]
        rfl
  exact all []

end Digits

end IssueFilter
