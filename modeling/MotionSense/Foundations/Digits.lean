import Mathlib

/-!
# Decimal texts and their order

A text of decimal digits denotes a number, and texts of one length are compared
letter by letter as the numbers they denote.  Texts put together from parts of
one length are compared by the first parts that differ.
-/

namespace MotionSense

/-- A text of decimal digits denotes a number of so many digits. -/
theorem ofDigitChars_lt
    {text : List Char}
    (digits : ∀ letter ∈ text, letter.isDigit = true) :
    Nat.ofDigitChars 10 text 0 < 10 ^ text.length := by
  induction text using List.reverseRecOn with
  | nil => decide
  | append_singleton text letter inductionHypothesis =>
      have earlier := inductionHypothesis fun other member =>
        digits other (List.mem_append_left _ member)
      have small : letter.toNat - '0'.toNat < 10 := by
        have digit := digits letter (by simp)
        have bounds := Char.isDigit_iff_toNat.mp digit
        change 48 ≤ letter.toNat ∧ letter.toNat ≤ 57 at bounds
        change letter.toNat - 48 < 10
        omega
      rw [Nat.ofDigitChars_append, Nat.ofDigitChars_cons, Nat.ofDigitChars_nil,
        List.length_append, List.length_singleton, pow_succ]
      omega

/-- Texts of one length denote different numbers. -/
theorem ofDigitChars_injective
    {first second : List Char}
    (digits : ∀ letter ∈ first, letter.isDigit = true)
    (digitsToo : ∀ letter ∈ second, letter.isDigit = true)
    (sameLength : first.length = second.length)
    (sameValue :
      Nat.ofDigitChars 10 first 0 = Nat.ofDigitChars 10 second 0) :
    first = second := by
  induction first using List.reverseRecOn generalizing second with
  | nil => exact (List.eq_nil_of_length_eq_zero sameLength.symm).symm
  | append_singleton first letter inductionHypothesis =>
      rcases List.eq_nil_or_concat' second with rfl | ⟨rest, other, rfl⟩
      · simp at sameLength
      · have digit := Char.isDigit_iff_toNat.mp (digits letter (by simp))
        have digitToo := Char.isDigit_iff_toNat.mp (digitsToo other (by simp))
        rw [Nat.ofDigitChars_append, Nat.ofDigitChars_cons,
          Nat.ofDigitChars_nil, Nat.ofDigitChars_append, Nat.ofDigitChars_cons,
          Nat.ofDigitChars_nil] at sameValue
        change 48 ≤ letter.toNat ∧ letter.toNat ≤ 57 at digit
        change 48 ≤ other.toNat ∧ other.toNat ≤ 57 at digitToo
        change 10 * _ + (letter.toNat - 48) = 10 * _ + (other.toNat - 48)
          at sameValue
        have sameLetter : letter = other := Char.toNat_inj.mp (by omega)
        have sameRest : first = rest := by
          apply inductionHypothesis
          · exact fun member inside =>
              digits member (List.mem_append_left _ inside)
          · exact fun member inside =>
              digitsToo member (List.mem_append_left _ inside)
          · simpa using sameLength
          · omega
        rw [sameLetter, sameRest]

/-- Texts whose beginnings have one length are compared by their beginnings
first. -/
theorem append_lt_append_iff
    [LT α] [Std.Irrefl (fun first second : α => first < second)]
    {first second : List α} (same : first.length = second.length)
    {rest later : List α} :
    first ++ rest < second ++ later ↔
      first < second ∨ first = second ∧ rest < later := by
  induction first generalizing second with
  | nil =>
      obtain rfl := List.length_eq_zero_iff.mp same.symm
      simp
  | cons letter first inductionHypothesis =>
      cases second with
      | nil => exact absurd same (Nat.succ_ne_zero _)
      | cons other second =>
          rw [List.cons_append, List.cons_append, List.cons_lt_cons_iff,
            List.cons_lt_cons_iff,
            inductionHypothesis (Nat.succ.inj same), List.cons.injEq]
          tauto

/-- Texts of one length are compared as the numbers they denote. -/
theorem digits_lt_iff
    {first second : List Char}
    (digits : ∀ letter ∈ first, letter.isDigit = true)
    (digitsToo : ∀ letter ∈ second, letter.isDigit = true)
    (same : first.length = second.length) :
    first < second ↔
      Nat.ofDigitChars 10 first 0 < Nat.ofDigitChars 10 second 0 := by
  induction first using List.reverseRecOn generalizing second with
  | nil =>
      obtain rfl := List.length_eq_zero_iff.mp same.symm
      simp
  | append_singleton first letter inductionHypothesis =>
      rcases List.eq_nil_or_concat' second with rfl | ⟨rest, other, rfl⟩
      · simp at same
      have lengths : first.length = rest.length := by simpa using same
      have inFirst : ∀ member ∈ first, member.isDigit = true :=
        fun member inside => digits member (List.mem_append_left _ inside)
      have inRest : ∀ member ∈ rest, member.isDigit = true :=
        fun member inside => digitsToo member (List.mem_append_left _ inside)
      have digit := Char.isDigit_iff_toNat.mp (digits letter (by simp))
      have digitToo := Char.isDigit_iff_toNat.mp (digitsToo other (by simp))
      change 48 ≤ letter.toNat ∧ letter.toNat ≤ 57 at digit
      change 48 ≤ other.toNat ∧ other.toNat ≤ 57 at digitToo
      have equal : first = rest ↔
          Nat.ofDigitChars 10 first 0 = Nat.ofDigitChars 10 rest 0 :=
        ⟨fun same => by rw [same],
          ofDigitChars_injective inFirst inRest lengths⟩
      have letters : [letter] < [other] ↔ letter.toNat < other.toNat := by
        rw [List.cons_lt_cons_iff, Char.lt_def, UInt32.lt_iff_toNat_lt]
        exact or_iff_left fun both => List.not_lt_nil _ both.2
      rw [append_lt_append_iff lengths, letters, equal,
        inductionHypothesis inFirst inRest lengths, Nat.ofDigitChars_append,
        Nat.ofDigitChars_append, Nat.ofDigitChars_cons,
        Nat.ofDigitChars_cons, Nat.ofDigitChars_nil, Nat.ofDigitChars_nil]
      change _ ↔ 10 * _ + (letter.toNat - 48) < 10 * _ + (other.toNat - 48)
      omega

end MotionSense
