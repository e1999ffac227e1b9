import GridWalk.Json.Number
import Mathlib.Data.Bool.AllAny

/-!
# JSON numbers end where they end

A number is over at the first byte that cannot belong to it. Bytes that no number goes on with may
therefore follow without changing what is read.
-/

namespace GridWalk.Json

/-- What may stand behind a value: nothing, or something that starts with a comma or with a closing
bracket. -/
def Ends (more : Bytes) : Prop :=
  ∀ code ∈ more.head?, code ∈ [byte ',', byte ']', byte '}']

section Delimited

variable {more input behind digits : Bytes} {missing : Fault} (ends : Ends more)

include ends

/-- A byte that may stand behind a value belongs to no number. -/
theorem Ends.not_numeric : ∀ code ∈ more.head?, isDigit code = false ∧ code ≠ byte '.' ∧
    (code ≠ byte '-' ∧ code ≠ byte '+') ∧ ¬ (code = byte 'e' ∨ code = byte 'E') := by
  have delimiters : ∀ code ∈ [byte ',', byte ']', byte '}'], isDigit code = false ∧
      code ≠ byte '.' ∧ (code ≠ byte '-' ∧ code ≠ byte '+') ∧
        ¬ (code = byte 'e' ∨ code = byte 'E') := List.all_iff_forall_prop.mp (by decide)
  exact fun code is_head => delimiters code (ends code is_head)

theorem splitDigits_append (input : Bytes) :
    splitDigits (input ++ more) = ((splitDigits input).1, (splitDigits input).2 ++ more) := by
  induction input with
  | nil =>
      cases more with
      | nil => rfl
      | cons code more =>
          have no_digit := (ends.not_numeric code rfl).1
          simp [splitDigits, no_digit]
  | cons code input induction =>
      simp only [splitDigits, Prod.mk.injEq] at induction
      by_cases digit : isDigit code = true
      · simp [splitDigits, digit, induction]
      · simp [splitDigits, digit]

theorem readWhole_append (read : readWhole missing input = .ok (digits, behind)) :
    readWhole missing (input ++ more) = .ok (digits, behind ++ more) := by
  unfold readWhole at read ⊢
  rw [splitDigits_append ends]
  generalize splitDigits input = parts at read ⊢
  obtain ⟨taken, left⟩ := parts
  cases taken with
  | nil => cases left <;> cases read
  | cons first rest =>
      simp only at read ⊢
      split at read
      · cases read
      · next allowed =>
          obtain ⟨rfl, rfl⟩ := Prod.mk.inj (Except.ok.inj read)
          rw [if_neg allowed]

theorem readSome_append (read : readSome missing input = .ok (digits, behind)) :
    readSome missing (input ++ more) = .ok (digits, behind ++ more) := by
  unfold readSome at read ⊢
  rw [splitDigits_append ends]
  generalize splitDigits input = parts at read ⊢
  obtain ⟨taken, left⟩ := parts
  cases taken with
  | nil => cases left <;> cases read
  | cons first rest =>
      obtain ⟨rfl, rfl⟩ := Prod.mk.inj (Except.ok.inj read)
      rfl

theorem readFraction_append {fraction : Option Bytes}
    (read : readFraction missing input = .ok (fraction, behind)) :
    readFraction missing (input ++ more) = .ok (fraction, behind ++ more) := by
  cases input with
  | nil =>
      obtain ⟨rfl, rfl⟩ := Prod.mk.inj (Except.ok.inj read)
      cases more with
      | nil => rfl
      | cons code more =>
          have no_point := (ends.not_numeric code rfl).2.1
          simp [readFraction, no_point]
  | cons code input =>
      by_cases point : code = byte '.'
      · simp only [readFraction, point, if_true, bind_eq_ok_iff] at read
        obtain ⟨⟨digits, left⟩, read_digits, rest⟩ := read
        obtain ⟨rfl, rfl⟩ := Prod.mk.inj (Except.ok.inj rest)
        simp only [readFraction, List.cons_append, point, if_true, bind_eq_ok_iff]
        exact ⟨_, readSome_append ends read_digits, rfl⟩
      · simp only [readFraction, point, if_false] at read
        obtain ⟨rfl, rfl⟩ := Prod.mk.inj (Except.ok.inj read)
        simp [readFraction, point]

theorem readSign_append (input : Bytes) :
    readSign (input ++ more) = ((readSign input).1, (readSign input).2 ++ more) := by
  cases input with
  | nil =>
      cases more with
      | nil => rfl
      | cons code more =>
          have no_sign := (ends.not_numeric code rfl).2.2.1
          simp [readSign, no_sign]
  | cons code input =>
      simp only [readSign, List.cons_append]
      split
      · rfl
      split <;> rfl

theorem readExponent_append {exponent : Option (Bool × Bytes)}
    (read : readExponent missing input = .ok (exponent, behind)) :
    readExponent missing (input ++ more) = .ok (exponent, behind ++ more) := by
  cases input with
  | nil =>
      obtain ⟨rfl, rfl⟩ := Prod.mk.inj (Except.ok.inj read)
      cases more with
      | nil => rfl
      | cons code more =>
          have no_letter := (ends.not_numeric code rfl).2.2.2
          simp [readExponent, no_letter]
  | cons code input =>
      by_cases letter : code = byte 'e' ∨ code = byte 'E'
      · simp only [readExponent, letter, if_true, bind_eq_ok_iff] at read
        obtain ⟨⟨digits, left⟩, read_digits, rest⟩ := read
        obtain ⟨rfl, rfl⟩ := Prod.mk.inj (Except.ok.inj rest)
        simp only [readExponent, List.cons_append, letter, if_true, readSign_append ends,
          bind_eq_ok_iff]
        exact ⟨_, readSome_append ends read_digits, rfl⟩
      · simp only [readExponent, letter, if_false] at read
        obtain ⟨rfl, rfl⟩ := Prod.mk.inj (Except.ok.inj read)
        simp [readExponent, letter]

/-- What is read as a number is read as the same number in front of what may stand behind it. -/
theorem readNumber_append {number : Number} (read : readNumber input = .ok (number, behind)) :
    readNumber (input ++ more) = .ok (number, behind ++ more) := by
  cases input with
  | nil => cases read
  | cons first input =>
      simp only [readNumber, bind_eq_ok_iff] at read
      obtain ⟨⟨whole, behindWhole⟩, whole_eq, ⟨fraction, behindFraction⟩, fraction_eq,
        ⟨exponent, behindExponent⟩, exponent_eq, number, number_eq, rest⟩ := read
      obtain ⟨rfl, rfl⟩ := Prod.mk.inj (Except.ok.inj rest)
      -- Bytes that follow leave the sign alone, since the number does not start with them.
      have unsigned_eq :
          (if ((first :: input) ++ more).head? == some (byte '-') then
            ((first :: input) ++ more).tail else (first :: input) ++ more) =
          (if (first :: input).head? == some (byte '-') then
            (first :: input).tail else first :: input) ++ more := by
        by_cases minus : first = byte '-' <;> simp [minus]
      simp only [readNumber, bind_eq_ok_iff, unsigned_eq]
      exact ⟨_, readWhole_append ends whole_eq, _, readFraction_append ends fraction_eq,
        _, readExponent_append ends exponent_eq, number, number_eq, rfl⟩

end Delimited

end GridWalk.Json
