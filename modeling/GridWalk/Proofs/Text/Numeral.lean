import GridWalk.Text.Numeral
import GridWalk.Text.Trim

/-!
# Numerals read back

A 32-bit number comes back from its digits, which are no blanks. The texts that are read at all are
the numerals: digits, of which there is at least one, perhaps behind a plus sign.
-/

namespace GridWalk.Text

theorem toList_toString (number : UInt32) :
    (toString number).toList = Nat.toDigits 10 number.toNat :=
  Nat.toList_repr

theorem isDigit_of_mem_toString {number : UInt32} {symbol : Char}
    (symbol_mem : symbol ∈ (toString number).toList) : isDigit symbol = true := by
  rw [toList_toString] at symbol_mem
  exact Nat.isDigit_of_mem_toDigits (by decide) (by decide) symbol_mem

theorem toString_toList_ne_nil (number : UInt32) : (toString number).toList ≠ [] := by
  rw [toList_toString]
  exact Nat.toDigits_ne_nil

theorem isDigit_iff {symbol : Char} :
    isDigit symbol = true ↔ 48 ≤ symbol.toNat ∧ symbol.toNat ≤ 57 := by
  simp [isDigit, Char.le_def, UInt32.le_iff_toNat_le]

theorem isBlank_of_isDigit {symbol : Char} (digit : isDigit symbol = true) :
    isBlank symbol = false := by
  rw [isDigit_iff] at digit
  simp [isBlank]
  omega

theorem dropPlus_of_isDigit {text : List Char} (digits : ∀ symbol ∈ text, isDigit symbol = true) :
    dropPlus text = text := by
  unfold dropPlus
  split
  next => exact absurd (digits '+' List.mem_cons_self) (by decide)
  next => rfl

theorem trim_toString (number : UInt32) :
    trim (toString number).toList = (toString number).toList :=
  trim_of_forall fun _ symbol_mem => isBlank_of_isDigit (isDigit_of_mem_toString symbol_mem)

theorem readUInt32_toString (number : UInt32) :
    readUInt32 (toString number).toList = some number := by
  have digits : ∀ symbol ∈ (toString number).toList, isDigit symbol = true :=
    fun _ => isDigit_of_mem_toString
  have value_eq : digitsValue (toString number).toList = number.toNat := by
    rw [toList_toString]
    exact Nat.ofDigitChars_eq_foldl.symm.trans Nat.ofDigitChars_ten_toDigits
  have number_lt : number.toNat < UInt32.size := number.toNat_lt
  rw [readUInt32, readNumeral, dropPlus_of_isDigit digits, readDigits,
    if_pos ⟨toString_toList_ne_nil number, List.all_eq_true.mpr digits⟩, value_eq]
  simp [Option.filter, number_lt]

/-! ## What is read -/

/-- A text writes a number: digits, of which there is at least one, perhaps behind a plus sign. -/
def IsNumeral (text : List Char) (number : Nat) : Prop :=
  ∃ digits, (text = digits ∨ text = '+' :: digits) ∧ digits ≠ [] ∧
    (∀ symbol ∈ digits, isDigit symbol = true) ∧ digitsValue digits = number

variable {text : List Char} {number : Nat}

theorem readDigits_eq_some_iff {digits : List Char} : readDigits digits = some number ↔
    digits ≠ [] ∧ (∀ symbol ∈ digits, isDigit symbol = true) ∧ digitsValue digits = number := by
  rw [← List.all_eq_true, readDigits]
  split
  · rename_i legal
    rw [Option.some.injEq, and_iff_right legal.1, and_iff_right legal.2]
  · rename_i illegal
    exact iff_of_false (by simp) fun all => illegal ⟨all.1, all.2.1⟩

theorem eq_or_eq_cons_dropPlus (text : List Char) :
    text = dropPlus text ∨ text = '+' :: dropPlus text := by
  unfold dropPlus
  split
  · exact Or.inr rfl
  · exact Or.inl rfl

theorem readDigits_dropPlus_eq_some_iff :
    readDigits (dropPlus text) = some number ↔ IsNumeral text number := by
  rw [readDigits_eq_some_iff]
  constructor
  · intro legal
    exact ⟨dropPlus text, eq_or_eq_cons_dropPlus text, legal⟩
  · rintro ⟨digits, rfl | rfl, some_digit, all_digits, value_eq⟩
    · rw [dropPlus_of_isDigit all_digits]
      exact ⟨some_digit, all_digits, value_eq⟩
    · exact ⟨some_digit, all_digits, value_eq⟩

theorem readUInt32_eq_some_iff {number : UInt32} :
    readUInt32 text = some number ↔ IsNumeral text number.toNat := by
  rw [readUInt32, readNumeral, Option.map_eq_some_iff]
  simp only [Option.filter_eq_some_iff, decide_eq_true_eq, readDigits_dropPlus_eq_some_iff]
  constructor
  · rintro ⟨value, ⟨numeral, value_lt⟩, rfl⟩
    rwa [UInt32.toNat_ofNat_of_lt' value_lt]
  · intro numeral
    exact ⟨number.toNat, ⟨numeral, number.toNat_lt⟩, UInt32.ofNat_toNat⟩

namespace IsNumeral

theorem ne_nil (numeral : IsNumeral text number) : text ≠ [] := by
  obtain ⟨digits, rfl | rfl, some_digit, -⟩ := numeral
  · exact some_digit
  · exact List.cons_ne_nil _ _

theorem isDigit_or_eq_plus (numeral : IsNumeral text number) :
    ∀ symbol ∈ text, isDigit symbol = true ∨ symbol = '+' := by
  obtain ⟨digits, rfl | rfl, -, all_digits, -⟩ := numeral
  · exact fun symbol member => Or.inl (all_digits symbol member)
  · intro symbol member
    rcases List.mem_cons.mp member with rfl | member
    · exact Or.inr rfl
    · exact Or.inl (all_digits symbol member)

theorem isBlank_eq_false (numeral : IsNumeral text number) :
    ∀ symbol ∈ text, isBlank symbol = false := by
  intro symbol member
  rcases numeral.isDigit_or_eq_plus symbol member with digit | rfl
  · exact isBlank_of_isDigit digit
  · decide

end IsNumeral

/-- A text writes a number, perhaps with blanks around it. -/
def IsPaddedNumeral (text : List Char) (number : Nat) : Prop :=
  ∃ front numeral back, text = front ++ numeral ++ back ∧ IsNumeral numeral number ∧
    (∀ symbol ∈ front, isBlank symbol = true) ∧ ∀ symbol ∈ back, isBlank symbol = true

theorem readUInt32_trim_eq_some_iff {number : UInt32} :
    readUInt32 (trim text) = some number ↔ IsPaddedNumeral text number.toNat := by
  rw [readUInt32_eq_some_iff]
  constructor
  · intro numeral
    obtain ⟨front, back, text_eq, front_blank, back_blank⟩ := exists_blanks_around_trim text
    exact ⟨front, trim text, back, text_eq, numeral, front_blank, back_blank⟩
  · rintro ⟨front, numeral, back, rfl, is_numeral, front_blank, back_blank⟩
    rwa [trim_of_blanks_around is_numeral.ne_nil front_blank is_numeral.isBlank_eq_false back_blank]

/-- Whether a symbol may be part of a numeral or stand around it. -/
def isNumeralSymbol (symbol : Char) : Bool :=
  isDigit symbol || symbol == '+' || isBlank symbol

theorem IsPaddedNumeral.symbols (padded : IsPaddedNumeral text number) :
    ∀ symbol ∈ text, isNumeralSymbol symbol = true := by
  obtain ⟨front, numeral, back, rfl, is_numeral, front_blank, back_blank⟩ := padded
  have of_blank {symbol : Char} (blank : isBlank symbol = true) :
      isNumeralSymbol symbol = true := by
    rw [isNumeralSymbol, blank, Bool.or_true]
  simp only [List.forall_mem_append]
  refine ⟨⟨fun symbol member => of_blank (front_blank symbol member), ?_⟩,
    fun symbol member => of_blank (back_blank symbol member)⟩
  intro symbol member
  rw [isNumeralSymbol]
  rcases is_numeral.isDigit_or_eq_plus symbol member with digit | plus
  · rw [digit, Bool.true_or, Bool.true_or]
  · rw [plus, beq_self_eq_true, Bool.or_true, Bool.true_or]

end GridWalk.Text
