import GridWalk.Text.Base64

/-!
# Base64 reads back

Bytes come back from the symbols they are written with, and nothing else is read. The proofs follow
the groups of three bytes: the values of the symbols of a group are the bits of its bytes cut at
other places.
-/

namespace GridWalk.Base64

/-! ## Symbols and their values -/

theorem value?_symbol {value : Nat} (value_lt : value < 64) :
    value? (symbol value) = some value := by
  have all_values : ∀ value : Fin 64, value? (symbol value) = some value.val := by decide +kernel
  exact all_values ⟨value, value_lt⟩

theorem symbol_mem_alphabet (value : Nat) : symbol value ∈ alphabet := by
  rw [symbol, List.getD_eq_getElem?_getD]
  cases found : alphabet[value]? with
  | none => decide +kernel
  | some symbol => exact List.mem_of_getElem? found

theorem mem_alphabet_of_mem_encode {bytes : List UInt8} :
    ∀ symbol ∈ encode bytes, symbol ∈ alphabet := by
  induction bytes using encode.induct with
  | case1 first second third rest induction =>
      simpa [encode, symbolsOf, symbol_mem_alphabet] using induction
  | case2 first second => simp [encode, symbolsOf, symbol_mem_alphabet]
  | case3 first => simp [encode, symbolsOf, symbol_mem_alphabet]
  | case4 => simp [encode]

theorem mapM_symbolsOf {first second upper : Nat} (first_lt : first < 256)
    (second_lt : second < 256) (upper_lt : upper < 4) :
    (symbolsOf first second upper).mapM value? =
      some [first / 4, first % 4 * 16 + second / 16, second % 16 * 4 + upper] := by
  have one := @value?_symbol (first / 4) (by omega)
  have two := @value?_symbol (first % 4 * 16 + second / 16) (by omega)
  have three := @value?_symbol (second % 16 * 4 + upper) (by omega)
  simp [symbolsOf, one, two, three]

/-! ## Groups -/

theorem firstByte_cut (byte : UInt8) {upper : Nat} (upper_lt : upper < 16) :
    firstByte (byte.toNat / 4) (byte.toNat % 4 * 16 + upper) = byte := by
  have value_eq : byte.toNat / 4 * 4 + (byte.toNat % 4 * 16 + upper) / 16 = byte.toNat := by omega
  rw [firstByte, value_eq, UInt8.ofNat_toNat]

theorem secondByte_cut (byte : UInt8) {lower upper : Nat} (upper_lt : upper < 4) :
    secondByte (lower * 16 + byte.toNat / 16) (byte.toNat % 16 * 4 + upper) = byte := by
  have byte_lt := byte.toNat_lt
  have value_eq : (lower * 16 + byte.toNat / 16) % 16 * 16 + (byte.toNat % 16 * 4 + upper) / 4 =
      byte.toNat := by omega
  rw [secondByte, value_eq, UInt8.ofNat_toNat]

theorem thirdByte_cut (byte : UInt8) {lower : Nat} :
    thirdByte (lower * 4 + byte.toNat / 64) (byte.toNat % 64) = byte := by
  have byte_lt := byte.toNat_lt
  have value_eq : (lower * 4 + byte.toNat / 64) % 4 * 64 + byte.toNat % 64 = byte.toNat := by omega
  rw [thirdByte, value_eq, UInt8.ofNat_toNat]

/-- The symbols of bytes have values, and these stand for the bytes. -/
theorem exists_values (bytes : List UInt8) :
    ∃ values, (encode bytes).mapM value? = some values ∧ ofValues values = some bytes := by
  induction bytes using encode.induct with
  | case1 first second third rest induction =>
      obtain ⟨values, values_eq, rest_eq⟩ := induction
      have third_lt := third.toNat_lt
      have second_upper : second.toNat / 16 < 16 := by
        have := second.toNat_lt
        omega
      have third_upper : third.toNat / 64 < 4 := by omega
      have group := mapM_symbolsOf first.toNat_lt second.toNat_lt third_upper
      have four := @value?_symbol (third.toNat % 64) (by omega)
      refine ⟨first.toNat / 4 :: (first.toNat % 4 * 16 + second.toNat / 16) ::
        (second.toNat % 16 * 4 + third.toNat / 64) :: third.toNat % 64 :: values, ?_, ?_⟩
      · simp [encode, group, four, values_eq]
      · simp [ofValues, rest_eq, firstByte_cut first second_upper,
          secondByte_cut second third_upper, thirdByte_cut third]
  | case2 first second =>
      have second_upper : second.toNat / 16 < 16 := by
        have := second.toNat_lt
        omega
      have group := mapM_symbolsOf first.toNat_lt second.toNat_lt (show 0 < 4 by decide)
      refine ⟨_, group, ?_⟩
      simpa [ofValues, firstByte_cut first second_upper] using
        secondByte_cut second (show 0 < 4 by decide)
  | case3 first =>
      have first_lt := first.toNat_lt
      have one := @value?_symbol (first.toNat / 4) (by omega)
      have two := @value?_symbol (first.toNat % 4 * 16) (by omega)
      refine ⟨[first.toNat / 4, first.toNat % 4 * 16], ?_, ?_⟩
      · simp [encode, symbolsOf, one, two]
      · simpa [ofValues] using firstByte_cut first (show 0 < 16 by decide)
  | case4 => exact ⟨[], rfl, rfl⟩

theorem decode_encode (bytes : List UInt8) : decode (encode bytes) = some bytes := by
  obtain ⟨values, values_eq, bytes_eq⟩ := exists_values bytes
  simp [decode, values_eq, bytes_eq]

/-! ## Nothing else is read -/

theorem value?_eq_some_iff {char : Char} {value : Nat} :
    value? char = some value ↔ value < 64 ∧ symbol value = char := by
  constructor
  · intro known
    obtain ⟨value_lt, char_eq, -⟩ := List.idxOf?_eq_some_iff.mp known
    refine ⟨value_lt, ?_⟩
    rw [symbol, List.getD_eq_getElem?_getD, List.getElem?_eq_getElem value_lt, char_eq,
      Option.getD_some]
  · rintro ⟨value_lt, rfl⟩
    exact value?_symbol value_lt

theorem mapM_value?_eq_some_iff {text : List Char} {values : List Nat} :
    text.mapM value? = some values ↔
      (∀ value ∈ values, value < 64) ∧ values.map symbol = text := by
  induction text generalizing values with
  | nil => cases values <;> simp
  | cons char text induction =>
      simp only [List.mapM_cons, Option.bind_eq_bind, Option.bind_eq_some_iff, value?_eq_some_iff,
        induction, Option.pure_def, Option.some.injEq]
      constructor
      · rintro ⟨value, ⟨value_lt, rfl⟩, rest, ⟨small, rfl⟩, rfl⟩
        exact ⟨List.forall_mem_cons.mpr ⟨value_lt, small⟩, rfl⟩
      · rintro ⟨small, text_eq⟩
        cases values with
        | nil => cases text_eq
        | cons value rest =>
            obtain ⟨value_lt, small⟩ := List.forall_mem_cons.mp small
            obtain ⟨rfl, rfl⟩ := List.cons.inj text_eq
            exact ⟨value, ⟨value_lt, rfl⟩, rest, ⟨small, rfl⟩, rfl⟩

theorem toNat_firstByte {one two : Nat} (one_lt : one < 64) (two_lt : two < 64) :
    (firstByte one two).toNat = one * 4 + two / 16 :=
  UInt8.toNat_ofNat_of_lt' (by change _ < 256; omega)

theorem toNat_secondByte {two three : Nat} (three_lt : three < 64) :
    (secondByte two three).toNat = two % 16 * 16 + three / 4 :=
  UInt8.toNat_ofNat_of_lt' (by change _ < 256; omega)

theorem toNat_thirdByte {three four : Nat} (four_lt : four < 64) :
    (thirdByte three four).toNat = three % 4 * 64 + four :=
  UInt8.toNat_ofNat_of_lt' (by change _ < 256; omega)

/-- The values of three symbols are found again in the bytes that they stand for. -/
theorem symbolsOf_bytes {one two three upper : Nat} (one_lt : one < 64) (two_lt : two < 64)
    (three_lt : three < 64) (upper_eq : three % 4 = upper) :
    symbolsOf (firstByte one two).toNat (secondByte two three).toNat upper =
      [symbol one, symbol two, symbol three] := by
  rw [symbolsOf, toNat_firstByte one_lt two_lt, toNat_secondByte three_lt]
  have one_eq : (one * 4 + two / 16) / 4 = one := by omega
  have two_eq : (one * 4 + two / 16) % 4 * 16 + (two % 16 * 16 + three / 4) / 16 = two := by omega
  have three_eq : (two % 16 * 16 + three / 4) % 16 * 4 + upper = three := by omega
  rw [one_eq, two_eq, three_eq]

/-- Bytes are written with the symbols of the values that stand for them. -/
theorem encode_of_ofValues {values : List Nat} {bytes : List UInt8}
    (small : ∀ value ∈ values, value < 64) (bytes_eq : ofValues values = some bytes) :
    encode bytes = values.map symbol := by
  induction values using ofValues.induct generalizing bytes with
  | case1 one two three four rest induction =>
      simp only [List.forall_mem_cons] at small
      obtain ⟨one_lt, two_lt, three_lt, four_lt, rest_small⟩ := small
      rw [ofValues, Option.map_eq_some_iff] at bytes_eq
      obtain ⟨bytes, rest_eq, rfl⟩ := bytes_eq
      have third_eq := @toNat_thirdByte three four four_lt
      have upper_eq : three % 4 = (thirdByte three four).toNat / 64 := by omega
      have four_eq : (thirdByte three four).toNat % 64 = four := by omega
      rw [encode, symbolsOf_bytes one_lt two_lt three_lt upper_eq, four_eq,
        induction rest_small rest_eq]
      rfl
  | case2 one two three unused =>
      simp only [List.forall_mem_cons] at small
      obtain ⟨one_lt, two_lt, three_lt, -⟩ := small
      rw [ofValues, if_pos unused, Option.some.injEq] at bytes_eq
      rw [← bytes_eq, encode, symbolsOf_bytes one_lt two_lt three_lt unused]
      rfl
  | case3 one two three used =>
      rw [ofValues, if_neg used] at bytes_eq
      cases bytes_eq
  | case4 one two unused =>
      simp only [List.forall_mem_cons] at small
      obtain ⟨one_lt, two_lt, -⟩ := small
      rw [ofValues, if_pos unused, Option.some.injEq] at bytes_eq
      have one_eq : (firstByte one two).toNat / 4 = one := by
        rw [toNat_firstByte one_lt two_lt]
        omega
      have two_eq : (firstByte one two).toNat % 4 * 16 + 0 / 16 = two := by
        rw [toNat_firstByte one_lt two_lt]
        omega
      rw [← bytes_eq, encode, symbolsOf, one_eq, two_eq]
      rfl
  | case5 one two used =>
      rw [ofValues, if_neg used] at bytes_eq
      cases bytes_eq
  | case6 one => cases bytes_eq
  | case7 =>
      rw [ofValues, Option.some.injEq] at bytes_eq
      rw [← bytes_eq]
      rfl

/-- Only what bytes are written with is read, and as these bytes. -/
theorem decode_eq_some_iff {text : List Char} {bytes : List UInt8} :
    decode text = some bytes ↔ text = encode bytes := by
  constructor
  · intro decoded
    obtain ⟨values, values_eq, bytes_eq⟩ := Option.bind_eq_some_iff.mp decoded
    obtain ⟨small, rfl⟩ := mapM_value?_eq_some_iff.mp values_eq
    exact (encode_of_ofValues small bytes_eq).symm
  · rintro rfl
    exact decode_encode bytes

end GridWalk.Base64
