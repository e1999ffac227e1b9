import GridWalk.Json.Text

/-!
# JSON strings read back

The bytes of a text are those of its characters in a row. A text without quotes, backslashes and
control characters is written as it stands, and is read from its bytes up to the closing quote.
-/

namespace GridWalk.Json

variable {text : String} {bytes rest : Bytes}

/-! ## Bytes of texts -/

private theorem toList_loop (array : ByteArray) (start : Nat) (taken : List UInt8) :
    ByteArray.toList.loop array start taken = taken.reverse ++ array.data.toList.drop start := by
  fun_induction ByteArray.toList.loop array start taken with
  | case1 start taken inside induction =>
      have start_lt : start < array.data.size := inside
      have byte_eq : array.get! start = array.data.toList[start] := by
        rw [Array.getElem_toList]
        exact getElem!_pos array.data start start_lt
      rw [induction, List.drop_eq_getElem_cons start_lt, List.reverse_cons, byte_eq,
        List.append_assoc, List.singleton_append]
  | case2 start taken outside =>
      have length_le : array.data.toList.length ≤ start := Nat.le_of_not_lt outside
      rw [List.drop_of_length_le length_le, List.append_nil]

theorem bytesOf_eq_toList (text : String) : bytesOf text = text.toUTF8.data.toList := by
  rw [bytesOf, ByteArray.toList, toList_loop]
  rfl

theorem bytesOf_eq_flatMap (text : String) :
    bytesOf text = text.toList.flatMap String.utf8EncodeChar := by
  rw [bytesOf_eq_toList, String.toUTF8, ← String.utf8Encode_toList, List.utf8Encode,
    List.toList_data_toByteArray]

@[simp]
theorem bytesOf_append (left right : String) :
    bytesOf (left ++ right) = bytesOf left ++ bytesOf right := by
  simp [bytesOf_eq_flatMap]

theorem fromUTF8?_bytesOf (text : String) :
    String.fromUTF8? ⟨(bytesOf text).toArray⟩ = some text := by
  have bytes_eq : (⟨(bytesOf text).toArray⟩ : ByteArray) = text.toByteArray := by
    rw [bytesOf_eq_toList, Array.toArray_toList]
    rfl
  rw [bytes_eq, String.fromUTF8?, dif_pos text.isValidUTF8]
  rfl

/-! ## Plain texts -/

/-- Whether a character stands for itself in a JSON string. -/
def isPlain (symbol : Char) : Bool :=
  symbol != '"' && symbol != '\\' && ' ' ≤ symbol

/-- Whether a byte stands for itself in a JSON string. -/
def isPlainByte (code : UInt8) : Bool :=
  code != byte '"' && code != byte '\\' && byte ' ' ≤ code

theorem isPlainByte_iff {code : UInt8} :
    isPlainByte code = true ↔ code.toNat ≠ 34 ∧ code.toNat ≠ 92 ∧ 32 ≤ code.toNat := by
  simp only [isPlainByte, Bool.and_eq_true, bne_iff_ne, ne_eq, decide_eq_true_eq,
    ← UInt8.toNat_inj, UInt8.le_iff_toNat_le, and_assoc]
  rfl

theorem isPlain_iff {symbol : Char} :
    isPlain symbol = true ↔
      symbol.val.toNat ≠ 34 ∧ symbol.val.toNat ≠ 92 ∧ 32 ≤ symbol.val.toNat := by
  simp only [isPlain, Bool.and_eq_true, bne_iff_ne, ne_eq, decide_eq_true_eq,
    ← Char.toNat_inj, Char.le_def, UInt32.le_iff_toNat_le, and_assoc]
  rfl

theorem le_of_mem_utf8EncodeChar {symbol : Char} (beyond : 128 ≤ symbol.val.toNat) :
    ∀ code ∈ String.utf8EncodeChar symbol, 128 ≤ code.toNat := by
  have high {value : Nat} (value_ge : 128 ≤ value) (value_lt : value < 256) :
      128 ≤ (UInt8.ofNat value).toNat := by
    rwa [UInt8.toNat_ofNat_of_lt' value_lt]
  rw [String.utf8EncodeChar.eq_1, if_neg (by omega)]
  split
  · simp only [List.forall_mem_cons]
    exact ⟨high (by omega) (by omega), high (by omega) (by omega), by simp⟩
  split
  · simp only [List.forall_mem_cons]
    exact ⟨high (by omega) (by omega), high (by omega) (by omega), high (by omega) (by omega),
      by simp⟩
  · simp only [List.forall_mem_cons]
    exact ⟨high (by omega) (by omega), high (by omega) (by omega), high (by omega) (by omega),
      high (by omega) (by omega), by simp⟩

/-- A plain character has plain bytes only: its own one, or bytes beyond those of ASCII. -/
theorem isPlainByte_of_isPlain {symbol : Char} (plain : isPlain symbol = true) :
    ∀ code ∈ String.utf8EncodeChar symbol, isPlainByte code = true := by
  rw [isPlain_iff] at plain
  intro code code_mem
  rw [isPlainByte_iff]
  by_cases beyond : 128 ≤ symbol.val.toNat
  · have := le_of_mem_utf8EncodeChar beyond code code_mem
    omega
  · rw [String.utf8EncodeChar.eq_1, if_pos (by omega), List.mem_singleton] at code_mem
    have symbol_lt : symbol.val.toNat < UInt8.size := by
      have : UInt8.size = 256 := rfl
      omega
    rwa [code_mem, UInt8.toNat_ofNat_of_lt' symbol_lt]

theorem readBytes_of_isPlainByte (plain : ∀ code ∈ bytes, isPlainByte code = true) :
    readBytes none (bytes ++ byte '"' :: rest) = .ok (bytes, rest) := by
  induction bytes with
  | nil =>
      unfold readBytes
      rfl
  | cons code bytes induction =>
      obtain ⟨code_plain, bytes_plain⟩ := List.forall_mem_cons.mp plain
      simp only [isPlainByte, Bool.and_eq_true, bne_iff_ne, decide_eq_true_eq] at code_plain
      obtain ⟨⟨not_quote, not_escape⟩, not_control⟩ := code_plain
      unfold readBytes
      simp [not_quote, not_escape, UInt8.not_lt.mpr not_control, induction bytes_plain]

theorem readText_of_isPlain (plain : ∀ symbol ∈ text.toList, isPlain symbol = true) :
    readText (bytesOf text ++ byte '"' :: rest) = .ok (text, rest) := by
  have plain_bytes : ∀ code ∈ bytesOf text, isPlainByte code = true := by
    intro code code_mem
    rw [bytesOf_eq_flatMap, List.mem_flatMap] at code_mem
    obtain ⟨symbol, symbol_mem, code_mem⟩ := code_mem
    exact isPlainByte_of_isPlain (plain symbol symbol_mem) code code_mem
  have read : readBytes none (bytesOf text ++ byte '"' :: rest) = .ok (bytesOf text, rest) :=
    readBytes_of_isPlainByte plain_bytes
  simp [readText, read, fromUTF8?_bytesOf]

end GridWalk.Json
