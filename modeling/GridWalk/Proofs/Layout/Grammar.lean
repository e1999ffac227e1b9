import GridWalk.Proofs.Layout.Depiction
import GridWalk.Proofs.Layout.Transfer

/-!
# The grammar of transfer strings

A transfer string says what it is, how it is written, the size of the grid and, in Base64, a map of
that size, with colons between the four. Every such string is read as the layout that its map
depicts. Nothing is asked of what stands behind a fourth colon, so that a string is also read if a
transfer string and a colon begin it.
-/

namespace GridWalk
namespace Layout

variable {layout : Layout} {size : GridSize} {file : MapFile} {text payload : List Char}

/-! ## Sizes -/

/-- A text writes the size of a grid that is not empty: two numbers and a letter x between them. -/
def WritesSize (text : List Char) (size : GridSize) : Prop :=
  ∃ columns delimiter rows, text = columns ++ delimiter :: rows ∧
    (delimiter = 'x' ∨ delimiter = 'X') ∧ Text.IsPaddedNumeral columns size.columns.toNat ∧
    Text.IsPaddedNumeral rows size.rows.toNat ∧ 0 < size.columns.toNat ∧ 0 < size.rows.toNat

theorem readDimensions?_eq_some_iff :
    readDimensions? text = some size ↔ WritesSize text size := by
  simp only [readDimensions?, Option.bind_eq_bind, Option.bind_eq_some_iff, Prod.exists,
    Text.splitFirst_eq_some_iff, Text.readUInt32_trim_eq_some_iff, decide_eq_true_eq]
  constructor
  · rintro ⟨columns, rows, ⟨delimiter, is_x, -, rfl⟩, columnCount, columns_padded, rowCount,
      rows_padded, checked⟩
    split at checked
    · cases checked
    · rename_i some_cell
      cases checked
      obtain ⟨columns_pos, rows_pos⟩ :=
        GridSize.isEmpty_eq_false_iff.mp (Bool.eq_false_iff.mpr some_cell)
      exact ⟨columns, delimiter, rows, rfl, is_x, columns_padded, rows_padded, columns_pos,
        rows_pos⟩
  · rintro ⟨columns, delimiter, rows, rfl, is_x, columns_padded, rows_padded, positive⟩
    have some_cell : size.isEmpty = false := GridSize.isEmpty_eq_false_iff.mpr positive
    refine ⟨columns, rows, ⟨delimiter, is_x, ?_, rfl⟩, _, columns_padded, _, rows_padded, ?_⟩
    · -- No numeral has an x, so the delimiter is the first one.
      intro symbol member
      have numeral_symbol := columns_padded.symbols symbol member
      rw [decide_eq_false_iff_not]
      rintro (rfl | rfl)
      · exact absurd numeral_symbol (by decide)
      · exact absurd numeral_symbol (by decide)
    · exact if_neg (Bool.eq_false_iff.mp some_cell)

theorem WritesSize.colon_notMem (writes : WritesSize text size) : ':' ∉ text := by
  obtain ⟨columns, delimiter, rows, rfl, is_x, columns_padded, rows_padded, -⟩ := writes
  have no_numeral {number : Nat} {numeral : List Char}
      (padded : Text.IsPaddedNumeral numeral number) : ':' ∉ numeral :=
    fun member => absurd (padded.symbols ':' member) (by decide)
  have no_delimiter : ':' ≠ delimiter := by
    rintro rfl
    exact absurd is_x (by decide)
  simp only [List.mem_append, List.mem_cons, not_or]
  exact ⟨no_numeral columns_padded, no_delimiter, no_numeral rows_padded⟩

/-! ## The parts of a transfer string -/

theorem ofJson_eq_ok_iff {document : Json.Bytes} : ofJson document = .ok layout ↔
    ∃ file, MapFile.read document = .ok file ∧ file.IsMap layout.size ∧ layout.Depicts file := by
  rw [ofJson]
  cases MapFile.read document with
  | ok file => simp [ofMapFile_eq_ok_iff_depicts]
  | error fault => simp

theorem ofPayload_eq_ok_iff :
    ofPayload size payload = .ok layout ↔ layout.size = size ∧ ∃ document,
      payload = Base64.encode document ∧ ofJson document = .ok layout := by
  rw [ofPayload]
  cases decoded : Base64.decode payload with
  | none =>
      refine iff_of_false (by simp) ?_
      rintro ⟨-, document, payload_eq, -⟩
      rw [Base64.decode_eq_some_iff.mpr payload_eq] at decoded
      cases decoded
  | some document =>
      have written := Base64.decode_eq_some_iff.mp decoded
      rw [bind_eq_ok_iff]
      constructor
      · rintro ⟨found, found_eq, checked⟩
        split at checked
        · rename_i size_eq
          cases checked
          exact ⟨size_eq, document, written, found_eq⟩
        · cases checked
      · rintro ⟨rfl, other, payload_eq, found_eq⟩
        rw [Base64.decode_eq_some_iff.mpr payload_eq, Option.some.injEq] at decoded
        exact ⟨layout, decoded ▸ found_eq, if_pos rfl⟩

theorem ofParts_eq_ok_iff {domain version dimensions : List Char} :
    ofParts domain version dimensions payload = .ok layout ↔ domain = "map".toList ∧
      version = "v1".toList ∧ WritesSize dimensions layout.size ∧ ∃ document,
        payload = Base64.encode document ∧ ofJson document = .ok layout := by
  have domain_iff : String.ofList domain = transferDomain ↔ domain = "map".toList := by
    rw [← String.toList_inj, String.toList_ofList]
    rfl
  have version_iff : String.ofList version = transferVersion ↔ version = "v1".toList := by
    rw [← String.toList_inj, String.toList_ofList]
    rfl
  rw [ofParts]
  split
  · rename_i other_domain
    exact iff_of_false (by simp) fun all => other_domain (domain_iff.mpr all.1)
  split
  · rename_i other_version
    exact iff_of_false (by simp) fun all => other_version (version_iff.mpr all.2.1)
  rename_i same_domain same_version
  rw [not_not] at same_domain same_version
  rw [and_iff_right (domain_iff.mp same_domain), and_iff_right (version_iff.mp same_version),
    ← readDimensions?_eq_some_iff]
  cases declared : readDimensions? dimensions with
  | none => exact iff_of_false (by simp) (by simp)
  | some size => exact ofPayload_eq_ok_iff.trans (and_congr_left' (by simp [eq_comm]))

theorem decode_eq_ok_iff_ofParts (text : String) :
    decode text = .ok layout ↔ ∃ domain version dimensions payload others,
      Text.fields ':' (Text.trim text.toList) =
          domain :: version :: dimensions :: payload :: others ∧
        ofParts domain version dimensions payload = .ok layout := by
  simp only [decode]
  split
  · rename_i blank
    simp [blank, Text.fields]
  · split <;> simp_all

/-! ## Transfer strings -/

/-- A text is the transfer string of a map of a grid. -/
def Transfers (text : List Char) (size : GridSize) (file : MapFile) : Prop :=
  ∃ dimensions document, text = "map".toList ++ ':' :: ("v1".toList ++ ':' ::
      (dimensions ++ ':' :: Base64.encode document)) ∧
    WritesSize dimensions size ∧ MapFile.read document = .ok file ∧ file.IsMap size

theorem colon_notMem_encode (document : List UInt8) : ':' ∉ Base64.encode document :=
  fun member => (isFieldSymbol_of_mem_encode document ':' member).2 rfl

/-- A transfer string has three colons, no less and no more. -/
theorem Transfers.count_colon (transfers : Transfers text size file) : text.count ':' = 3 := by
  obtain ⟨dimensions, document, rfl, writes, -⟩ := transfers
  have domain_count : "map".toList.count ':' = 0 := by decide
  have version_count : "v1".toList.count ':' = 0 := by decide
  simp only [List.count_append, List.count_cons_self, domain_count, version_count,
    List.count_eq_zero_of_not_mem writes.colon_notMem,
    List.count_eq_zero_of_not_mem (colon_notMem_encode document)]

/-- A string is read if a transfer string begins it and a colon follows unless it ends there. -/
theorem decode_eq_ok_iff_transfers (text : String) :
    decode text = .ok layout ↔ ∃ transfer behind file,
      Text.trim text.toList = transfer ++ behind ∧ (behind = [] ∨ behind.head? = some ':') ∧
        Transfers transfer layout.size file ∧ layout.Depicts file := by
  simp only [decode_eq_ok_iff_ofParts, ofParts_eq_ok_iff, ofJson_eq_ok_iff]
  constructor
  · rintro ⟨_, _, dimensions, _, others, fields_eq, rfl, rfl, writes, document, rfl, file, read,
      is_map, depicts⟩
    simp only [Text.fields_eq_cons_iff, reduceCtorEq, and_false, false_or] at fields_eq
    obtain ⟨-, _, text_eq, -, _, rfl, -, _, rfl, -, behind_eq⟩ := fields_eq
    have transfers : Transfers _ layout.size file :=
      ⟨dimensions, document, rfl, writes, read, is_map⟩
    rcases behind_eq with ⟨rfl, -⟩ | ⟨rest, rfl, -⟩
    · exact ⟨_, [], file, by rw [text_eq, List.append_nil], Or.inl rfl, transfers, depicts⟩
    · refine ⟨_, ':' :: rest, file, ?_, Or.inr rfl, transfers, depicts⟩
      rw [text_eq]
      simp only [List.append_assoc, List.cons_append]
  · rintro ⟨_, behind, file, text_eq, behind_start, ⟨dimensions, document, rfl, writes, read,
      is_map⟩, depicts⟩
    have payload_fields : ∃ others, Text.fields ':' (Base64.encode document ++ behind) =
        Base64.encode document :: others := by
      cases behind with
      | nil =>
          rw [List.append_nil]
          exact ⟨[], Text.fields_of_notMem (colon_notMem_encode document)⟩
      | cons symbol rest =>
          obtain rfl : symbol = ':' := by simpa using behind_start
          exact ⟨_, Text.fields_append_cons (colon_notMem_encode document)⟩
    obtain ⟨others, payload_fields⟩ := payload_fields
    refine ⟨_, _, dimensions, _, others, ?_, rfl, rfl, writes, document, rfl, file, read, is_map,
      depicts⟩
    rw [text_eq]
    simp only [List.append_assoc, List.cons_append]
    rw [Text.fields_append_cons (by decide), Text.fields_append_cons (by decide),
      Text.fields_append_cons writes.colon_notMem, payload_fields]

/-- A string is read exactly if a transfer string begins it, blanks around it left out, and a colon
follows unless it ends there; what follows does not matter. With three colons it is the transfer
string. -/
theorem decode_accepts_transfer_strings (text : String) :
    let trimmed := Text.trim text.toList
    (∀ layout, decode text = .ok layout ↔ ∃ transfer behind file, trimmed = transfer ++ behind ∧
      (behind = [] ∨ behind.head? = some ':') ∧ Transfers transfer layout.size file ∧
        layout.Depicts file) ∧
    ((∃ layout, decode text = .ok layout) ↔ ∃ transfer behind size file,
      trimmed = transfer ++ behind ∧ (behind = [] ∨ behind.head? = some ':') ∧
        Transfers transfer size file) ∧
    ∀ layout, decode text = .ok layout ∧ trimmed.count ':' = 3 ↔
      ∃ file, Transfers trimmed layout.size file ∧ layout.Depicts file := by
  intro trimmed
  refine ⟨fun layout => decode_eq_ok_iff_transfers text, ?_, fun layout => ?_⟩
  · constructor
    · rintro ⟨layout, decoded⟩
      obtain ⟨transfer, behind, file, text_eq, behind_start, transfers, -⟩ :=
        (decode_eq_ok_iff_transfers text).mp decoded
      exact ⟨transfer, behind, layout.size, file, text_eq, behind_start, transfers⟩
    · rintro ⟨transfer, behind, size, file, text_eq, behind_start, transfers⟩
      have is_map : file.IsMap size := by
        obtain ⟨_, _, _, _, _, is_map⟩ := transfers
        exact is_map
      obtain ⟨layout, rfl, read⟩ := exists_ofMapFile_iff.mpr is_map
      exact ⟨layout, (decode_eq_ok_iff_transfers text).mpr ⟨transfer, behind, file, text_eq,
        behind_start, transfers, depicts_of_ofMapFile read⟩⟩
  · rw [decode_eq_ok_iff_transfers]
    constructor
    · rintro ⟨⟨transfer, behind, file, text_eq, behind_start, transfers, depicts⟩, count_eq⟩
      -- All three colons are in the transfer string, so none is left to begin anything behind it.
      have text_eq : trimmed = transfer ++ behind := text_eq
      rw [text_eq, List.count_append, transfers.count_colon] at count_eq
      rcases behind_start with rfl | colon
      · rw [text_eq, List.append_nil]
        exact ⟨file, transfers, depicts⟩
      · have some_colon := List.count_pos_iff.mpr (List.mem_of_mem_head? colon)
        omega
    · rintro ⟨file, transfers, depicts⟩
      exact ⟨⟨trimmed, [], file, (List.append_nil _).symm, Or.inl rfl, transfers, depicts⟩,
        transfers.count_colon⟩

/-- A string with something behind a fourth colon is read although it is no transfer string. -/
theorem decode_with_fifth_field :
    (∃ layout, decode "map:v1:1x1:eyJyb3dzIjpbIi4iXX0:junk" = .ok layout) ∧
      ¬ ∃ size file, Transfers
        (Text.trim "map:v1:1x1:eyJyb3dzIjpbIi4iXX0:junk".toList) size file := by
  constructor
  · exact ⟨plain ⟨1, 1⟩, by decide +kernel⟩
  · rintro ⟨size, file, transfers⟩
    exact absurd transfers.count_colon (by decide +kernel)

end Layout
end GridWalk
